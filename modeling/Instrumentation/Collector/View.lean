import Instrumentation.Engine.Methods

namespace Instrumentation

/-! The collecting engine as one plugin sees it. -/

structure CollectorView where
  collector : Key Collector
  plugin : PluginId

namespace CollectorView

variable {Host : Type}

def readCollector (view : CollectorView) : Program Host Collector :=
  Collector.read view.collector

def onCollector {Value : Type} (view : CollectorView)
    (step : Collector → Value × Collector) : Program Host Value := do
  let (value, collector) := step (← view.readCollector)
  Collector.write view.collector collector
  return value

def readClock (view : CollectorView) : Program Host UInt64 := do
  Clock.read (← view.readCollector).clock

def elapsed (view : CollectorView) (start : UInt64) : Program Host Nat := do
  Clock.elapsed (← view.readCollector).clock start

/-- The aggregate of a name, looked up first and taken in only if it is missing. -/
def statsFor (view : CollectorView) (name : String) : Program Host (Key MetricStats) := do
  match (← view.readCollector).findStats? name with
  | some stats => return stats
  | none =>
      let fresh ← MetricStats.create
      view.onCollector (·.findOrInsertStats name fresh)

def createMetric (view : CollectorView) (name : String) : Program Host Metric := do
  let stats ← view.statsFor name
  return .ofEngine name stats (← view.readCollector).clock

def property? (view : CollectorView) (name : String) : Program Host (Option Property) := do
  let config := (← view.readCollector).config
  return (config.plugin? view.plugin.text).bind (·.property? name)

/-- The time since a reading becomes a sample of the handle that was given, which
need not be one of this collector. -/
def recordTiming (view : CollectorView) (metric : Metric) (start : UInt64) :
    Program Host Unit := do
  metric.record (← view.elapsed start)

/-- The end of a call that proceeded: a sample if it returned, then `close` with
its outcome in any case, and on with the panic if there is one. -/
def afterCall (view : CollectorView) (metric : Metric) (start : UInt64)
    (close : Nat → Outcome → Program Host Unit) : CallEnding → Program Host Unit
  | .ok outcome => do
      view.recordTiming metric start
      close (← view.elapsed start) outcome
  | .error payload => do
      close (← view.elapsed start) .panicked
      throw payload

def pushCompleted (view : CollectorView) (trace : CompletedTrace) : Program Host Unit := do
  emit (.traceCompleted trace.plugin trace.duration trace.spans.length)
  view.onCollector fun collector => ((), collector.push trace)

def closeRoot (view : CollectorView) (thread : ThreadId) (duration : Nat)
    (outcome : Outcome) : Program Host Unit := do
  match ← view.onCollector (·.closeTrace thread) with
  | none => return
  | some trace => view.pushCompleted (trace.complete duration outcome)

def closeSpan (view : CollectorView) (thread : ThreadId) (slot : Option Nat)
    (duration : Nat) (outcome : Outcome) : Program Host Unit := do
  match slot with
  | none => return
  | some slot =>
      view.onCollector fun collector =>
        ((), collector.leaveSpan thread slot duration outcome)

def executeSpan (view : CollectorView) (metric : Metric) (detail : Detail) :
    Interception Host where
  enter := do
    let thread ← currentThread
    let start ← view.readClock
    let slot ← view.onCollector (·.enterSpan thread metric.name detail start)
    return some (view.afterCall metric start (view.closeSpan thread slot))

def executeRootSpan (view : CollectorView) (metric : Metric) (detail : Detail) :
    Interception Host where
  enter := do
    let thread ← currentThread
    let start ← view.readClock
    let number := (← get).traces
    let trace : OpenTrace :=
      { number, plugin := view.plugin, start, metric := metric.name, detail }
    match (← view.readCollector).openTrace thread trace with
    | none => (view.executeSpan metric detail).enter
    | some collector =>
        modify fun world => { world with traces := number + 1 }
        Collector.write view.collector collector
        return some (view.afterCall metric start (view.closeRoot thread))

def recordMetricData (view : CollectorView) (metric : Metric) : Interception Host where
  enter := do
    let start ← view.readClock
    return some fun
      | .ok _ => view.recordTiming metric start
      | .error payload => throw payload

def putTraceAttribute (view : CollectorView) (name value : String) :
    Program Host (Except Error Unit) := do
  let thread ← currentThread
  match ← view.onCollector (·.putAttribute thread name value) with
  | .kept => pure ()
  | .overLimit => emit (.attributeOverLimit name)
  | .outsideTrace => emit (.attributeOutsideTrace view.plugin name)
  return .ok ()

def methods (view : CollectorView) : EngineMethods Host where
  createMetric := view.createMetric
  isEnabled := do return (← view.readCollector).config.enabled
  stringProperty name := do return .ok ((← view.property? name).bind Property.asText)
  booleanProperty name := do
    return .ok (((← view.property? name).bind Property.asBoolean).getD false)
  doubleProperty name := do return .ok ((← view.property? name).bind Property.asDouble)
  executeRootSpan := view.executeRootSpan
  executeSpan := view.executeSpan
  recordMetricData := view.recordMetricData
  putTraceAttribute := view.putTraceAttribute
  rootSpanDetail := do
    return .ok ((← view.readCollector).rootDetail (← currentThread))

end CollectorView

end Instrumentation
