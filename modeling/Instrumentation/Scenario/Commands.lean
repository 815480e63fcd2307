import Instrumentation.Diagnostic
import Instrumentation.Scenario.Session
import Instrumentation.Services.Calls

namespace Instrumentation.Scenario

/-! The steps that run no other steps and call no factory. -/

variable {Value : Type}

instance : HostEngines (Session Value) := Probe.hostEngines (Session Value)

inductive Target where
  | services (key : Key PluginServices)
  | engine (engine : Engine)

/-- Services go before engines of the same name. -/
def withTarget (name : String) (use : Target → Play Value (Answer Value)) :
    Play Value (Answer Value) := do
  match (← get).host.services.find? name with
  | some key => use (.services key)
  | none => withNamed Session.engines name fun engine => use (.engine engine)

namespace Target

def createMetric (target : Target) (name : String) : Play Value Metric :=
  match target with
  | services key => PluginServices.createMetric key name
  | engine kind => kind.methods.createMetric name

def isEnabled : Target → Play Value Bool
  | services key => PluginServices.isEnabled key
  | engine kind => kind.methods.isEnabled

def stringProperty (target : Target) (name : String) :
    Play Value (Except Error (Option String)) :=
  match target with
  | services key => PluginServices.stringProperty key name
  | engine kind => kind.methods.stringProperty name

def booleanProperty (target : Target) (name : String) : Play Value (Except Error Bool) :=
  match target with
  | services key => PluginServices.booleanProperty key name
  | engine kind => kind.methods.booleanProperty name

def doubleProperty (target : Target) (name : String) :
    Play Value (Except Error (Option Binary64)) :=
  match target with
  | services key => PluginServices.doubleProperty key name
  | engine kind => kind.methods.doubleProperty name

def putTraceAttribute (target : Target) (name value : String) :
    Play Value (Except Error Unit) :=
  match target with
  | services key => PluginServices.putTraceAttribute key name value
  | engine kind => kind.methods.putTraceAttribute name value

def rootSpanDetail : Target → Play Value (Except Error (Option Detail))
  | services key => PluginServices.rootSpanDetail key
  | engine kind => kind.methods.rootSpanDetail

end Target

def metricAnswer (metric : Metric) : Play Value (Answer Value) :=
  return .metric (reportMetric (← get) metric)

def makeCollector (name : String) (clock : Key Clock) (loaded : Except Error EngineConfig) :
    Play Value (Answer Value) := do
  match loaded.bind (Collector.new · clock) with
  | .error error => return .config (.error error)
  | .ok collector =>
      let key ← Collector.create collector
      updateSession fun session =>
        { session with collectors := session.collectors.insert name key }
      return .config (.ok collector.config)

/-- A timer under a name that is in use replaces one that runs, which then goes out
of scope. -/
def startTimer (metric : Metric) (name : String) : Play Value (Answer Value) := do
  let timer ← metric.start
  let replaced := (← get).host.timers.find? name
  updateSession fun session => { session with timers := session.timers.insert name timer }
  if let some replaced := replaced then replaced.drop
  return .nothing

def withTimer (name : String) (use : MetricTimer → Play Value (Answer Value)) :
    Play Value (Answer Value) :=
  withNamed Session.timers name fun timer => do
    updateSession fun session => { session with timers := session.timers.erase name }
    use timer

def repeatProgram (times : Nat) (work : Play Value Unit) : Play Value Unit :=
  match times with
  | 0 => return
  | times + 1 => do
      work
      repeatProgram times work

def onThreads (threads : Nat) (work : Nat → Play Value Unit) : Play Value Unit :=
  (List.range threads).forM fun index => onNewThread (work index)

def drainTraces (collector : Key Collector) : Play Value (List CompletedTrace) := do
  let (traces, drained) := (← Collector.read collector).drain
  Collector.write collector drained
  return traces

def rootsInParallel (services : Key PluginServices) (metric : Metric) (threads : Nat)
    (collector : Key Collector) : Play Value (Answer Value) := do
  onThreads threads fun index => do
    let path := "/" ++ toString index
    let work : Play Value (Except Error Unit) :=
      PluginServices.putTraceAttribute services "path" path
    let _ ← PluginServices.executeRootSpan services metric { description := path }
      Error.display work
  let traces ← drainTraces collector
  return .traces (traces.mergeSort fun left right => left.description ≤ right.description)

def diagnose : Diagnosed → Play Value (Answer Value)
  | .services name => withNamed Session.services name fun key => do
      return .diagnostic (← PluginServices.read key).diagnostic
  | .registry name => withNamed Session.registries name fun key => do
      return .diagnostic (← Registry.read key).diagnostic
  | .recorder name => withNamed Session.recorders name fun key => do
      return .diagnostic (← Recorder.read key).diagnostic
  | .factory name => withNamed Session.factories name fun key => do
      match ← makerOf key with
      | .counting factory => return .diagnostic factory.diagnostic
      | .collecting collector =>
          return .diagnostic (← Collector.read collector).factoryDiagnostic
      | .scripted .. => return .unknown name
  | .collector name => withNamed Session.collectors name fun key => do
      return .diagnostic (← Collector.read key).diagnostic
  | .view name => withNamed Session.engines name fun engine => do
      match engine with
      | .view collector plugin =>
          return .diagnostic ((← Collector.read collector).viewDiagnostic plugin)
      | _ => return .unknown name
  | .continuation => return .diagnostic continuationDiagnostic

def statistics (name : String) : Play Value (Key MetricStats) := do
  match (← get).host.statistics.find? name with
  | some stats => return stats
  | none =>
      let stats ← MetricStats.create
      updateSession fun session =>
        { session with statistics := session.statistics.insert name stats }
      return stats

def withPluginId (id : String) (use : PluginId → Play Value Unit) :
    Play Value (Answer Value) := do
  match PluginId.ofText id with
  | .error error => return .plugin (.error error)
  | .ok plugin =>
      use plugin
      return .plugin (.ok plugin)

def performMaking : Making → Play Value (Answer Value)
  | .clock name reading => do
      let clock := Clock.advance {} reading
      let key ← Clock.create clock
      updateSession fun session => { session with clocks := session.clocks.insert name key }
      return .nanoseconds clock.reading.toNat
  | .config name source => do
      let loaded := source.load
      if let .ok config := loaded then
        updateSession fun session =>
          { session with configs := session.configs.insert name config }
      return .config loaded
  | .collector name clock config =>
      withNamed Session.clocks clock fun clock =>
        match config with
        | .inl config => withNamed Session.configs config fun config =>
            makeCollector name clock (.ok config)
        | .inr source => makeCollector name clock source.load
  | .view name collector plugin =>
      withNamed Session.collectors collector fun collector =>
        withPluginId plugin fun plugin => nameEngine name (.view collector plugin)
  | .recorder name clock state => withNamed Session.clocks clock fun clock => do
      let key ← Recorder.create { state with clock }
      nameEngine name (.recorder key)
      updateSession fun session =>
        { session with recorders := session.recorders.insert name key }
      return .nothing
  | .probe name clock catches => withNamed Session.clocks clock fun clock => do
      let stats ← MetricStats.create
      let key ← Probe.create { clock, stats, catches }
      nameEngine name (.host (Probe.engineKey key))
      updateSession fun session => { session with probes := session.probes.insert name key }
      return .nothing
  | .handingFactory name engine => withNamed Session.engines engine fun engine => do
      nameFactory name (.counting { product := .ok engine })
      return .nothing
  | .failingFactory name message => do
      nameFactory name (.counting { product := .error message })
      return .nothing
  | .collectorFactory name collector =>
      withNamed Session.collectors collector fun collector => do
        nameFactory name (.collecting collector)
        return .nothing
  | .services name plugin clock => withNamed Session.clocks clock fun clock =>
      withPluginId plugin fun plugin => do
        nameServices name (← PluginServices.create plugin clock)
  | .registry name clock => withNamed Session.clocks clock fun clock => do
      let key ← Registry.create clock
      updateSession fun session =>
        { session with registries := session.registries.insert name key }
      return .nothing
  | .standaloneMetric name clock handle => withNamed Session.clocks clock fun clock => do
      nameMetric handle (← Metric.createStandalone name clock)
      return .nothing
  | .engineMetric name stats clock handle =>
      withNamed Session.clocks clock fun clock => do
        nameMetric handle (.ofEngine name (← statistics stats) clock)
        return .nothing
  | .metricClone metric handle => withNamed Session.metrics metric fun metric => do
      nameMetric handle metric
      return .nothing

def performCommand : Command → Play Value (Answer Value)
  | .make object => performMaking object
  | .advance clock nanoseconds => withNamed Session.clocks clock fun clock => do
      Clock.moveOn clock nanoseconds
      return .nanoseconds (← Clock.read clock).toNat
  | .elapsed clock start => withNamed Session.clocks clock fun clock => do
      return .nanoseconds (← Clock.elapsed clock start)
  | .isBound services => withNamed Session.services services fun services => do
      return .flag (← PluginServices.read services).isBound
  | .registryState registry => withNamed Session.registries registry fun registry => do
      return .registry (reportRegistry (← get) registry)
  | .createMetric on name handle => withTarget on fun target => do
      let metric ← target.createMetric name
      nameMetric handle metric
      metricAnswer metric
  | .isEnabled on => withTarget on fun target => do
      return .flag (← target.isEnabled)
  | .stringProperty on name => withTarget on fun target => do
      return .text (← target.stringProperty name)
  | .booleanProperty on name => withTarget on fun target => do
      return .boolean (← target.booleanProperty name)
  | .doubleProperty on name => withTarget on fun target => do
      return .double (← target.doubleProperty name)
  | .putAttribute on name value => withTarget on fun target => do
      return .done (← target.putTraceAttribute name value)
  | .rootDetail on => withTarget on fun target => do
      return .detail (← target.rootSpanDetail)
  | .sample metric nanoseconds => withNamed Session.metrics metric fun metric => do
      metric.record nanoseconds
      metricAnswer metric
  | .snapshot metric => withNamed Session.metrics metric metricAnswer
  | .sameMetric left right =>
      withNamed Session.metrics left fun left =>
        withNamed Session.metrics right fun right => return .flag (left.sameAs right)
  | .startTimer metric name => withNamed Session.metrics metric (startTimer · name)
  | .stopTimer name => withTimer name fun timer => do
      let (elapsed, stopped) ← timer.stop
      stopped.drop
      return .nanoseconds elapsed
  | .dropTimer name => withTimer name fun timer => do
      timer.drop
      return .nothing
  | .traces collector => withNamed Session.collectors collector fun collector => do
      return .traces (← Collector.read collector).completed
  | .drain collector => withNamed Session.collectors collector fun collector => do
      return .traces (← drainTraces collector)
  | .traceAttribute collector index name =>
      withNamed Session.collectors collector fun collector => do
        let traces := (← Collector.read collector).completed
        match traces[index]? with
        | some trace => return .traceAttribute (trace.findAttribute? name)
        | none => return .noTrace traces.length
  | .compareTraces collector => withNamed Session.collectors collector fun collector => do
      let traces := (← Collector.read collector).completed
      let again := (← Collector.read collector).completed
      let neighbours := traces.zip (traces.drop 1)
      return .tracesCompared (traces = again) (neighbours.all fun pair => pair.1 ≠ pair.2)
  | .collectorState collector => withNamed Session.collectors collector fun collector => do
      return .collector (reportCollector (← get) collector)
  | .metricSnapshot collector name =>
      withNamed Session.collectors collector fun collector => do
        return .snapshot (← Collector.metricSnapshot collector name)
  | .activeTraces collector => withNamed Session.collectors collector fun collector => do
      return .count (← Collector.read collector).activeCount
  | .recorderState recorder => withNamed Session.recorders recorder fun recorder => do
      return .recorder (reportRecorder (← get) recorder)
  | .resetRecorder recorder => withNamed Session.recorders recorder fun recorder => do
      Recorder.update recorder Recorder.reset
      return .nothing
  | .factoryState factory => withNamed Session.factories factory fun factory => do
      return .factory (reportFactory (← get) factory)
  | .diagnose object => diagnose object
  | .sampleInParallel metric threads each nanoseconds =>
      withNamed Session.metrics metric fun metric => do
        onThreads threads fun _ => repeatProgram each (metric.record nanoseconds)
        metricAnswer metric
  | .rootsInParallel services metric threads collector =>
      withNamed Session.services services fun services =>
        withNamed Session.metrics metric fun metric =>
          withNamed Session.collectors collector fun collector =>
            rootsInParallel services metric threads collector

end Instrumentation.Scenario
