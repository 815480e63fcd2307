import Instrumentation.Engine.Methods

namespace Instrumentation.Recorder

/-! What a recorder does when it is called. -/

variable {Host : Type}

def noteCall (recorder : Key Recorder) (call : EngineCall) : Program Host Unit :=
  update recorder (·.note call)

def run (recorder : Key Recorder) (metric : Metric) : Interception Host where
  enter := do
    let state ← read recorder
    if state.skipsProceed then return none
    let start ← Clock.read state.clock
    return some fun
      | .ok outcome => do
          metric.record (← Clock.elapsed state.clock start)
          update recorder (·.noteOutcome outcome)
      | .error payload => throw payload

def createMetric (recorder : Key Recorder) (name : String) : Program Host Metric := do
  noteCall recorder (.createMetric name)
  let state ← read recorder
  match state.metrics.find? name with
  | some stats => return .ofEngine name stats state.clock
  | none =>
      let stats ← MetricStats.create
      update recorder fun state => { state with metrics := state.metrics.insert name stats }
      return .ofEngine name stats state.clock

def setRootDetail (recorder : Key Recorder) (detail : Option Detail) : Program Host Unit :=
  update recorder fun state => { state with rootDetail := detail }

/-- The detail is shown until the engine returns; a panic leaves it in place. -/
def executeRootSpan (recorder : Key Recorder) (metric : Metric) (detail : Detail) :
    Interception Host where
  enter := do
    noteCall recorder (.executeRootSpan metric.name detail.description)
    setRootDetail recorder (some detail)
    match ← (run recorder metric).enter with
    | none =>
        setRootDetail recorder none
        return none
    | some afterwards =>
        return some fun ending => do
          afterwards ending
          setRootDetail recorder none

def methods (recorder : Key Recorder) : EngineMethods Host where
  createMetric := createMetric recorder
  isEnabled := do
    noteCall recorder .isEnabled
    return (← read recorder).enabled
  stringProperty name := do
    noteCall recorder (.stringProperty name)
    let state ← read recorder
    return state.answer (state.strings.find? name)
  booleanProperty name := do
    noteCall recorder (.booleanProperty name)
    let state ← read recorder
    return state.answer ((state.booleans.find? name).getD false)
  doubleProperty name := do
    noteCall recorder (.doubleProperty name)
    let state ← read recorder
    return state.answer (state.doubles.find? name)
  executeRootSpan := executeRootSpan recorder
  executeSpan metric detail := .mk do
    noteCall recorder (.executeSpan metric.name detail.description)
    (run recorder metric).enter
  recordMetricData metric := .mk do
    noteCall recorder (.recordMetricData metric.name)
    (run recorder metric).enter
  putTraceAttribute name value := do
    noteCall recorder (.putTraceAttribute name value)
    return .ok ()
  rootSpanDetail := do
    noteCall recorder .rootSpanDetail
    return .ok (← read recorder).rootDetail

end Instrumentation.Recorder
