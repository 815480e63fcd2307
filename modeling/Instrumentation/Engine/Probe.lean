import Instrumentation.Engine.Methods

namespace Instrumentation.Probe

/-! What a probe does when it is called. -/

variable {Host : Type}

def forward (probe : Key Probe) : Interception Host where
  enter := do
    update probe fun state => { state with forwarded := state.forwarded + 1 }
    return some fun
      | .ok _ => return
      | .error payload => do
          if (← read probe).catches then
            update probe fun state => { state with caught := state.caught + 1 }
          else throw payload

def methods (probe : Key Probe) : EngineMethods Host where
  createMetric name := do
    let state ← read probe
    return .ofEngine name state.stats state.clock
  isEnabled := return true
  stringProperty _ := return .ok none
  booleanProperty _ := return .ok false
  doubleProperty _ := return .ok none
  executeRootSpan _ _ := forward probe
  executeSpan _ _ := forward probe
  recordMetricData _ := forward probe
  putTraceAttribute _ _ := return .ok ()
  rootSpanDetail := return .ok none

end Instrumentation.Probe
