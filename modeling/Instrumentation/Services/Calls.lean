import Instrumentation.Engine.Dispatch

namespace Instrumentation.PluginServices

/-! What plugins ask of their services. Which way a call goes is decided when it
is entered: through the engine if one is published by then, and past it if not,
even if one is published while the call runs. -/

variable {Host Value Fault : Type} [HostEngines Host]

def engineOf (services : Key PluginServices) : Program Host (Option (EngineMethods Host)) :=
  return (← read services).engine.map Engine.methods

def intercept (services : Key PluginServices)
    (interception : EngineMethods Host → Interception Host) (classify : Value → Outcome)
    (work : Program Host Value) : Program Host Value := do
  match ← engineOf services with
  | some engine => runIntercepted (interception engine) classify work
  | none => work

def require (services : Key PluginServices) (accessor : Accessor)
    (question : EngineMethods Host → Program Host (Except Error Value)) :
    Program Host (Except Error Value) := do
  match ← engineOf services with
  | some engine => question engine
  | none =>
      let plugin := (← read services).plugin
      emit (.rejectedUnbound plugin accessor)
      return .error ((Error.ofKind .notReady).withPlugin plugin.text)

def createMetric (services : Key PluginServices) (name : String) : Program Host Metric := do
  match ← engineOf services with
  | some engine => engine.createMetric name
  | none => Metric.createStandalone name (← read services).clock

def isEnabled (services : Key PluginServices) : Program Host Bool := do
  match ← engineOf services with
  | some engine => engine.isEnabled
  | none => return false

def stringProperty (services : Key PluginServices) (name : String) :
    Program Host (Except Error (Option String)) :=
  require services .stringProperty (·.stringProperty name)

def booleanProperty (services : Key PluginServices) (name : String) :
    Program Host (Except Error Bool) :=
  require services .booleanProperty (·.booleanProperty name)

def doubleProperty (services : Key PluginServices) (name : String) :
    Program Host (Except Error (Option Binary64)) :=
  require services .doubleProperty (·.doubleProperty name)

def executeRootSpan (services : Key PluginServices) (metric : Metric) (detail : Detail)
    (describe : Fault → String) (work : Program Host (Except Fault Value)) :
    Program Host (Except Fault Value) :=
  intercept services (·.executeRootSpan metric detail) (Outcome.ofResult describe) work

def executeSpan (services : Key PluginServices) (metric : Metric) (detail : Detail)
    (describe : Fault → String) (work : Program Host (Except Fault Value)) :
    Program Host (Except Fault Value) :=
  intercept services (·.executeSpan metric detail) (Outcome.ofResult describe) work

def tryRecordMetricData (services : Key PluginServices) (metric : Metric)
    (describe : Fault → String) (work : Program Host (Except Fault Value)) :
    Program Host (Except Fault Value) :=
  intercept services (·.recordMetricData metric) (Outcome.ofResult describe) work

/-- The work cannot fail, so that the engine sees it completed whenever it returns. -/
def recordMetricData (services : Key PluginServices) (metric : Metric)
    (work : Program Host Value) : Program Host Value :=
  intercept services (·.recordMetricData metric) (fun _ => .completed) work

def putTraceAttribute (services : Key PluginServices) (name value : String) :
    Program Host (Except Error Unit) :=
  require services .putTraceAttribute (·.putTraceAttribute name value)

def rootSpanDetail (services : Key PluginServices) :
    Program Host (Except Error (Option Detail)) :=
  require services .rootSpanDetail (·.rootSpanDetail)

end Instrumentation.PluginServices

namespace Instrumentation

inductive Call where
  | rootSpan (detail : Detail)
  | span (detail : Detail)
  | tryRecord
  | record

namespace Call

variable {Host Value Fault : Type}

def onEngine (call : Call) (engine : EngineMethods Host) (metric : Metric) :
    Interception Host :=
  match call with
  | rootSpan detail => engine.executeRootSpan metric detail
  | span detail => engine.executeSpan metric detail
  | tryRecord | record => engine.recordMetricData metric

def onServices [HostEngines Host] (call : Call) (services : Key PluginServices)
    (metric : Metric) (describe : Fault → String) (work : Program Host (Except Fault Value)) :
    Program Host (Except Fault Value) :=
  match call with
  | rootSpan detail => PluginServices.executeRootSpan services metric detail describe work
  | span detail => PluginServices.executeSpan services metric detail describe work
  | tryRecord => PluginServices.tryRecordMetricData services metric describe work
  | record => PluginServices.recordMetricData services metric work

end Call

end Instrumentation
