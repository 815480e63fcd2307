import Instrumentation.World

namespace Instrumentation.Scenario

/-! What the steps of a scenario answer. -/

structure MetricReport where
  name : String
  engineOwned : Bool
  snapshot : Snapshot

structure ServicesReport where
  plugin : PluginId
  bound : Bool
  /-- The names under which the scenario already knows this instance. -/
  sameAs : List String

structure CollectorReport where
  active : Nat
  traces : List CompletedTrace
  metrics : List (String × Snapshot)

structure RecorderReport where
  calls : List EngineCall
  outcomes : List Outcome

structure ProbeReport where
  forwarded : Nat
  caught : Nat

structure FactoryReport where
  plugins : List PluginId

structure RegistryReport where
  started : Bool
  plugins : List String

inductive Answer (Value : Type) where
  | nothing
  | nanoseconds (amount : Nat)
  | flag (value : Bool)
  | count (number : Nat)
  | config (result : Except Error EngineConfig)
  | plugin (result : Except Error PluginId)
  | done (result : Except Error Unit)
  | services (result : Except Error ServicesReport)
  | metric (report : MetricReport)
  | text (result : Except Error (Option String))
  | boolean (result : Except Error Bool)
  | double (result : Except Error (Option Binary64))
  | detail (result : Except Error (Option Detail))
  | worked (result : Except String Value)
  | called (result : Option (Except String Value)) (runs : Nat)
  | timed (result : Except String Value) (elapsed : Option Nat)
  | caught (payload : Payload)
  | traces (traces : List CompletedTrace)
  | traceAttribute (value : Option String)
  | noTrace (traces : Nat)
  | tracesCompared (same distinct : Bool)
  | collector (report : CollectorReport)
  | snapshot (snapshot : Option Snapshot)
  | recorder (report : RecorderReport)
  | factory (report : Option FactoryReport)
  | registry (report : RegistryReport)
  | diagnostic (text : String)
  | attempts (results : List String)
  | unknown (name : String)

namespace Answer

variable {Value : Type}

def failureOf {Result : Type} : Except Error Result → Option String
  | .error error => some error.display
  | .ok _ => none

def workFailure : Except String Value → Option String
  | .error message => some message
  | .ok _ => none

def failure? : Answer Value → Option String
  | config result => failureOf result
  | plugin result => failureOf result
  | done result => failureOf result
  | services result => failureOf result
  | text result => failureOf result
  | boolean result => failureOf result
  | double result => failureOf result
  | detail result => failureOf result
  | worked result => workFailure result
  | called result _ => result.bind workFailure
  | timed result _ => workFailure result
  | _ => none

end Answer

structure Entry (Value : Type) where
  path : String
  label : String
  result : Except Payload (Answer Value)
  events : Nat

end Instrumentation.Scenario
