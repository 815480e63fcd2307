import Instrumentation.Collector.Basic

namespace Instrumentation

/-! The engines that plugin services can be bound to. A view serves one plugin
from a collector; a recorder observes the calls made on it; a host may bring engines
of its own, of which nothing is known. -/

inductive EngineCall where
  | createMetric (name : String)
  | isEnabled
  | stringProperty (name : String)
  | booleanProperty (name : String)
  | doubleProperty (name : String)
  | executeRootSpan (metric description : String)
  | executeSpan (metric description : String)
  | recordMetricData (metric : String)
  | putTraceAttribute (name value : String)
  | rootSpanDetail
  deriving DecidableEq, Repr

def EngineCall.words : EngineCall → List String
  | createMetric name => ["create_metric", name]
  | isEnabled => ["is_enabled"]
  | stringProperty name => ["string_property", name]
  | booleanProperty name => ["boolean_property", name]
  | doubleProperty name => ["double_property", name]
  | executeRootSpan metric description => ["execute_root_span", metric, description]
  | executeSpan metric description => ["execute_span", metric, description]
  | recordMetricData metric => ["record_metric_data", metric]
  | putTraceAttribute name value => ["put_trace_attribute", name, value]
  | rootSpanDetail => ["root_span_detail"]

/-- An engine with set answers that notes every call, and the outcome of every
call that it let proceed. -/
structure Recorder where
  clock : Key Clock
  enabled : Bool := true
  skipsProceed : Bool := false
  strings : Dict String := .empty
  booleans : Dict Bool := .empty
  doubles : Dict Binary64 := .empty
  propertyError : Option String := none
  calls : List EngineCall := []
  outcomes : List Outcome := []
  metrics : Dict (Key MetricStats) := .empty
  rootDetail : Option Detail := none

namespace Recorder

instance : Inhabited Recorder := ⟨{ clock := ⟨0⟩ }⟩

def note (recorder : Recorder) (call : EngineCall) : Recorder :=
  { recorder with calls := recorder.calls ++ [call] }

def noteOutcome (recorder : Recorder) (outcome : Outcome) : Recorder :=
  { recorder with outcomes := recorder.outcomes ++ [outcome] }

def reset (recorder : Recorder) : Recorder :=
  { recorder with calls := [], outcomes := [] }

def answer {Value : Type} (recorder : Recorder) (value : Value) : Except Error Value :=
  match recorder.propertyError with
  | some message => .error (.new .configuration message)
  | none => .ok value

end Recorder

/-- An engine of a host that only counts the calls it forwards, and may swallow
their panics. All its metrics feed one aggregate. -/
structure Probe where
  clock : Key Clock
  stats : Key MetricStats
  catches : Bool := false
  forwarded : Nat := 0
  caught : Nat := 0

namespace Probe

instance : Inhabited Probe := ⟨{ clock := ⟨0⟩, stats := ⟨0⟩ }⟩

end Probe

/-- Engines of the host are its own objects; the library knows them by their keys. -/
inductive HostEngine where

inductive Engine where
  | view (collector : Key Collector) (plugin : PluginId)
  | recorder (recorder : Key Recorder)
  | host (engine : Key HostEngine)
  deriving DecidableEq

inductive Factory where

end Instrumentation
