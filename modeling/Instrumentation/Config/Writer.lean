import Instrumentation.Config.Basic
import Instrumentation.Json.Document
import Instrumentation.Json.Fault

namespace Instrumentation

/-! Configurations written as JSON. -/

open Json

/-- A finite number is written by its shortest digits; one that is not finite has
no number in JSON. -/
def Binary64.toDocument (number : Binary64) : Document :=
  if number.isFinite then .number (numberLayout.render number).toList else .null

def Property.toDocument : Property → Document
  | boolean value => .boolean value
  | double value => value.toDocument
  | text value => .text value

def Dict.toDocument {Value : Type} (value : Value → Document) (dict : Dict Value) : Document :=
  .object (dict.entries.map fun entry => (entry.1, value entry.2))

def PluginConfig.toDocument (config : PluginConfig) : Document :=
  .object [("properties", config.properties.toDocument Property.toDocument)]

def EngineConfig.toDocument (config : EngineConfig) : Document :=
  .object [
    ("enabled", .boolean config.enabled),
    ("max_completed_traces", .number (Nat.toDigits 10 config.maxCompletedTraces.toNat)),
    ("max_trace_attributes", .number (Nat.toDigits 10 config.maxTraceAttributes.toNat)),
    ("plugins", config.plugins.toDocument PluginConfig.toDocument)]

def EngineConfig.toJson (config : EngineConfig) : String :=
  String.ofList config.toDocument.render

end Instrumentation
