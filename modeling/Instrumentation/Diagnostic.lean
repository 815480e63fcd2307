import Instrumentation.Engine.CountingFactory
import Instrumentation.Number.Shortest
import Instrumentation.Registry.Basic

namespace Instrumentation

/-! Texts that show objects to a developer. -/

def recordDiagnostic (name : String) (fields : List (String × String)) (more : Bool) :
    String :=
  let shown := fields.map fun field => field.1 ++ ": " ++ field.2
  let parts := if more then shown ++ [".."] else shown
  name ++ " \x7b " ++ String.intercalate ", " parts ++ " \x7d"

def Dict.diagnostic {Value : Type} (value : Value → String) (dict : Dict Value) : String :=
  let entries := dict.entries.map fun entry => Text.quoted entry.1 ++ ": " ++ value entry.2
  "\x7b" ++ String.intercalate ", " entries ++ "\x7d"

/-- Exponents from -4 to 15 are left out; only a negative one has a sign. A tie goes
to the greater digit. -/
def diagnosticLayout : DecimalLayout where
  leastPositional := -4
  greatestPositional := 15
  plusSign := false
  tie := .upward

example : diagnosticLayout.render ⟨0x3eb0c6f7a0b5ed8d⟩ = "1e-6" := by decide +kernel

example : diagnosticLayout.render ⟨0x423fe2cb7db76400⟩ = "136948972983.39063" := by
  decide +kernel

def Property.diagnostic : Property → String
  | boolean value => "Boolean(" ++ toString value ++ ")"
  | double value => "Double(" ++ diagnosticLayout.render value ++ ")"
  | text value => "String(" ++ Text.quoted value ++ ")"

def PluginConfig.diagnostic (config : PluginConfig) : String :=
  recordDiagnostic "PluginConfig"
    [("properties", config.properties.diagnostic Property.diagnostic)] false

def EngineConfig.diagnostic (config : EngineConfig) : String :=
  recordDiagnostic "EngineConfig" [
    ("enabled", toString config.enabled),
    ("max_completed_traces", toString config.maxCompletedTraces),
    ("max_trace_attributes", toString config.maxTraceAttributes),
    ("plugins", config.plugins.diagnostic PluginConfig.diagnostic)] false

def Collector.diagnostic (collector : Collector) : String :=
  recordDiagnostic "TraceCollector" [
    ("config", collector.config.diagnostic),
    ("active_traces", toString collector.activeCount)] true

def Collector.viewDiagnostic (collector : Collector) (plugin : PluginId) : String :=
  recordDiagnostic "PluginEngine"
    [("plugin_id", plugin.diagnostic), ("collector", collector.diagnostic)] false

def Collector.factoryDiagnostic (collector : Collector) : String :=
  recordDiagnostic "CollectorFactory" [("collector", collector.diagnostic)] false

def PluginServices.diagnostic (services : PluginServices) : String :=
  recordDiagnostic "PluginServices"
    [("plugin_id", services.plugin.diagnostic), ("bound", toString services.isBound)] true

def Registry.diagnostic (registry : Registry) : String :=
  recordDiagnostic "ServicesRegistry"
    [("plugins", toString registry.services.size),
      ("started", toString registry.isStarted)] true

def Recorder.diagnostic (recorder : Recorder) : String :=
  recordDiagnostic "MockEngine" [
    ("enabled", toString recorder.enabled),
    ("skip_proceed", toString recorder.skipsProceed),
    ("call_count", toString recorder.calls.length)] true

def CountingFactory.diagnostic (factory : CountingFactory) : String :=
  recordDiagnostic "MockFactory"
    [("failing", toString factory.isFailing), ("create_count", toString factory.count)] true

def continuationDiagnostic : String :=
  recordDiagnostic "Continuation" [] true

end Instrumentation
