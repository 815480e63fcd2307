import Instrumentation.PluginId

namespace Instrumentation

/-! What the library tells its host while it works. -/

inductive Level where
  | debug
  | info
  | warn
  | error
  deriving DecidableEq, Repr

def Level.name : Level → String
  | debug => "DEBUG"
  | info => "INFO"
  | warn => "WARN"
  | error => "ERROR"

inductive Accessor where
  | stringProperty
  | booleanProperty
  | doubleProperty
  | putTraceAttribute
  | rootSpanDetail
  deriving DecidableEq, Repr

def Accessor.name : Accessor → String
  | stringProperty => "string_property"
  | booleanProperty => "boolean_property"
  | doubleProperty => "double_property"
  | putTraceAttribute => "put_trace_attribute"
  | rootSpanDetail => "root_span_detail"

inductive Event where
  | rejectedUnbound (plugin : PluginId) (accessor : Accessor)
  | boundAgain (plugin : PluginId)
  | constructionFailed (plugin : PluginId) (error : Error)
  | bound (plugin : PluginId)
  | notProceeded
  | servicesCreated (plugin : PluginId)
  | startedAgain
  | started (plugins : Nat)
  | traceCompleted (plugin : PluginId) (duration spans : Nat)
  | attributeOverLimit (name : String)
  | attributeOutsideTrace (plugin : PluginId) (name : String)
  deriving DecidableEq

namespace Event

def level : Event → Level
  | boundAgain _ | notProceeded | startedAgain => .warn
  | constructionFailed .. => .error
  | bound _ | started _ => .info
  | _ => .debug

def message : Event → String
  | rejectedUnbound .. => "rejected before engine is bound"
  | boundAgain _ => "plugin services bound more than once"
  | constructionFailed .. => "engine construction failed"
  | bound _ => "plugin services bound to tracing engine"
  | notProceeded => "engine returned without proceeding, running intercepted call directly"
  | servicesCreated _ => "plugin services created"
  | startedAgain => "services registry started more than once"
  | started _ => "services registry started"
  | traceCompleted .. => "trace completed"
  | attributeOverLimit _ => "trace attribute limit reached, dropping"
  | attributeOutsideTrace .. => "no active trace, dropping attribute"

/-- The fields beside the message; durations are in whole microseconds. -/
def details : Event → List (String × String)
  | rejectedUnbound plugin accessor =>
      [("plugin_id", plugin.text), ("operation", accessor.name)]
  | boundAgain plugin | bound plugin | servicesCreated plugin =>
      [("plugin_id", plugin.text)]
  | constructionFailed plugin error =>
      [("plugin_id", plugin.text), ("error", error.display)]
  | notProceeded | startedAgain => []
  | started plugins => [("plugins", toString plugins)]
  | traceCompleted plugin duration spans =>
      [("plugin_id", plugin.text), ("duration_us", toString (duration / 1000)),
        ("spans", toString spans)]
  | attributeOverLimit name => [("attribute", name)]
  | attributeOutsideTrace plugin name =>
      [("plugin_id", plugin.text), ("attribute", name)]

def fields (event : Event) : List (String × String) :=
  ("message", event.message) :: event.details

end Event

end Instrumentation
