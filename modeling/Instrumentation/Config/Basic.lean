import Instrumentation.Dict
import Instrumentation.Error
import Instrumentation.Number.Binary64

namespace Instrumentation

/-! Configuration of the collecting engine: a switch, two capacities, and the
properties served to each plugin. -/

inductive Property where
  | boolean (value : Bool)
  | double (value : Binary64)
  | text (value : String)
  deriving DecidableEq, Repr

namespace Property

def asBoolean : Property → Option Bool
  | boolean value => some value
  | _ => none

def asDouble : Property → Option Binary64
  | double value => some value
  | _ => none

def asText : Property → Option String
  | text value => some value
  | _ => none

/-- Equality of kind and value; doubles compare as numbers. -/
def sameValue : Property → Property → Bool
  | boolean left, boolean right => left == right
  | double left, double right => left.sameNumber right
  | text left, text right => left == right
  | _, _ => false

end Property

structure PluginConfig where
  properties : Dict Property := .empty

namespace PluginConfig

instance : Inhabited PluginConfig := ⟨{}⟩

def withProperty (config : PluginConfig) (name : String) (value : Property) : PluginConfig :=
  { config with properties := config.properties.insert name value }

def property? (config : PluginConfig) (name : String) : Option Property :=
  config.properties.find? name

def sameValue (left right : PluginConfig) : Bool :=
  left.properties.agrees Property.sameValue right.properties

end PluginConfig

structure EngineConfig where
  enabled : Bool := true
  maxCompletedTraces : UInt64 := 1000
  maxTraceAttributes : UInt64 := 64
  plugins : Dict PluginConfig := .empty

namespace EngineConfig

instance : Inhabited EngineConfig := ⟨{}⟩

def default : EngineConfig := {}

def withPlugin (config : EngineConfig) (id : String) (plugin : PluginConfig) : EngineConfig :=
  { config with plugins := config.plugins.insert id plugin }

def plugin? (config : EngineConfig) (id : String) : Option PluginConfig :=
  config.plugins.find? id

def sameValue (left right : EngineConfig) : Bool :=
  left.enabled == right.enabled &&
    left.maxCompletedTraces == right.maxCompletedTraces &&
    left.maxTraceAttributes == right.maxTraceAttributes &&
    left.plugins.agrees PluginConfig.sameValue right.plugins

/-- Refuses a capacity of zero, the number of traces first. -/
def validate (config : EngineConfig) : Except Error Unit :=
  if config.maxCompletedTraces = 0 then
    .error (.new .configuration "max_completed_traces must be greater than zero")
  else if config.maxTraceAttributes = 0 then
    .error (.new .configuration "max_trace_attributes must be greater than zero")
  else .ok ()

end EngineConfig

end Instrumentation
