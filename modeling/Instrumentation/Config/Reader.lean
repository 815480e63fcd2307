import Instrumentation.Config.Basic
import Instrumentation.Json.Content
import Instrumentation.Json.Skip

namespace Instrumentation

/-! Configurations read from JSON. A record is an object, whose unknown keys are
passed over, or an array of its fields in order; fields that are left out have
their defaults. -/

open Json

def Error.ofUnreadable? (text : String) : Option Error :=
  match readAny text with
  | .error fault => some (.ofJson fault.message)
  | .ok _ => none

namespace Property

def read (depth : Nat) : Reader Property := fun characters => do
  let (content, rest) ← readContent depth characters
  match content with
  | .boolean value => return (.boolean value, rest)
  | .number value => return (.double value.toBinary64, rest)
  | .text value => return (.text value, rest)
  | .null | .sequence | .map => .error (.noVariant "PropertyValue")

end Property

def Dict.read {Value : Type} (value : Reader Value) : Reader (Dict Value) :=
  fun characters =>
    match skipBlank characters with
    | '{' :: rest =>
        readObject (fun dict key characters => do
          let (value, rest) ← value (← readColon characters)
          return (dict.insert key value, rest))
          Dict.empty rest
    | _ => mismatched .map characters

def readBoolean : Reader Bool := fun characters =>
  match skipBlank characters with
  | 't' :: rest => do return (true, ← readIdentifier ['r', 'u', 'e'] rest)
  | 'f' :: rest => do return (false, ← readIdentifier ['a', 'l', 's', 'e'] rest)
  | _ => mismatched .boolean characters

def readWord : Reader UInt64 := fun characters =>
  let accept (negative : Bool) (unsigned : List Char) : Except Fault (UInt64 × List Char) := do
    let (number, rest) ← readNumber negative unsigned
    match number with
    | .unsigned value => return (UInt64.ofNat value, rest)
    | .negative value => .error (.negativeWord (-(value : Int)))
    | .floating value => .error (.mismatch (.floating value) .word)
  match skipBlank characters with
  | '-' :: rest => accept true rest
  | character :: rest =>
      if isDigit character then accept false (character :: rest)
      else mismatched .word characters
  | [] => mismatched .word characters

structure PartialPlugin where
  properties : Option (Dict Property) := none

structure PartialEngine where
  enabled : Option Bool := none
  maxCompletedTraces : Option UInt64 := none
  maxTraceAttributes : Option UInt64 := none
  plugins : Option (Dict PluginConfig) := none

def readField {Value : Type} (name : String) (present : Option Value) (value : Reader Value) :
    Reader (Option Value) := fun characters => do
  if present.isSome then .error (.duplicateField name)
  let (value, rest) ← value (← readColon characters)
  return (some value, rest)

def skipMember {State : Type} (state : State) : Reader State := fun characters => do
  return (state, ← skipValue (← readColon characters))

def readOptionalElement {Value : Type} (first : Bool) (value : Reader Value) :
    Reader (Option Value) := fun characters => do
  match ← nextElement first characters with
  | none => return (none, characters)
  | some start =>
      let (value, rest) ← value start
      return (some value, rest)

namespace PluginConfig

/-- A property stands inside the brackets of the document, of its plugins, of its
plugin and of the properties. -/
def readProperties : Reader (Dict Property) :=
  Dict.read (Property.read (depthLimit - 4))

def readMember (fields : PartialPlugin) (key : String) : Reader PartialPlugin :=
  fun characters =>
    if key = "properties" then do
      let (properties, rest) ← readField key fields.properties readProperties characters
      return ({ fields with properties }, rest)
    else skipMember fields characters

def ofFields (fields : PartialPlugin) : PluginConfig :=
  { properties := fields.properties.getD .empty }

def read : Reader PluginConfig := fun characters =>
  match skipBlank characters with
  | '{' :: rest => do
      let (fields, rest) ← readObject readMember {} rest
      return (ofFields fields, rest)
  | '[' :: rest => do
      let (properties, rest) ← readOptionalElement true readProperties rest
      return (ofFields { properties }, ← endList rest)
  | _ => mismatched (.record "PluginConfig") characters

end PluginConfig

namespace EngineConfig

def readPlugins : Reader (Dict PluginConfig) :=
  Dict.read PluginConfig.read

def readMember (fields : PartialEngine) (key : String) : Reader PartialEngine :=
  fun characters =>
    if key = "enabled" then do
      let (enabled, rest) ← readField key fields.enabled readBoolean characters
      return ({ fields with enabled }, rest)
    else if key = "max_completed_traces" then do
      let (traces, rest) ← readField key fields.maxCompletedTraces readWord characters
      return ({ fields with maxCompletedTraces := traces }, rest)
    else if key = "max_trace_attributes" then do
      let (attributes, rest) ← readField key fields.maxTraceAttributes readWord characters
      return ({ fields with maxTraceAttributes := attributes }, rest)
    else if key = "plugins" then do
      let (plugins, rest) ← readField key fields.plugins readPlugins characters
      return ({ fields with plugins }, rest)
    else skipMember fields characters

def ofFields (fields : PartialEngine) : EngineConfig where
  enabled := fields.enabled.getD default.enabled
  maxCompletedTraces := fields.maxCompletedTraces.getD default.maxCompletedTraces
  maxTraceAttributes := fields.maxTraceAttributes.getD default.maxTraceAttributes
  plugins := fields.plugins.getD default.plugins

def readElements : Reader PartialEngine := fun characters => do
  let (enabled, rest) ← readOptionalElement true readBoolean characters
  if enabled.isNone then return ({}, rest)
  let (traces, rest) ← readOptionalElement false readWord rest
  if traces.isNone then return ({ enabled }, rest)
  let (attributes, rest) ← readOptionalElement false readWord rest
  if attributes.isNone then return ({ enabled, maxCompletedTraces := traces }, rest)
  let (plugins, rest) ← readOptionalElement false readPlugins rest
  return ({
    enabled, maxCompletedTraces := traces, maxTraceAttributes := attributes, plugins }, rest)

def read : Reader EngineConfig := fun characters =>
  match skipBlank characters with
  | '{' :: rest => do
      let (fields, rest) ← readObject readMember {} rest
      return (ofFields fields, rest)
  | '[' :: rest => do
      let (fields, rest) ← readElements rest
      return (ofFields fields, ← endList rest)
  | _ => mismatched (.record "EngineConfig") characters

def ofJson (text : String) : Except Error EngineConfig :=
  match readDocument read text with
  | .error fault => .error (.ofJson fault.message)
  | .ok config => do
      config.validate
      return config

inductive Source where
  | missing
  | bytes (content : ByteArray)

def ofFile : Source → Except Error EngineConfig
  | .missing => .error (.ofInputOutput "No such file or directory (os error 2)")
  | .bytes content =>
      match String.fromUTF8? content with
      | some text => ofJson text
      | none => .error (.ofInputOutput "stream did not contain valid UTF-8")

end EngineConfig

end Instrumentation
