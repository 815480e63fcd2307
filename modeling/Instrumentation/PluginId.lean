import Instrumentation.Error
import Instrumentation.Text.Blank

namespace Instrumentation

/-! Identities of plugins: text that is not blank, without white space at its
ends. Different spellings of one identity give equal values. -/

structure PluginId where
  text : String
  trimmed : Text.trim text.toList = text.toList
  visible : text.toList ≠ []

namespace PluginId

instance : DecidableEq PluginId := fun left right =>
  if same : left.text = right.text then
    isTrue (by cases left; cases right; cases same; rfl)
  else
    isFalse fun equal => same (congrArg PluginId.text equal)

theorem eq_of_text {plugin other : PluginId} (same : plugin.text = other.text) :
    plugin = other := by
  cases plugin
  cases other
  cases same
  rfl

instance : Repr PluginId := ⟨fun id _ => repr id.text⟩

instance : Inhabited PluginId := ⟨⟨"plugin", by decide, by decide⟩⟩

def ofText? (text : String) : Option PluginId :=
  let characters := Text.trim text.toList
  if visible : characters = [] then none
  else some {
    text := String.ofList characters
    trimmed := by rw [String.toList_ofList]; exact Text.trim_trim text.toList
    visible := by rwa [String.toList_ofList] }

/-- Removes white space at both ends of a spelling; a blank one is refused. -/
def ofText (text : String) : Except Error PluginId :=
  match ofText? text with
  | some id => .ok id
  | none => .error (.new .invalidArgument "plugin id cannot be empty")

/-- Identities are ordered by code points, which is the order of their UTF-8 bytes. -/
instance : LT PluginId := ⟨fun left right => left.text < right.text⟩

instance (left right : PluginId) : Decidable (left < right) :=
  inferInstanceAs (Decidable (left.text < right.text))

def insertSorted (id : PluginId) : List PluginId → List PluginId
  | [] => [id]
  | head :: rest => if head < id then head :: insertSorted id rest else id :: head :: rest

def sorted (ids : List PluginId) : List PluginId :=
  ids.foldr insertSorted []

def diagnostic (id : PluginId) : String :=
  "PluginId(" ++ Text.quoted id.text ++ ")"

end PluginId

end Instrumentation
