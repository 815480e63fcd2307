import Instrumentation.PluginId

namespace Instrumentation

/-! Which spellings give which identity. White space at the ends does not count, and all
else does; what is nothing but white space gives none. -/

namespace PluginId

def blankId : Error :=
  .new .invalidArgument "plugin id cannot be empty"

theorem ofText_of_blank {id : String} (blank : Text.trim id.toList = []) :
    ofText id = .error blankId := by
  have refused : ofText? id = none := dif_pos blank
  rw [ofText, refused]
  rfl

theorem ofText_of_visible {id : String} (visible : Text.trim id.toList ≠ []) :
    ∃ plugin, ofText id = .ok plugin ∧ plugin.text.toList = Text.trim id.toList := by
  have taken : ofText? id = some _ := dif_neg visible
  rw [ofText, taken]
  exact ⟨_, rfl, String.toList_ofList⟩

theorem ofText_eq_ok_iff {id : String} {plugin : PluginId} :
    ofText id = .ok plugin ↔ plugin.text.toList = Text.trim id.toList := by
  by_cases blank : Text.trim id.toList = []
  · rw [ofText_of_blank blank]
    exact iff_of_false nofun fun same => plugin.visible (same.trans blank)
  · rcases ofText_of_visible blank with ⟨named, names, text⟩
    rw [names, ← text]
    constructor
    · rintro ⟨⟩
      rfl
    · intro same
      exact congrArg Except.ok (eq_of_text (String.toList_inj.1 same.symm))

theorem ofText_eq_error_iff {id : String} {error : Error} :
    ofText id = .error error ↔ Text.trim id.toList = [] ∧ error = blankId := by
  by_cases blank : Text.trim id.toList = []
  · rw [ofText_of_blank blank]
    exact ⟨fun same => ⟨blank, (Except.error.inj same).symm⟩, fun ⟨_, same⟩ => same ▸ rfl⟩
  · rcases ofText_of_visible blank with ⟨named, names, _⟩
    rw [names]
    exact iff_of_false nofun fun ⟨empty, _⟩ => blank empty

/-- Two spellings have one identity just if they are the same without the white space at
their ends. -/
theorem ofText_same_iff {id other : String} {plugin : PluginId} (named : ofText id = .ok plugin) :
    ofText other = .ok plugin ↔ Text.trim other.toList = Text.trim id.toList := by
  rw [ofText_eq_ok_iff, ofText_eq_ok_iff.1 named]
  exact eq_comm

end PluginId

end Instrumentation
