import Instrumentation.Proofs.Text.ByteOrder
import Instrumentation.Proofs.Text.Identities
import Mathlib.Data.List.DropRight

namespace Instrumentation

/-! The core of a spelling: what is left of it without the white space around it. An
identity is the core of each of its spellings, so that it is a canonical form for them, and
identities are ordered as their bytes are. -/

/-! ## White space -/

namespace Text

/-- The characters with the Unicode property White_Space. -/
def whiteSpace : List Char :=
  ['\u0009', '\u000a', '\u000b', '\u000c', '\u000d', '\u0020', '\u0085', '\u00a0', '\u1680',
    '\u2000', '\u2001', '\u2002', '\u2003', '\u2004', '\u2005', '\u2006', '\u2007', '\u2008',
    '\u2009', '\u200a', '\u2028', '\u2029', '\u202f', '\u205f', '\u3000']

theorem isBlank_iff {character : Char} : isBlank character = true ↔ character ∈ whiteSpace := by
  have injective : Function.Injective Char.toNat := fun _ _ => Char.toNat_inj.1
  rw [← List.mem_map_of_injective injective]
  simp only [isBlank, Bool.or_eq_true, Bool.and_eq_true, decide_eq_true_eq, beq_iff_eq, whiteSpace,
    Char.isValue, List.map_cons, Char.reduceToNat, List.map_nil, List.mem_cons, List.not_mem_nil,
    or_false]
  omega

theorem isBlank_eq_false_iff {character : Char} :
    isBlank character = false ↔ character ∉ whiteSpace := by
  rw [← isBlank_iff, Bool.not_eq_true]

def IsWhite (text : String) : Prop :=
  ∀ character ∈ text.toList, character ∈ whiteSpace

structure IsTrimmed (text : String) : Prop where
  begins : ∃ first ∈ text.toList.head?, first ∉ whiteSpace
  ends : ∃ last ∈ text.toList.getLast?, last ∉ whiteSpace

def SameWithin (text other : String) : Prop :=
  ∃ core front back otherFront otherBack,
    IsWhite front ∧ IsWhite back ∧ IsWhite otherFront ∧ IsWhite otherBack ∧
      text = front ++ core ++ back ∧ other = otherFront ++ core ++ otherBack

structure IsCore (core text : String) : Prop where
  trimmed : IsTrimmed core
  within : ∃ front back, IsWhite front ∧ IsWhite back ∧ text = front ++ core ++ back

/-! ## Trimming -/

theorem trimEnd_concat (characters : List Char) (last : Char) :
    trimEnd (characters ++ [last]) =
      if isBlank last then trimEnd characters else characters ++ [last] := by
  induction characters with
  | nil => rfl
  | cons first rest induction =>
      rw [List.cons_append, trimEnd, induction, trimEnd]
      by_cases blank : isBlank last
      · rw [if_pos blank, if_pos blank]
      · rw [if_neg blank, if_neg blank]
        cases rest <;> rfl

theorem trimEnd_eq_rdropWhile (characters : List Char) :
    trimEnd characters = characters.rdropWhile isBlank := by
  induction characters using List.reverseRecOn with
  | nil => rfl
  | append_singleton rest last induction =>
      rw [trimEnd_concat, List.rdropWhile_concat, induction]

theorem exists_trim (characters : List Char) :
    ∃ front back, (∀ character ∈ front, character ∈ whiteSpace) ∧
      (∀ character ∈ back, character ∈ whiteSpace) ∧
      characters = front ++ trim characters ++ back := by
  let kept := trimStart characters
  refine ⟨characters.takeWhile isBlank, kept.rtakeWhile isBlank, ?_, ?_, ?_⟩
  · exact fun character member => isBlank_iff.1 (List.mem_takeWhile_imp member)
  · exact fun character member => isBlank_iff.1 (List.mem_rtakeWhile_imp member)
  · rw [trim, trimEnd_eq_rdropWhile, List.append_assoc, List.rdropWhile_append_rtakeWhile]
    exact List.takeWhile_append_dropWhile.symm

theorem isTrimmed_of_trim {characters : List Char} {text : String}
    (trimmed : text.toList = trim characters) (visible : trim characters ≠ []) :
    IsTrimmed text := by
  rw [trim, trimEnd_eq_rdropWhile] at trimmed visible
  have ends := List.rdropWhile_last_not isBlank (trimStart characters) visible
  rcases starts : (trimStart characters).rdropWhile isBlank with _ | ⟨first, rest⟩
  · exact absurd starts visible
  · have ⟨cut, whole⟩ := List.rdropWhile_prefix isBlank (trimStart characters)
    have begins := List.head?_dropWhile_not isBlank characters
    rw [← trimStart, ← whole, starts] at begins
    constructor
    · exact ⟨first, by rw [trimmed, starts]; rfl, isBlank_eq_false_iff.1 begins⟩
    · refine ⟨_, ?_, isBlank_eq_false_iff.1 (Bool.not_eq_true _ ▸ ends)⟩
      rw [trimmed]
      exact List.getLast?_eq_some_getLast _

theorem trimStart_append {front : List Char}
    (white : ∀ character ∈ front, isBlank character = true) (rest : List Char) :
    trimStart (front ++ rest) = trimStart rest :=
  List.dropWhile_append_of_pos white

theorem trimEnd_append {back : List Char} (white : ∀ character ∈ back, isBlank character = true)
    (rest : List Char) : trimEnd (rest ++ back) = trimEnd rest := by
  rw [trimEnd_eq_rdropWhile, trimEnd_eq_rdropWhile, List.rdropWhile, List.reverse_append,
    List.dropWhile_append_of_pos, List.rdropWhile]
  exact fun character member => white character (List.mem_reverse.1 member)

theorem trim_append {front back : List Char}
    (white : ∀ character ∈ front, isBlank character = true)
    (alsoWhite : ∀ character ∈ back, isBlank character = true) (core : List Char) :
    trim (front ++ core ++ back) = trim core := by
  rw [trim, List.append_assoc, trimStart_append white, trim, trimStart, List.dropWhile_append]
  split
  · next empty =>
      rw [trimStart, List.isEmpty_iff.1 empty, List.dropWhile_eq_nil_iff.2 alsoWhite]
  · exact trimEnd_append alsoWhite _

/-- Nothing is trimmed off a text that begins and ends with other characters. -/
theorem IsTrimmed.trim_eq {core : String} (trimmed : IsTrimmed core) :
    trim core.toList = core.toList := by
  have ⟨⟨first, begins, visible⟩, last, ends, alsoVisible⟩ := trimmed
  have starts : trimStart core.toList = core.toList := by
    rw [Option.mem_def, List.head?_eq_some_iff] at begins
    rcases begins with ⟨rest, same⟩
    rw [same, trimStart, List.dropWhile_cons_of_neg (mt isBlank_iff.1 visible)]
  rw [trim, starts, trimEnd_eq_rdropWhile]
  rw [Option.mem_def, List.getLast?_eq_some_iff] at ends
  rcases ends with ⟨rest, same⟩
  rw [same, List.rdropWhile_concat_neg _ _ _ (mt isBlank_iff.1 alsoVisible)]

/-! ## Cores -/

theorem isWhite_ofList {characters : List Char} :
    IsWhite (String.ofList characters) ↔ ∀ character ∈ characters, character ∈ whiteSpace := by
  rw [IsWhite, String.toList_ofList]

theorem toList_around (front core back : String) :
    (front ++ core ++ back).toList = front.toList ++ core.toList ++ back.toList := by
  rw [String.toList_append, String.toList_append]

theorem trim_around {front back : String} (white : IsWhite front) (alsoWhite : IsWhite back)
    (core : String) : trim (front ++ core ++ back).toList = trim core.toList := by
  rw [toList_around]
  exact trim_append (fun character member => isBlank_iff.2 (white character member))
    (fun character member => isBlank_iff.2 (alsoWhite character member)) core.toList

/-- Every text is what trimming leaves of it, with white space around. -/
theorem exists_around (text : String) :
    ∃ front back, IsWhite front ∧ IsWhite back ∧
      text = front ++ String.ofList (trim text.toList) ++ back := by
  rcases exists_trim text.toList with ⟨front, back, white, alsoWhite, whole⟩
  refine ⟨.ofList front, .ofList back, isWhite_ofList.2 white, isWhite_ofList.2 alsoWhite, ?_⟩
  rw [← String.toList_inj, toList_around, String.toList_ofList, String.toList_ofList,
    String.toList_ofList]
  exact whole

theorem isWhite_iff {text : String} : IsWhite text ↔ trim text.toList = [] := by
  constructor
  · intro white
    have trimmed := @trim_append text.toList []
      (fun character member => isBlank_iff.2 (white character member)) nofun []
    rwa [List.append_nil, List.append_nil] at trimmed
  · intro empty character member
    rcases exists_trim text.toList with ⟨front, back, white, alsoWhite, whole⟩
    rw [whole, empty, List.append_nil] at member
    exact (List.mem_append.1 member).elim (white character) (alsoWhite character)

instance (text : String) : Decidable (IsWhite text) :=
  decidable_of_iff _ isWhite_iff.symm

theorem isCore_iff {core text : String} :
    IsCore core text ↔ core.toList = trim text.toList ∧ trim text.toList ≠ [] := by
  constructor
  · rintro ⟨trimmed, front, back, white, alsoWhite, rfl⟩
    rw [trim_around white alsoWhite, trimmed.trim_eq]
    refine ⟨rfl, fun empty => ?_⟩
    rcases trimmed.begins with ⟨first, begins, _⟩
    rw [empty] at begins
    cases begins
  · rintro ⟨same, visible⟩
    refine ⟨isTrimmed_of_trim same visible, ?_⟩
    have around := exists_around text
    rwa [← same, String.ofList_toList] at around

theorem sameWithin_iff {text other : String} :
    SameWithin text other ↔ trim text.toList = trim other.toList := by
  constructor
  · rintro ⟨core, _, _, _, _, front, back, otherFront, otherBack, rfl, rfl⟩
    rw [trim_around front back, trim_around otherFront otherBack]
  · intro same
    rcases exists_around text with ⟨front, back, white, alsoWhite, whole⟩
    rcases exists_around other with ⟨otherFront, otherBack, whiteToo, lastlyWhite, otherWhole⟩
    rw [← same] at otherWhole
    exact ⟨_, front, back, otherFront, otherBack, white, alsoWhite, whiteToo, lastlyWhite,
      whole, otherWhole⟩

/-- Whatever stands between two trimmed texts, the whole is trimmed. -/
theorem IsTrimmed.around {first last : String} (starts : IsTrimmed first) (ends : IsTrimmed last)
    (inner : String) : IsTrimmed (first ++ inner ++ last) := by
  rcases starts.begins with ⟨head, begins, visible⟩
  rcases ends.ends with ⟨final, finishes, alsoVisible⟩
  rw [Option.mem_def] at begins finishes
  constructor
  · refine ⟨head, ?_, visible⟩
    rw [toList_around, List.append_assoc, List.head?_append, begins]
    rfl
  · refine ⟨final, ?_, alsoVisible⟩
    rw [toList_around, List.getLast?_append, finishes]
    rfl

theorem IsTrimmed.isCore {text : String} (trimmed : IsTrimmed text) : IsCore text text :=
  ⟨trimmed, "", "", nofun, nofun, by simp⟩

/-! ## Order -/

def codePoints (text : String) : List Nat :=
  text.toList.map Char.toNat

theorem lt_iff_codePoints_lt (left right : String) :
    left < right ↔ codePoints left < codePoints right := by
  have preserves {left right : String} (less : left < right) :
      codePoints left < codePoints right :=
    List.map_lt (fun _ _ => id) (String.lt_iff_toList_lt.1 less)
  refine ⟨preserves, fun less => ?_⟩
  rcases lt_trichotomy left right with before | rfl | behind
  · exact before
  · exact absurd less (List.lt_irrefl _)
  · exact absurd (preserves behind) (List.lt_asymm less)

end Text

namespace PluginId

theorem ofText_eq_ok_iff_isCore {text : String} {plugin : PluginId} :
    ofText text = .ok plugin ↔ Text.IsCore plugin.text text := by
  rw [ofText_eq_ok_iff, Text.isCore_iff]
  exact ⟨fun same => ⟨same, same ▸ plugin.visible⟩, And.left⟩

theorem exists_ofText_error_iff {text : String} :
    (∃ error, ofText text = .error error) ↔ Text.IsWhite text := by
  simp only [ofText_eq_error_iff, Text.isWhite_iff, exists_and_left, exists_eq, and_true]

theorem ofText_eq_iff_sameWithin {text other : String} :
    ofText text = ofText other ↔ Text.SameWithin text other := by
  rw [Text.sameWithin_iff]
  cases named : ofText text with
  | ok plugin => rw [eq_comm, ofText_same_iff named, eq_comm]
  | error error =>
      have ⟨blank, same⟩ := ofText_eq_error_iff.1 named
      rw [eq_comm, ofText_eq_error_iff, blank, eq_comm, and_iff_left same]

/-- What is not white space alone has a core, and a plugin that is named by it. -/
theorem exists_ofText_of_visible {text : String} (visible : ¬ Text.IsWhite text) :
    ∃ plugin, ofText text = .ok plugin := by
  cases named : ofText text with
  | ok plugin => exact ⟨plugin, rfl⟩
  | error error => exact absurd (exists_ofText_error_iff.1 ⟨error, named⟩) visible

theorem existsUnique_isCore {text : String} (visible : ¬ Text.IsWhite text) :
    ∃! core, Text.IsCore core text := by
  rcases exists_ofText_of_visible visible with ⟨plugin, named⟩
  refine ⟨plugin.text, ofText_eq_ok_iff_isCore.1 named, fun core isCore => ?_⟩
  rw [← String.toList_inj, (Text.isCore_iff.1 isCore).1, ofText_eq_ok_iff.1 named]

/-- A text that is trimmed already names a plugin as it is. -/
theorem exists_ofText_of_isTrimmed {text : String} (trimmed : Text.IsTrimmed text) :
    ∃ plugin, ofText text = .ok plugin ∧ plugin.text = text := by
  have isCore := Text.isCore_iff.1 trimmed.isCore
  rcases ofText_of_visible isCore.2 with ⟨plugin, named, same⟩
  exact ⟨plugin, named, String.toList_inj.1 (same.trans isCore.1.symm)⟩

instance : IsStrictTotalOrder PluginId (· < ·) where
  trichotomous _ _ notLess notMore :=
    eq_of_text (String.le_antisymm (String.not_lt.1 notMore) (String.not_lt.1 notLess))
  irrefl plugin := String.lt_irrefl plugin.text
  trans _ _ _ := String.lt_trans

/-! ## The statement -/

/-- A spelling that is white space alone names no plugin. Any other names the one whose
identity is its core: just this part of it stands between white space and is trimmed. So an
identity is a spelling of itself, white space around a spelling does not count, and within it
does. And identities are ordered as their bytes are, which is as their code points are. -/
theorem ids_are_cores_of_spellings (text : String) :
    ((∃ error, ofText text = .error error) ↔ Text.IsWhite text) ∧
    (∀ error, ofText text = .error error → error.kind = .invalidArgument) ∧
    (∀ plugin, ofText text = .ok plugin ↔ Text.IsCore plugin.text text) ∧
    (¬ Text.IsWhite text → ∃! core, Text.IsCore core text) ∧
    (∀ plugin, ofText plugin.text = .ok plugin) ∧
    (∀ front back, Text.IsWhite front → Text.IsWhite back →
      ofText (front ++ text ++ back) = ofText text) ∧
    (∀ other, ofText text = ofText other ↔ Text.SameWithin text other) ∧
    (∀ first inner last, Text.IsTrimmed first → Text.IsTrimmed last →
      ∃ plugin, ofText (first ++ inner ++ last) = .ok plugin ∧
        plugin.text = first ++ inner ++ last) ∧
    IsStrictTotalOrder PluginId (· < ·) ∧
    ∀ plugin other : PluginId,
      (plugin < other ↔ Text.utf8Bytes plugin.text < Text.utf8Bytes other.text) ∧
      (plugin < other ↔ Text.codePoints plugin.text < Text.codePoints other.text) := by
  refine ⟨exists_ofText_error_iff, ?_, fun _ => ofText_eq_ok_iff_isCore, existsUnique_isCore,
    ?_, ?_, fun _ => ofText_eq_iff_sameWithin, ?_, inferInstance, ?_⟩
  · intro error fails
    rw [(ofText_eq_error_iff.1 fails).2]
    rfl
  · exact fun plugin => ofText_eq_ok_iff.2 plugin.trimmed.symm
  · intro front back white alsoWhite
    rw [ofText_eq_iff_sameWithin, Text.sameWithin_iff, Text.trim_around white alsoWhite]
  · intro first inner last starts ends
    exact exists_ofText_of_isTrimmed (starts.around ends inner)
  · intro plugin other
    exact ⟨Text.lt_iff_utf8Bytes_lt plugin.text other.text,
      Text.lt_iff_codePoints_lt plugin.text other.text⟩

/-- An em space, a no-break space and a tab around two words that a line separator parts. -/
theorem spaced_words_have_core :
    let text := "\u2003\u00a0web\u2028shop\t"
    let words : PluginId := ⟨"web\u2028shop", by decide, by decide⟩
    ¬ Text.IsWhite text ∧ (∃! core, Text.IsCore core text) ∧ Text.IsCore words.text text ∧
      Text.IsWhite "\u3000" ∧ Text.IsWhite "\u0085 " ∧
      ofText ("\u3000" ++ text ++ "\u0085 ") = .ok words := by
  intro text words
  have ⟨fails, _, core, unique, _, around, _⟩ := ids_are_cores_of_spellings text
  have named : ofText text = .ok words := ofText_eq_ok_iff.2 (by decide)
  have visible : ¬ Text.IsWhite text := by
    rw [← fails, named]
    nofun
  have front : Text.IsWhite "\u3000" := by decide
  have back : Text.IsWhite "\u0085 " := by decide
  exact ⟨visible, unique visible, (core words).1 named, front, back,
    (around _ _ front back).trans named⟩

end PluginId

end Instrumentation
