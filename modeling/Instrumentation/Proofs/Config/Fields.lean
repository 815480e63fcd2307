import Instrumentation.Config.Reader
import Instrumentation.Proofs.Json.Objects
import Mathlib.Data.List.Forall2

namespace Instrumentation

/-! Reading configurations from texts that the grammar knows. What is read depends on which
fields there are with which values, not on how they are written. -/

open Json

/-! ## Words and numbers -/

def SpellsWord (word : UInt64) (digits : List Char) : Prop :=
  IsWhole digits ∧ decimal digits = word.toNat

theorem le_foldl_digits (digits : List Char) (number : Nat) :
    number ≤ digits.foldl (fun number digit => number * 10 + digitValue digit) number := by
  induction digits generalizing number with
  | nil => exact Nat.le_refl number
  | cons digit digits induction =>
      have longer := induction (number * 10 + digitValue digit)
      rw [List.foldl_cons]
      omega

theorem appendDigits_of_fits (digits : List Char) (number : Nat)
    (fits : digits.foldl (fun number digit => number * 10 + digitValue digit) number <
      UInt64.size) :
    Numeral.appendDigits number digits =
      (digits.foldl (fun number digit => number * 10 + digitValue digit) number, []) := by
  induction digits generalizing number with
  | nil => rfl
  | cons digit digits induction =>
      have longer : number * 10 + digitValue digit < UInt64.size :=
        Nat.lt_of_le_of_lt (le_foldl_digits digits _) fits
      rw [Numeral.appendDigits, if_pos longer]
      exact induction _ fits

theorem ofNumeral_word (word : UInt64) {digits : List Char}
    (same : decimal digits = word.toNat) :
    Number.ofNumeral false ⟨digits, [], none⟩ = .ok (.unsigned word.toNat) := by
  have fits : decimal digits < UInt64.size := by
    rw [same]
    exact word.toNat_lt_size
  have kept : Numeral.kept ⟨digits, [], none⟩ = (word.toNat, 0) := by
    have appended := appendDigits_of_fits digits 0 fits
    rw [← same]
    simp [Numeral.kept, appended, Numeral.appendDigits, decimal]
  simp [Number.ofNumeral, kept, Numeral.integral]

theorem isSpelled_whole {digits : List Char} (isWhole : IsWhole digits) :
    Numeral.IsSpelled ⟨digits, [], none⟩ digits := by
  have spelled := Numeral.IsSpelled.parts digits [] [] [] none isWhole .missing .missing
  simpa using spelled

theorem readWord_reads {word : UInt64} {digits : List Char} (spells : SpellsWord word digits) :
    ReadsAs readWord digits (.ok word) := by
  intro blank rest isBlank closes
  have ⟨isWhole, same⟩ := spells
  have read := readNumber_append (isSpelled_whole isWhole) (ofNumeral_word word same) closes
  have ⟨digit, others, split, isDigit⟩ := isWhole.1.starts
  have noMinus := ne_minus_of_digit isDigit
  rw [split, List.cons_append] at read ⊢
  rw [readWord, skipBlank_append isBlank, skipBlank_cons (StartsNumber.of_digit isDigit).visible]
  simp [isDigit, read, bind, Except.bind, pure, Except.pure, Except.map]

def spelledBoolean : Bool → List Char
  | true => ['t', 'r', 'u', 'e']
  | false => ['f', 'a', 'l', 's', 'e']

theorem readBoolean_reads (value : Bool) :
    ReadsAs readBoolean (spelledBoolean value) (.ok value) := by
  intro blank rest isBlank _
  rw [readBoolean, skipBlank_append isBlank]
  cases value <;> rfl

/-! ## Properties -/

/-- The texts that stand for a property. A number stands for what it is taken as, and those
that are not taken stand for none. -/
inductive Property.IsSpelled : Property → List Char → Prop
  | boolean (value : Bool) : IsSpelled (.boolean value) (spelledBoolean value)
  | double (negative : Bool) (numeral : Numeral) (unsigned : List Char) (number : Number)
      (spelled : numeral.IsSpelled unsigned)
      (taken : Number.ofNumeral negative numeral = .ok number) :
      IsSpelled (.double number.toBinary64) (signed negative unsigned)
  | text (value : String) (text : List Char) (spells : Spells text value.toList) :
      IsSpelled (.text value) (quote text)

theorem readContent_of_number (depth : Nat) {negative : Bool} {numeral : Numeral}
    {unsigned blank rest : List Char} {number : Number} (isBlank : IsBlank blank)
    (spelled : numeral.IsSpelled unsigned)
    (taken : Number.ofNumeral negative numeral = .ok number) (closes : Closes rest) :
    readContent depth (blank ++ (signed negative unsigned ++ rest)) =
      .ok (.number number, rest) := by
  have read := readNumber_append spelled taken closes
  cases negative with
  | true =>
      simp [readContent, skipBlank_append isBlank, signed, skipBlank_cons, Json.isBlank, read,
        Except.map]
  | false =>
      obtain ⟨digit, others, same, isDigit⟩ := spelled.starts
      have starts := StartsNumber.of_digit isDigit
      have noNull : digit ≠ 'n' := starts.ne (by decide) (by decide)
      have noTrue : digit ≠ 't' := starts.ne (by decide) (by decide)
      have noFalse : digit ≠ 'f' := starts.ne (by decide) (by decide)
      have noMinus := ne_minus_of_digit isDigit
      have noText : digit ≠ '"' := starts.ne (by decide) (by decide)
      have noList : digit ≠ '[' := starts.ne (by decide) (by decide)
      have noObject : digit ≠ '{' := starts.ne (by decide) (by decide)
      rw [same, List.cons_append] at read
      simp [readContent, skipBlank_append isBlank, signed, same, skipBlank_cons starts.visible,
        isDigit, read, Except.map]

theorem Property.read_reads (depth : Nat) {property : Property} {text : List Char}
    (spelled : property.IsSpelled text) : ReadsAs (Property.read depth) text (.ok property) := by
  intro blank rest isBlank closes
  cases spelled with
  | boolean value =>
      have content : readContent depth (blank ++ (spelledBoolean value ++ rest)) =
          .ok (.boolean value, rest) := by
        unfold readContent
        rw [skipBlank_append isBlank]
        cases value <;> rfl
      rw [Property.read, content]
      rfl
  | double negative numeral unsigned number spelled taken =>
      rw [Property.read, readContent_of_number depth isBlank spelled taken closes]
      rfl
  | text value text spells =>
      have read := readText_of_spells spells rest
      have content : readContent depth (blank ++ (quote text ++ rest)) =
          .ok (.text value, rest) := by
        simp [readContent, skipBlank_append isBlank, quote, skipBlank_cons, Json.isBlank, read,
          Except.map]
      rw [Property.read, content]
      rfl

/-- A number that is not finite is written as null, which is no property. -/
theorem Property.read_null (depth : Nat) :
    ReadsAs (Property.read depth) ['n', 'u', 'l', 'l'] (.error (.noVariant "PropertyValue")) := by
  intro blank rest isBlank _
  have content : readContent depth (blank ++ (['n', 'u', 'l', 'l'] ++ rest)) =
      .ok (.null, rest) := by
    unfold readContent
    rw [skipBlank_append isBlank]
    rfl
  rw [Property.read, content]
  rfl

/-! ## Maps -/

def IsEntry {Value : Type} (isValue : Value → List Char → Prop) (entry : String × Value)
    (text : List Char) : Prop :=
  ∃ value, isValue entry.2 value ∧ IsMember entry.1 value text

def Dict.ofAll {Value Other : Type} (stands : Value → Except Fault Other)
    (entries : List (String × Value)) : Except Fault (Dict Other) :=
  entries.foldlM (fun dict entry => (stands entry.2).map (dict.insert entry.1)) .empty

theorem Dict.ofAll_of_forall₂ {Value Other : Type} {stands : Value → Except Fault Other}
    {values : List (String × Value)} {entries : List (String × Other)}
    (means : List.Forall₂ (fun value entry =>
      value.1 = entry.1 ∧ stands value.2 = .ok entry.2) values entries) :
    Dict.ofAll stands values = .ok (.ofList entries) := by
  have folded (dict : Dict Other) :
      values.foldlM (fun dict value => (stands value.2).map (dict.insert value.1)) dict =
        .ok (entries.foldl (fun dict entry => dict.insert entry.1 entry.2) dict) := by
    induction means generalizing dict with
    | nil => rfl
    | cons same _ induction =>
        rw [List.foldlM_cons, same.1, same.2]
        exact induction _
  exact folded .empty

theorem Dict.ofAll_ok {Value Other : Type} {stands : Value → Except Fault Other}
    {change : Value → Other} (entries : List (String × Value))
    (means : ∀ entry ∈ entries, stands entry.2 = .ok (change entry.2)) :
    Dict.ofAll stands entries =
      .ok (.ofList (entries.map fun entry => (entry.1, change entry.2))) := by
  apply Dict.ofAll_of_forall₂
  rw [List.forall₂_map_right_iff, List.forall₂_same]
  exact fun entry member => ⟨rfl, means entry member⟩

theorem Dict.ofAll_error {Value Other : Type} {stands : Value → Except Fault Other}
    {entries : List (String × Value)} {entry : String × Value} {fault : Fault}
    (member : entry ∈ entries) (refused : stands entry.2 = .error fault) :
    ∃ fault, Dict.ofAll stands entries = .error fault := by
  have folded (dict : Dict Other) : ∃ fault,
      entries.foldlM (fun dict entry => (stands entry.2).map (dict.insert entry.1)) dict =
        .error fault := by
    induction entries generalizing dict with
    | nil => cases member
    | cons first entries induction =>
        rw [List.foldlM_cons]
        rcases List.mem_cons.mp member with same | member
        · rw [← same, refused]
          exact ⟨fault, rfl⟩
        · cases stands first.2 with
          | error other => exact ⟨other, rfl⟩
          | ok value => exact induction member (dict.insert first.1 value)
  exact folded .empty

theorem Dict.read_reads {Value Other : Type} {isValue : Value → List Char → Prop}
    {stands : Value → Except Fault Other} {reader : Reader Other}
    (reads : ∀ value text, isValue value text → ReadsAs reader text (stands value))
    {entries : List (String × Value)} {text : List Char}
    (isObject : IsObject (IsEntry isValue) entries text) :
    ReadsAs (Dict.read reader) text (Dict.ofAll stands entries) := by
  intro blank rest isBlank _
  cases isObject with
  | braces inner areMembers =>
      let member : MemberReader (Dict Other) := fun dict key characters => do
        let read ← reader (← readColon characters)
        return (dict.insert key read.1, read.2)
      have takes (dict : Dict Other) (entry : String × Value) (text : List Char)
          (isEntry : IsEntry isValue entry text) :
          TakesUp member dict text ((stands entry.2).map (dict.insert entry.1)) := by
        obtain ⟨value, isValue, isMember⟩ := isEntry
        exact takesUp_of_reads isMember (reads entry.2 value isValue) fun _ => rfl
      have read := readObject_append takes areMembers Dict.empty rest
      have split : inner ++ ['}'] ++ rest = inner ++ '}' :: rest := by simp
      rw [Dict.read, skipBlank_append isBlank, List.cons_append, skipBlank_cons (by decide), split]
      exact read

/-! ## Fields -/

def onlyOnce {Value : Type} (name : String) (present : Option Value)
    (result : Except Fault Value) : Except Fault (Option Value) :=
  if present.isSome then .error (.duplicateField name) else result.map some

theorem takesUp_field {State Value : Type} {reader : MemberReader State} {state : State}
    {name : String} {value text : List Char} {present : Option Value}
    {result : Except Fault Value} {valueReader : Reader Value} {change : Option Value → State}
    (isMember : IsMember name value text) (reads : ReadsAs valueReader value result)
    (means : ∀ characters, reader state name characters = (do
      let (value, rest) ← readField name present valueReader characters
      return (change value, rest))) :
    TakesUp reader state text ((onlyOnce name present result).map change) := by
  cases present with
  | some earlier =>
      cases isMember with
      | spelled spelled gap pause spells _ _ =>
          refine ⟨name, spelled, gap ++ ':' :: (pause ++ value), spells, rfl, fun rest _ => ?_⟩
          rw [means]
          rfl
  | none =>
      have taken : TakesUp reader state text (result.map fun value => change (some value)) := by
        apply takesUp_of_reads isMember reads
        intro characters
        rw [means]
        rcases colon : readColon characters with fault | behind
        · simp [readField, colon, bind, Except.bind]
        · rcases read : valueReader behind with fault | ⟨found, rest⟩ <;>
            simp [readField, colon, read, bind, Except.bind, pure, Except.pure]
      have same : (onlyOnce name none result).map change =
          result.map fun value => change (some value) := by
        cases result <;> rfl
      rw [same]
      exact taken

inductive PluginField where
  | properties (entries : List (String × Property))
  | other

inductive EngineField where
  | enabled (value : Bool)
  | maxCompletedTraces (value : UInt64)
  | maxTraceAttributes (value : UInt64)
  | plugins (entries : List (String × Option (List (String × Property))))
  | other

namespace PluginField

def properties? : PluginField → Option (List (String × Property))
  | properties entries => some entries
  | other => none

inductive IsSpelled (spells : Property → List Char → Prop) : PluginField → List Char → Prop
  | properties (entries : List (String × Property)) (value text : List Char)
      (isObject : IsObject (IsEntry spells) entries value)
      (isMember : IsMember "properties" value text) : IsSpelled spells (.properties entries) text
  | other (name : String) (value text : List Char) (isOther : name ≠ "properties")
      (isValue : IsPart .value value) (isMember : IsMember name value text) :
      IsSpelled spells .other text

def put (stands : Property → Except Fault Property) (fields : PartialPlugin) :
    PluginField → Except Fault PartialPlugin
  | properties entries =>
      (onlyOnce "properties" fields.properties (Dict.ofAll stands entries)).map
        fun properties => { properties }
  | other => .ok fields

end PluginField

section Reading

variable {spells : Property → List Char → Prop} {stands : Property → Except Fault Property}

theorem PluginField.takesUp
    (reads : ∀ depth property text, spells property text →
      ReadsAs (Property.read depth) text (stands property))
    (fields : PartialPlugin) (field : PluginField) (text : List Char)
    (spelled : field.IsSpelled spells text) :
    TakesUp PluginConfig.readMember fields text (field.put stands fields) := by
  cases spelled with
  | properties entries value _ isObject isMember =>
      have read := Dict.read_reads (reads (depthLimit - 4)) isObject
      exact takesUp_field isMember read fun _ => rfl
  | other name value _ isOther isValue isMember =>
      refine takesUp_of_skips isMember isValue fun characters => ?_
      rw [PluginConfig.readMember, if_neg isOther]
      rfl

def PluginConfig.IsSpelled (spells : Property → List Char → Prop)
    (properties : Option (List (String × Property))) (text : List Char) : Prop :=
  ∃ fields : List PluginField, fields.filterMap PluginField.properties? = properties.toList ∧
    IsObject (PluginField.IsSpelled spells) fields text

def PartialPlugin.withAll (stands : Property → Except Fault Property) (fields : PartialPlugin) :
    Option (List (String × Property)) → Except Fault PartialPlugin
  | some entries => (Dict.ofAll stands entries).map fun properties => { properties }
  | none => .ok fields

def PluginConfig.ofAll (stands : Property → Except Fault Property)
    (properties : Option (List (String × Property))) : Except Fault PluginConfig :=
  (PartialPlugin.withAll stands {} properties).map PluginConfig.ofFields

theorem PluginField.foldlM_put {fields : List PluginField}
    {properties : Option (List (String × Property))}
    (given : fields.filterMap PluginField.properties? = properties.toList)
    (start : PartialPlugin) (free : properties.isSome → start.properties = none) :
    fields.foldlM (PluginField.put stands) start = start.withAll stands properties := by
  induction fields generalizing start properties with
  | nil =>
      cases properties with
      | none => rfl
      | some entries => cases given
  | cons field fields induction =>
      cases field with
      | other => exact induction given start free
      | properties entries =>
          cases properties with
          | none => cases given
          | some others =>
              have ⟨same, rest⟩ := List.cons.inj given
              cases same
              have taken : PluginField.put stands start (.properties entries) =
                  start.withAll stands (some entries) := by
                rw [PluginField.put, PartialPlugin.withAll, onlyOnce, free rfl]
                rcases Dict.ofAll stands entries with fault | dict <;> rfl
              rw [List.foldlM_cons, taken]
              cases start.withAll stands (some entries) with
              | error fault => rfl
              | ok later => exact @induction none rest later (by simp)

theorem PluginConfig.read_reads
    (reads : ∀ depth property text, spells property text →
      ReadsAs (Property.read depth) text (stands property))
    {properties : Option (List (String × Property))} {text : List Char}
    (spelled : PluginConfig.IsSpelled spells properties text) :
    ReadsAs PluginConfig.read text (PluginConfig.ofAll stands properties) := by
  intro blank rest isBlank _
  have ⟨fields, given, isObject⟩ := spelled
  cases isObject with
  | braces inner areMembers =>
      have read := readObject_append (PluginField.takesUp reads) areMembers {} rest
      rw [PluginField.foldlM_put given {} fun _ => rfl] at read
      have split : inner ++ ['}'] ++ rest = inner ++ '}' :: rest := by simp
      rw [PluginConfig.read, skipBlank_append isBlank, List.cons_append,
        skipBlank_cons (by decide), split, PluginConfig.ofAll]
      simp only [read]
      cases PartialPlugin.withAll stands {} properties <;> rfl

namespace EngineField

def enabled? : EngineField → Option Bool
  | enabled value => some value
  | maxCompletedTraces _ | maxTraceAttributes _ | plugins _ | other => none

def maxCompletedTraces? : EngineField → Option UInt64
  | maxCompletedTraces value => some value
  | enabled _ | maxTraceAttributes _ | plugins _ | other => none

def maxTraceAttributes? : EngineField → Option UInt64
  | maxTraceAttributes value => some value
  | enabled _ | maxCompletedTraces _ | plugins _ | other => none

def plugins? : EngineField → Option (List (String × Option (List (String × Property))))
  | plugins entries => some entries
  | enabled _ | maxCompletedTraces _ | maxTraceAttributes _ | other => none

def names : List String :=
  ["enabled", "max_completed_traces", "max_trace_attributes", "plugins"]

inductive IsSpelled (spells : Property → List Char → Prop) : EngineField → List Char → Prop
  | enabled (value : Bool) (text : List Char)
      (isMember : IsMember "enabled" (spelledBoolean value) text) :
      IsSpelled spells (.enabled value) text
  | maxCompletedTraces (word : UInt64) (value text : List Char) (isWord : SpellsWord word value)
      (isMember : IsMember "max_completed_traces" value text) :
      IsSpelled spells (.maxCompletedTraces word) text
  | maxTraceAttributes (word : UInt64) (value text : List Char) (isWord : SpellsWord word value)
      (isMember : IsMember "max_trace_attributes" value text) :
      IsSpelled spells (.maxTraceAttributes word) text
  | plugins (entries : List (String × Option (List (String × Property))))
      (value text : List Char)
      (isObject : IsObject (IsEntry (PluginConfig.IsSpelled spells)) entries value)
      (isMember : IsMember "plugins" value text) : IsSpelled spells (.plugins entries) text
  | other (name : String) (value text : List Char) (isOther : name ∉ names)
      (isValue : IsPart .value value) (isMember : IsMember name value text) :
      IsSpelled spells .other text

def put (stands : Property → Except Fault Property) (fields : PartialEngine) :
    EngineField → Except Fault PartialEngine
  | enabled value =>
      (onlyOnce "enabled" fields.enabled (.ok value)).map fun enabled => { fields with enabled }
  | maxCompletedTraces value =>
      (onlyOnce "max_completed_traces" fields.maxCompletedTraces (.ok value)).map
        fun maxCompletedTraces => { fields with maxCompletedTraces }
  | maxTraceAttributes value =>
      (onlyOnce "max_trace_attributes" fields.maxTraceAttributes (.ok value)).map
        fun maxTraceAttributes => { fields with maxTraceAttributes }
  | plugins entries =>
      (onlyOnce "plugins" fields.plugins (Dict.ofAll (PluginConfig.ofAll stands) entries)).map
        fun plugins => { fields with plugins }
  | other => .ok fields

end EngineField

theorem EngineField.takesUp
    (reads : ∀ depth property text, spells property text →
      ReadsAs (Property.read depth) text (stands property))
    (fields : PartialEngine) (field : EngineField) (text : List Char)
    (spelled : field.IsSpelled spells text) :
    TakesUp EngineConfig.readMember fields text (field.put stands fields) := by
  cases spelled with
  | enabled value _ isMember => exact takesUp_field isMember (readBoolean_reads value) fun _ => rfl
  | maxCompletedTraces word value _ isWord isMember =>
      exact takesUp_field isMember (readWord_reads isWord) fun _ => rfl
  | maxTraceAttributes word value _ isWord isMember =>
      exact takesUp_field isMember (readWord_reads isWord) fun _ => rfl
  | plugins entries value _ isObject isMember =>
      have read : ReadsAs EngineConfig.readPlugins value
          (Dict.ofAll (PluginConfig.ofAll stands) entries) :=
        Dict.read_reads (fun _ _ spelled => PluginConfig.read_reads reads spelled) isObject
      exact takesUp_field isMember read fun _ => rfl
  | other name value _ isOther isValue isMember =>
      simp only [names, List.mem_cons, List.not_mem_nil, or_false, not_or] at isOther
      refine takesUp_of_skips isMember isValue fun characters => ?_
      simp only [EngineConfig.readMember, isOther, if_false]
      rfl

/-- A configuration is read as its fields taken up one after another. -/
theorem EngineConfig.read_reads
    (reads : ∀ depth property text, spells property text →
      ReadsAs (Property.read depth) text (stands property))
    {fields : List EngineField} {text : List Char}
    (isObject : IsObject (EngineField.IsSpelled spells) fields text) :
    ReadsAs EngineConfig.read text
      ((fields.foldlM (EngineField.put stands) {}).map EngineConfig.ofFields) := by
  intro blank rest isBlank _
  cases isObject with
  | braces inner areMembers =>
      have read := readObject_append (EngineField.takesUp reads) areMembers {} rest
      have split : inner ++ ['}'] ++ rest = inner ++ '}' :: rest := by simp
      rw [EngineConfig.read, skipBlank_append isBlank, List.cons_append,
        skipBlank_cons (by decide), split]
      simp only [read]
      cases fields.foldlM (EngineField.put stands) {} <;> rfl

end Reading

end Instrumentation
