import Instrumentation.Proofs.Json.Scanning

namespace Instrumentation.Json

/-! Passing over values. Whatever value the grammar knows is passed over, however deep it
nests, and what follows it is left. -/

/-! ## Steps -/

abbrev SkipPlace := SkipPhase × List Bracket × List Char

/-- The budget pays for the steps from one place to another. -/
def Steps (count : Nat) (place later : SkipPlace) : Prop :=
  ∀ budget, skipWith (budget + count) place.1 place.2.1 place.2.2 =
    skipWith budget later.1 later.2.1 later.2.2

theorem Steps.trans {first second : Nat} {place middle later : SkipPlace}
    (earlier : Steps first place middle) (further : Steps second middle later) :
    Steps (first + second) place later := by
  intro budget
  have sum : budget + (first + second) = budget + second + first := by omega
  rw [sum, earlier, further]

theorem Steps.one {phase : SkipPhase} {brackets : List Bracket} {text : List Char}
    {later : SkipPlace} (going : phase = .afterValue → brackets ≠ [])
    (step : skipStep phase brackets text = .ok later) : Steps 1 (phase, brackets, text) later := by
  intro budget
  simp [skipWith, step, bind, Except.bind]

theorem Steps.value {brackets : List Bracket} {text : List Char} {later : SkipPlace}
    (step : skipStep .value brackets text = .ok later) :
    Steps 1 (.value, brackets, text) later :=
  .one (by simp) step

/-! ## Values without parts -/

def StartsNumber (character : Char) : Prop :=
  character = '-' ∨ isDigit character = true

theorem StartsNumber.ne {character other : Char} (starts : StartsNumber character)
    (notSign : other ≠ '-') (noDigit : isDigit other = false) : character ≠ other := by
  intro same
  rw [same] at starts
  rcases starts with sign | digit
  · exact notSign sign
  · rw [noDigit] at digit
    cases digit

theorem StartsNumber.visible {character : Char} (starts : StartsNumber character) :
    Json.isBlank character = false := by
  cases blank : Json.isBlank character with
  | false => rfl
  | true =>
      simp only [Json.isBlank, Bool.or_eq_true, beq_iff_eq] at blank
      rcases blank with ((same | same) | same) | same <;>
        exact absurd same (starts.ne (by decide) (by decide))

theorem StartsNumber.of_digit {digit : Char} (isDigit : isDigit digit = true) :
    StartsNumber digit :=
  .inr isDigit

theorem ne_minus_of_digit {digit : Char} (isDigit : isDigit digit = true) : digit ≠ '-' := by
  intro same
  rw [same] at isDigit
  cases isDigit

theorem IsDigits.starts {digits : List Char} (areDigits : IsDigits digits) :
    ∃ digit others, digits = digit :: others ∧ isDigit digit = true := by
  have ⟨given, all⟩ := areDigits
  cases digits with
  | nil => exact absurd rfl given
  | cons digit digits => exact ⟨digit, digits, rfl, all digit List.mem_cons_self⟩

theorem Numeral.IsSpelled.starts {numeral : Numeral} {unsigned : List Char}
    (spelled : numeral.IsSpelled unsigned) :
    ∃ digit others, unsigned = digit :: others ∧ isDigit digit = true := by
  cases spelled with
  | parts whole fraction point powerText power isWhole _ _ =>
      have ⟨digit, others, same, isDigit⟩ := isWhole.1.starts
      rw [same]
      exact ⟨digit, _, rfl, isDigit⟩

theorem signed_starts (negative : Bool) {numeral : Numeral} {unsigned : List Char}
    (spelled : numeral.IsSpelled unsigned) :
    ∃ character others, signed negative unsigned = character :: others ∧
      StartsNumber character := by
  cases negative with
  | true => exact ⟨'-', unsigned, rfl, .inl rfl⟩
  | false =>
      have ⟨digit, others, same, isDigit⟩ := spelled.starts
      exact ⟨digit, others, same, .of_digit isDigit⟩

theorem skipLeaf_of_number {character : Char} (starts : StartsNumber character)
    (rest : List Char) :
    skipLeaf (character :: rest) = (skipNumber (character :: rest)).map (none, ·) := by
  have isNumber : (character = '-' || isDigit character) = true := by
    simpa [StartsNumber] using starts
  have noList : character ≠ '[' := starts.ne (by decide) (by decide)
  have noObject : character ≠ '{' := starts.ne (by decide) (by decide)
  have noText : character ≠ '"' := starts.ne (by decide) (by decide)
  have noNull : character ≠ 'n' := starts.ne (by decide) (by decide)
  have noTrue : character ≠ 't' := starts.ne (by decide) (by decide)
  have noFalse : character ≠ 'f' := starts.ne (by decide) (by decide)
  simp only [skipLeaf, isNumber, if_true]

theorem skipNumber_append (negative : Bool) {numeral : Numeral} {unsigned rest : List Char}
    (spelled : numeral.IsSpelled unsigned) (closes : Closes rest) :
    skipNumber (signed negative unsigned ++ rest) = .ok rest := by
  have read := readNumeral_append .invalidNumber spelled closes
  cases negative with
  | true => simp [skipNumber, signed, read, Except.map]
  | false =>
      have ⟨digit, others, same, isDigit⟩ := spelled.starts
      have noMinus := ne_minus_of_digit isDigit
      rw [same, List.cons_append] at read
      simp [skipNumber, signed, same, noMinus, read, Except.map]

/-! ## Values -/

def StartsEntry (text : List Char) : Prop :=
  ∃ character more, text = character :: more ∧ Json.isBlank character = false ∧
    ∀ bracket : Bracket, character ≠ bracket.closing

theorem StartsNumber.entry {character : Char} (starts : StartsNumber character)
    (more : List Char) : StartsEntry (character :: more) := by
  refine ⟨character, more, rfl, starts.visible, fun bracket => ?_⟩
  cases bracket <;> exact starts.ne (by decide) (by decide)

theorem startsEntry_cons {character : Char} (visible : Json.isBlank character = false)
    (noList : character ≠ ']') (noObject : character ≠ '}') (more : List Char) :
    StartsEntry (character :: more) := by
  refine ⟨character, more, rfl, visible, fun bracket => ?_⟩
  cases bracket
  · exact noList
  · exact noObject

theorem IsPart.value_starts {text : List Char} (isValue : IsPart .value text) :
    StartsEntry text := by
  cases isValue with
  | null | yes | no | text => exact startsEntry_cons (by decide) (by decide) (by decide) _
  | number negative numeral unsigned spelled =>
      have ⟨character, others, same, starts⟩ := signed_starts negative spelled
      rw [same]
      exact starts.entry others
  | bracketed bracket inner =>
      cases bracket <;> exact startsEntry_cons (by decide) (by decide) (by decide) _

theorem IsPart.entry_starts {bracket : Bracket} {text : List Char}
    (isEntry : IsPart (.entry bracket) text) : StartsEntry text := by
  cases isEntry with
  | element _ isValue => exact isValue.value_starts
  | member => exact startsEntry_cons (by decide) (by decide) (by decide) _

theorem StartsEntry.skipBlank {text : List Char} (starts : StartsEntry text)
    (rest : List Char) : skipBlank (text ++ rest) = text ++ rest := by
  have ⟨character, more, same, visible, _⟩ := starts
  rw [same, List.cons_append, skipBlank_cons visible]

def Passed : Part → List Char → Prop
  | .value, text => ∀ blank brackets rest, IsBlank blank → Closes rest →
      ∃ count < 2 * text.length,
        Steps count (.value, brackets, blank ++ (text ++ rest)) (.afterValue, brackets, rest)
  | .entry bracket, text => ∀ blank outer rest, IsBlank blank → Closes rest →
      ∃ value, skipToValue bracket (blank ++ (text ++ rest)) = .ok value ∧
        ∃ count < 2 * text.length,
          Steps count (.value, bracket :: outer, value) (.afterValue, bracket :: outer, rest)
  | .entries bracket first, text => ∀ outer rest,
      ∃ count ≤ 2 * text.length + 1,
        Steps count (if first then .afterOpening else .afterValue, bracket :: outer,
          text ++ bracket.closing :: rest) (.afterValue, outer, rest)

theorem passed_leaf {text : List Char} (starts : StartsEntry text)
    (leaf : ∀ rest, Closes rest → skipLeaf (text ++ rest) = .ok (none, rest)) :
    Passed .value text := by
  intro blank brackets rest isBlank closes
  have step : skipStep .value brackets (blank ++ (text ++ rest)) =
      .ok (.afterValue, brackets, rest) := by
    rw [skipStep, skipBlank_append isBlank, starts.skipBlank, leaf rest closes]
    rfl
  have ⟨character, more, same, _⟩ := starts
  refine ⟨1, ?_, .value step⟩
  rw [same, List.length_cons]
  omega

theorem passed_bracketed {bracket : Bracket} {inner : List Char}
    (entries : Passed (.entries bracket true) inner) :
    Passed .value (bracket.opening :: (inner ++ [bracket.closing])) := by
  intro blank brackets rest isBlank _
  have ⟨count, few, steps⟩ := entries brackets rest
  have opening : skipStep .value brackets
      (blank ++ (bracket.opening :: (inner ++ [bracket.closing]) ++ rest)) =
        .ok (.afterOpening, bracket :: brackets, inner ++ bracket.closing :: rest) := by
    rw [skipStep, skipBlank_append isBlank]
    cases bracket <;>
    · rw [List.cons_append, skipBlank_cons (by decide)]
      simp [skipLeaf, Bracket.opening, bind, Except.bind, pure, Except.pure]
  refine ⟨1 + count, ?_, (Steps.value opening).trans steps⟩
  simp only [List.length_cons, List.length_append, List.length_nil]
  omega

theorem skipStep_closing (bracket : Bracket) (first : Bool) {blank : List Char}
    (isBlank : IsBlank blank) (outer : List Bracket) (rest : List Char) :
    skipStep (if first then .afterOpening else .afterValue) (bracket :: outer)
      (blank ++ bracket.closing :: rest) = .ok (.afterValue, outer, rest) := by
  have visible : Json.isBlank bracket.closing = false := by cases bracket <;> rfl
  cases first <;>
    simp [skipStep, skipBlank_append isBlank, skipBlank_cons visible]

theorem passed_nothing (bracket : Bracket) (first : Bool) {blank : List Char}
    (isBlank : IsBlank blank) : Passed (.entries bracket first) blank := by
  intro outer rest
  refine ⟨1, by omega, .one (by simp) ?_⟩
  exact skipStep_closing bracket first isBlank outer rest

theorem skipStep_separator {bracket : Bracket} {first : Bool} {separator entry : List Char}
    (separates : IsSeparator first separator) (starts : StartsEntry entry)
    (outer : List Bracket) (rest : List Char) :
    ∃ blank, IsBlank blank ∧
      skipStep (if first then .afterOpening else .afterValue) (bracket :: outer)
        (separator ++ (entry ++ rest)) =
      (skipToValue bracket (blank ++ (entry ++ rest))).map (.value, bracket :: outer, ·) := by
  cases separates with
  | first blank isBlank =>
      have ⟨character, more, same, visible, notClosing⟩ := starts
      refine ⟨[], nofun, ?_⟩
      rw [List.nil_append, if_pos rfl, skipStep, skipBlank_append isBlank, starts.skipBlank, same,
        List.cons_append]
      · simp only [notClosing bracket, if_false, if_true]
        rcases skipToValue bracket (character :: (more ++ rest)) with fault | value <;> rfl
      · simp
  | next before after isBlank blankToo =>
      have notClosing : ',' ≠ bracket.closing := by cases bracket <;> decide
      have found : skipBlank (before ++ ',' :: after ++ (entry ++ rest)) =
          ',' :: (after ++ (entry ++ rest)) := by
        rw [List.append_assoc, skipBlank_append isBlank, List.cons_append,
          skipBlank_cons (by decide)]
      refine ⟨after, blankToo, ?_⟩
      rw [if_neg (by decide), skipStep, found]
      · simp only [notClosing, if_false, if_true]
        rcases skipToValue bracket (after ++ (entry ++ rest)) with fault | value <;> rfl
      · simp

theorem passed_more {bracket : Bracket} {first : Bool} {separator entry rest : List Char}
    (separates : IsSeparator first separator) (starts : StartsEntry entry)
    (isEntry : Passed (.entry bracket) entry) (isRest : Passed (.entries bracket false) rest)
    (closes : ∀ behind, Closes (rest ++ bracket.closing :: behind)) :
    Passed (.entries bracket first) (separator ++ (entry ++ rest)) := by
  intro outer behind
  have ⟨blank, isBlank, step⟩ := @skipStep_separator bracket _ _ _ separates starts outer
    (rest ++ bracket.closing :: behind)
  have ⟨value, found, count, few, passed⟩ :=
    isEntry blank outer (rest ++ bracket.closing :: behind) isBlank (closes behind)
  have ⟨further, fewer, closed⟩ := isRest outer behind
  rw [found] at step
  have stepped := Steps.one (by simp) step
  refine ⟨1 + count + further, ?_, ?_⟩
  · simp only [List.length_append]
    omega
  · rw [List.append_assoc, List.append_assoc]
    exact (stepped.trans passed).trans closed

theorem IsPart.closes {bracket : Bracket} {text : List Char}
    (isPart : IsPart (.entries bracket false) text) (rest : List Char) :
    Closes (text ++ bracket.closing :: rest) := by
  cases isPart with
  | nothing _ _ _ isBlank => exact closes_blank_append isBlank (closes_closing bracket rest)
  | more _ _ separator entry others separates =>
      rw [List.append_assoc]
      exact closes_separator separates _

theorem passed_number (negative : Bool) {numeral : Numeral} {unsigned : List Char}
    (spelled : numeral.IsSpelled unsigned) : Passed .value (signed negative unsigned) := by
  have ⟨character, others, same, starts⟩ := signed_starts negative spelled
  refine passed_leaf (IsPart.number negative numeral unsigned spelled).value_starts ?_
  intro rest closes
  have skipped := skipNumber_append negative spelled closes
  rw [same, List.cons_append] at skipped ⊢
  rw [skipLeaf_of_number starts, skipped]
  rfl

theorem passed_text {text : List Char} (quotable : IsQuotable text) :
    Passed .value (quote text) := by
  refine passed_leaf (IsPart.text text quotable).value_starts fun rest _ => ?_
  simp [quote, skipLeaf, skipText_of_quotable quotable, Except.map]

theorem passed_member {key gap pause value : List Char} (quotable : IsQuotable key)
    (blankGap : IsBlank gap) (blankPause : IsBlank pause) (passed : Passed .value value) :
    Passed (.entry .object) (quote key ++ (gap ++ ':' :: (pause ++ value))) := by
  intro blank outer rest isBlank closes
  have ⟨count, few, steps⟩ := passed pause (.object :: outer) rest blankPause closes
  refine ⟨pause ++ (value ++ rest), ?_, count, ?_, steps⟩
  · have skipped := skipText_of_quotable quotable (gap ++ ':' :: (pause ++ (value ++ rest)))
    have colon := readColon_append blankGap (pause ++ (value ++ rest))
    simp [skipToValue, skipKey, skipBlank_append isBlank, quote, skipBlank_cons,
      Json.isBlank, skipped, colon, bind, Except.bind]
  · simp only [List.length_append, List.length_cons]
    omega

theorem IsPart.passed {part : Part} {text : List Char} (isPart : IsPart part text) :
    Passed part text := by
  induction isPart with
  | null => exact passed_leaf IsPart.null.value_starts fun rest _ => rfl
  | yes => exact passed_leaf IsPart.yes.value_starts fun rest _ => rfl
  | no => exact passed_leaf IsPart.no.value_starts fun rest _ => rfl
  | number negative numeral unsigned spelled => exact passed_number negative spelled
  | text text quotable => exact passed_text quotable
  | bracketed bracket inner _ entries => exact passed_bracketed entries
  | element value _ passed =>
      intro blank outer rest isBlank closes
      have ⟨count, few, steps⟩ := passed blank (.list :: outer) rest isBlank closes
      exact ⟨_, rfl, count, few, steps⟩
  | member key gap pause value quotable blankGap blankPause _ passed =>
      exact passed_member quotable blankGap blankPause passed
  | nothing bracket first blank isBlank => exact passed_nothing bracket first isBlank
  | more bracket first separator entry rest separates isEntry isRest passed restPassed =>
      exact passed_more separates isEntry.entry_starts passed restPassed isRest.closes

/-- Every value that the grammar knows is passed over, and what follows it is left. -/
theorem skipValue_append {blank value rest : List Char} (isBlank : IsBlank blank)
    (isValue : IsPart .value value) (closes : Closes rest) :
    skipValue (blank ++ (value ++ rest)) = .ok rest := by
  have ⟨count, few, steps⟩ := isValue.passed blank [] rest isBlank closes
  let text := blank ++ (value ++ rest)
  have long : value.length ≤ text.length := by
    simp only [text, List.length_append]
    omega
  have enough : 2 * text.length + 2 = (2 * text.length + 1 - count) + 1 + count := by omega
  have ended := steps (2 * text.length + 1 - count + 1)
  rw [skipValue, enough, ended, skipWith]

end Instrumentation.Json
