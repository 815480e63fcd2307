import Instrumentation.Json.Content
import Instrumentation.Proofs.Json.Grammar
import Mathlib.Data.List.TakeWhile

namespace Instrumentation.Json

/-! Reading the parts of a text that have no parts of their own: white space, strings and
numbers. What a reader takes is what the grammar says is there, and what follows is left to the
next. -/

/-! ## White space -/

theorem skipBlank_append {blank : List Char} (isBlank : IsBlank blank) (rest : List Char) :
    skipBlank (blank ++ rest) = skipBlank rest :=
  List.dropWhile_append_of_pos isBlank

theorem skipBlank_cons {character : Char} (visible : Json.isBlank character = false)
    (rest : List Char) : skipBlank (character :: rest) = character :: rest :=
  List.dropWhile_cons_of_neg (by simp [visible])

/-- No number goes on with these characters. -/
def Closes (rest : List Char) : Prop :=
  ∀ character ∈ rest.head?,
    isDigit character = false ∧ character ≠ '.' ∧ character ≠ 'e' ∧ character ≠ 'E'

theorem closes_cons {character : Char} (rest : List Char) (noDigit : isDigit character = false)
    (noPoint : character ≠ '.') (noLower : character ≠ 'e') (noUpper : character ≠ 'E') :
    Closes (character :: rest) := by
  intro other same
  cases same
  exact ⟨noDigit, noPoint, noLower, noUpper⟩

theorem closes_of_blank {character : Char} (blank : Json.isBlank character = true)
    (rest : List Char) : Closes (character :: rest) := by
  simp only [Json.isBlank, Bool.or_eq_true, beq_iff_eq] at blank
  rcases blank with ((rfl | rfl) | rfl) | rfl <;>
    exact closes_cons rest (by decide) (by decide) (by decide) (by decide)

theorem closes_blank_append {blank rest : List Char} (isBlank : IsBlank blank)
    (closes : Closes rest) : Closes (blank ++ rest) := by
  cases blank with
  | nil => exact closes
  | cons character blank => exact closes_of_blank (isBlank _ List.mem_cons_self) _

theorem closes_comma (rest : List Char) : Closes (',' :: rest) :=
  closes_cons rest (by decide) (by decide) (by decide) (by decide)

theorem closes_closing (bracket : Bracket) (rest : List Char) :
    Closes (bracket.closing :: rest) := by
  cases bracket <;> exact closes_cons rest (by decide) (by decide) (by decide) (by decide)

theorem closes_separator {separator : List Char} (separates : IsSeparator false separator)
    (rest : List Char) : Closes (separator ++ rest) := by
  cases separates with
  | next before after blank _ =>
      rw [List.append_assoc]
      exact closes_blank_append blank (closes_comma _)

theorem readColon_append {gap : List Char} (blank : IsBlank gap) (rest : List Char) :
    readColon (gap ++ ':' :: rest) = .ok rest := by
  rw [readColon, skipBlank_append blank, skipBlank_cons (by decide)]
  rfl

/-! ## Strings -/

theorem readCharacters_of_spells {text characters : List Char} (spells : Spells text characters)
    (rest : List Char) : readCharacters (text ++ '"' :: rest) = .ok (characters, rest) := by
  induction spells with
  | nothing => simp [readCharacters]
  | plain character text characters visible noQuote noBackslash _ induction =>
      have least : ¬ character.toNat < 0x20 := Nat.not_lt.2 visible
      simp [readCharacters, noBackslash, least, induction, prepend, Except.map]
  | short letter character text characters named _ induction =>
      have notUnit : letter ≠ 'u' := by
        intro same
        rw [same] at named
        cases named
      simp [readCharacters, notUnit, named, induction, prepend, Except.map]
  | unit first second third fourth code text characters spelled notLeading notTrailing _
      induction =>
      simp [readCharacters, spelled, notLeading, notTrailing, induction, prepend, Except.map]
  | pair first second third fourth fifth sixth seventh eighth high low text characters leads
      trails leading trailing _ induction =>
      have notTrailing : isTrailing high = false := by
        simp only [isLeading, isTrailing, Bool.and_eq_true, decide_eq_true_eq] at leading ⊢
        simp
        omega
      simp [readCharacters, leads, trails, leading, trailing, notTrailing, induction, prepend,
        Except.map]

theorem readText_of_spells {text : List Char} {value : String}
    (spells : Spells text value.toList) (rest : List Char) :
    readText (text ++ '"' :: rest) = .ok (value, rest) := by
  rw [readText, readCharacters_of_spells spells]
  simp [Except.map]

theorem skipText_of_quotable {text : List Char} (quotable : IsQuotable text)
    (rest : List Char) : skipText (text ++ '"' :: rest) = .ok rest := by
  induction quotable with
  | nothing => simp [skipText]
  | plain character text visible noQuote noBackslash _ induction =>
      have least : ¬ character.toNat < 0x20 := Nat.not_lt.2 visible
      simp [skipText, noBackslash, least, induction]
  | short letter character text named _ induction =>
      have notUnit : letter ≠ 'u' := by
        intro same
        rw [same] at named
        cases named
      simp [skipText, notUnit, named, induction]
  | unit first second third fourth code text spelled _ induction =>
      simp [skipText, spelled, induction]

/-! ## Numbers -/

def EndsDigits (rest : List Char) : Prop :=
  ∀ character ∈ rest.head?, isDigit character = false

theorem Closes.endsDigits {rest : List Char} (closes : Closes rest) : EndsDigits rest :=
  fun character member => (closes character member).1

theorem readDigits_of_takeWhile (atEnd : Fault) {text digits : List Char} {digit : Char}
    (taken : text.takeWhile isDigit = digit :: digits) :
    readDigits atEnd text = .ok (digit :: digits, text.dropWhile isDigit) := by
  unfold readDigits
  rw [taken]

theorem readDigits_append (atEnd : Fault) {digits rest : List Char} (areDigits : IsDigits digits)
    (ends : EndsDigits rest) : readDigits atEnd (digits ++ rest) = .ok (digits, rest) := by
  have ⟨given, all⟩ := areDigits
  have taken : (digits ++ rest).takeWhile isDigit = digits := by
    rw [List.takeWhile_append_of_pos all]
    cases rest with
    | nil => simp
    | cons character rest => simp [ends character rfl]
  have left : (digits ++ rest).dropWhile isDigit = rest := by
    rw [List.dropWhile_append_of_pos all]
    cases rest with
    | nil => rfl
    | cons character rest => simp [ends character rfl]
  cases digits with
  | nil => exact absurd rfl given
  | cons digit digits => rw [readDigits_of_takeWhile atEnd taken, left]

theorem readDigits_inv {atEnd : Fault} {text digits rest : List Char}
    (reads : readDigits atEnd text = .ok (digits, rest)) :
    text = digits ++ rest ∧ IsDigits digits := by
  cases taken : text.takeWhile isDigit with
  | nil =>
      unfold readDigits at reads
      rw [taken] at reads
      cases text <;> cases reads
  | cons digit more =>
      have all : ∀ other ∈ digit :: more, isDigit other = true := by
        intro other member
        rw [← taken] at member
        exact List.mem_takeWhile_imp member
      rw [readDigits_of_takeWhile atEnd taken] at reads
      cases reads
      refine ⟨?_, List.cons_ne_nil _ _, all⟩
      rw [← taken, List.takeWhile_append_dropWhile]

theorem readWhole_append (atEnd : Fault) {whole rest : List Char} (isWhole : IsWhole whole)
    (ends : EndsDigits rest) : readWhole atEnd (whole ++ rest) = .ok (whole, rest) := by
  have digits := readDigits_append atEnd isWhole.1 ends
  unfold readWhole
  simp only [digits, bind, Except.bind]
  split
  · exact absurd rfl (isWhole.2 _ _)
  · rfl

theorem readWhole_inv {atEnd : Fault} {text whole rest : List Char}
    (reads : readWhole atEnd text = .ok (whole, rest)) :
    text = whole ++ rest ∧ IsWhole whole := by
  unfold readWhole at reads
  rcases digits : readDigits atEnd text with fault | ⟨found, left⟩
  · simp [digits, bind, Except.bind] at reads
  · simp only [digits, bind, Except.bind] at reads
    split at reads
    · cases reads
    · next alone =>
        cases reads
        have ⟨same, areDigits⟩ := readDigits_inv digits
        exact ⟨same, areDigits, fun second more leads => alone second more leads⟩

theorem readPower_of_sign (atEnd : Fault) {negative : Bool} {sign unsigned : List Char}
    (isSign : IsPowerSign negative sign)
    (signless : sign = [] → unsigned.head? ≠ some '+' ∧ unsigned.head? ≠ some '-') :
    readPower atEnd (sign ++ unsigned) = (readDigits atEnd unsigned).map fun read =>
      (if negative then -(decimal read.1 : Int) else decimal read.1, read.2) := by
  have read (negative : Bool) :
      (do
        let read ← readDigits atEnd unsigned
        let power : Nat := read.1.foldl (fun number digit => number * 10 + digitValue digit) 0
        return (if negative then -(power : Int) else power, read.2)) =
      (readDigits atEnd unsigned).map fun read =>
        (if negative then -(decimal read.1 : Int) else (decimal read.1 : Int), read.2) := by
    rcases readDigits atEnd unsigned with fault | ⟨digits, rest⟩ <;> rfl
  cases isSign with
  | plus => exact read false
  | minus => exact read true
  | missing =>
      obtain ⟨noPlus, noMinus⟩ := signless rfl
      cases unsigned with
      | nil => exact read false
      | cons character unsigned =>
          simp only [List.head?_cons, ne_eq, Option.some.injEq] at noPlus noMinus
          simpa [readPower, noPlus, noMinus] using read false

theorem exists_power_sign (text : List Char) :
    ∃ negative sign unsigned, IsPowerSign negative sign ∧ text = sign ++ unsigned ∧
      (sign = [] → unsigned.head? ≠ some '+' ∧ unsigned.head? ≠ some '-') := by
  cases text with
  | nil => exact ⟨false, [], [], .missing, rfl, fun _ => by simp⟩
  | cons character rest =>
      by_cases plus : character = '+'
      · exact ⟨false, ['+'], rest, .plus, by rw [plus]; rfl, nofun⟩
      by_cases minus : character = '-'
      · exact ⟨true, ['-'], rest, .minus, by rw [minus]; rfl, nofun⟩
      exact ⟨false, [], character :: rest, .missing, rfl, fun _ => by simp [plus, minus]⟩

theorem readPower_append (atEnd : Fault) {negative : Bool} {sign digits rest : List Char}
    (isSign : IsPowerSign negative sign) (areDigits : IsDigits digits) (ends : EndsDigits rest) :
    readPower atEnd (sign ++ (digits ++ rest)) =
      .ok (if negative then -(decimal digits : Int) else decimal digits, rest) := by
  have signless : sign = [] →
      (digits ++ rest).head? ≠ some '+' ∧ (digits ++ rest).head? ≠ some '-' := by
    intro _
    cases digits with
    | nil => exact absurd rfl areDigits.1
    | cons digit digits =>
        have isDigit := areDigits.2 digit List.mem_cons_self
        constructor <;>
        · intro same
          cases same
          cases isDigit
  rw [readPower_of_sign atEnd isSign signless, readDigits_append atEnd areDigits ends]
  rfl

theorem readPower_inv {atEnd : Fault} {text rest : List Char} {power : Int}
    (reads : readPower atEnd text = .ok (power, rest)) :
    ∃ negative sign digits, text = sign ++ (digits ++ rest) ∧ IsPowerSign negative sign ∧
      IsDigits digits ∧
      power = if negative then -(decimal digits : Int) else decimal digits := by
  have ⟨negative, sign, unsigned, isSign, same, signless⟩ := exists_power_sign text
  rw [same, readPower_of_sign atEnd isSign signless] at reads
  rcases digits : readDigits atEnd unsigned with fault | ⟨digits, left⟩ <;>
    rw [digits] at reads <;> cases reads
  have ⟨taken, areDigits⟩ := readDigits_inv digits
  rw [taken] at same
  exact ⟨negative, sign, _, same, isSign, areDigits, rfl⟩

theorem readOptionalPower_append (atEnd : Fault) {power : Option Int} {text rest : List Char}
    (isPower : IsPower power text) (closes : Closes rest) :
    readOptionalPower atEnd (text ++ rest) = .ok (power, rest) := by
  cases isPower with
  | missing =>
      cases rest with
      | nil => rfl
      | cons character rest =>
          have ⟨_, _, noLower, noUpper⟩ := closes character rfl
          simp [readOptionalPower, noLower, noUpper]
  | given letter negative sign digits isLetter isSign areDigits =>
      have read := readPower_append atEnd isSign areDigits closes.endsDigits
      rcases isLetter with rfl | rfl <;>
        simp [readOptionalPower, read, bind, Except.bind, pure, Except.pure]

theorem readOptionalPower_inv {atEnd : Fault} {power : Option Int} {text rest : List Char}
    (reads : readOptionalPower atEnd text = .ok (power, rest)) :
    ∃ taken, text = taken ++ rest ∧ IsPower power taken := by
  have given (letter : Char) (isLetter : letter = 'e' ∨ letter = 'E') (unsigned : List Char)
      (reads : (readPower atEnd unsigned).map (fun read => (some read.1, read.2)) =
        .ok (power, rest)) :
      ∃ taken, letter :: unsigned = taken ++ rest ∧ IsPower power taken := by
    rcases found : readPower atEnd unsigned with fault | ⟨found, left⟩ <;>
      rw [found] at reads <;> cases reads
    have ⟨negative, sign, digits, same, isSign, areDigits, value⟩ := readPower_inv found
    refine ⟨letter :: (sign ++ digits), ?_, ?_⟩
    · simp [same]
    · rw [value]
      exact .given letter negative sign digits isLetter isSign areDigits
  unfold readOptionalPower at reads
  split at reads
  · next unsigned =>
      apply given 'e' (.inl rfl) unsigned
      rw [← reads]
      rcases readPower atEnd unsigned with fault | read <;> rfl
  · next unsigned =>
      apply given 'E' (.inr rfl) unsigned
      rw [← reads]
      rcases readPower atEnd unsigned with fault | read <;> rfl
  · cases reads
    exact ⟨[], rfl, .missing⟩

theorem IsPower.starts {power : Option Int} {text rest : List Char}
    (isPower : IsPower power text) (closes : Closes rest) :
    EndsDigits (text ++ rest) ∧ (text ++ rest).head? ≠ some '.' := by
  cases isPower with
  | missing =>
      refine ⟨closes.endsDigits, fun point => ?_⟩
      exact (closes '.' point).2.1 rfl
  | given letter negative sign digits isLetter _ _ =>
      rcases isLetter with rfl | rfl <;>
      · constructor
        · intro character same
          cases same
          decide
        · simp

theorem readNumeral_append (atEnd : Fault) {numeral : Numeral} {text rest : List Char}
    (spelled : numeral.IsSpelled text) (closes : Closes rest) :
    readNumeral atEnd (text ++ rest) = .ok (numeral, rest) := by
  cases spelled with
  | parts whole fraction point powerText power isWhole isFraction isPower =>
      have ⟨ends, noPoint⟩ := isPower.starts closes
      have powers := readOptionalPower_append atEnd isPower closes
      rw [List.append_assoc, List.append_assoc]
      cases isFraction with
      | missing =>
          have wholes := readWhole_append atEnd isWhole ends
          unfold readNumeral
          simp only [List.nil_append, wholes, bind, Except.bind]
          split
          · next more same =>
              rw [same] at noPoint
              exact absurd rfl noPoint
          · simp only [powers]
            rfl
      | given digits areDigits =>
          have point : EndsDigits ('.' :: (fraction ++ (powerText ++ rest))) := by
            intro character same
            cases same
            decide
          have wholes := readWhole_append atEnd isWhole point
          have fractions := readDigits_append atEnd areDigits ends
          unfold readNumeral
          simp only [List.cons_append, wholes, bind, Except.bind, fractions, powers]
          rfl

theorem readNumber_append {negative : Bool} {numeral : Numeral} {number : Number}
    {text rest : List Char} (spelled : numeral.IsSpelled text)
    (taken : Number.ofNumeral negative numeral = .ok number) (closes : Closes rest) :
    readNumber negative (text ++ rest) = .ok (number, rest) := by
  simp [readNumber, readNumeral_append .endInValue spelled closes, taken, bind, Except.bind,
    pure, Except.pure]

theorem readNumeral_inv {atEnd : Fault} {numeral : Numeral} {text rest : List Char}
    (reads : readNumeral atEnd text = .ok (numeral, rest)) :
    ∃ taken, text = taken ++ rest ∧ numeral.IsSpelled taken := by
  unfold readNumeral at reads
  rcases wholes : readWhole atEnd text with fault | ⟨whole, afterWhole⟩
  · simp [wholes, bind, Except.bind] at reads
  have ⟨splitWhole, isWhole⟩ := readWhole_inv wholes
  have further (fraction point afterPoint : List Char) (isFraction : IsFraction fraction point)
      (splitPoint : afterWhole = point ++ afterPoint)
      (ends : (readOptionalPower atEnd afterPoint).map
        (fun read => (⟨whole, fraction, read.1⟩, read.2)) = .ok (numeral, rest)) :
      ∃ taken, text = taken ++ rest ∧ numeral.IsSpelled taken := by
    rcases powers : readOptionalPower atEnd afterPoint with fault | ⟨power, left⟩ <;>
      rw [powers] at ends <;> cases ends
    have ⟨powerText, splitPower, isPower⟩ := readOptionalPower_inv powers
    refine ⟨whole ++ (point ++ powerText), ?_, ?_⟩
    · rw [splitWhole, splitPoint, splitPower]
      simp
    · exact .parts whole fraction point powerText _ isWhole isFraction isPower
  simp only [wholes, bind, Except.bind] at reads
  split at reads
  · next unsigned =>
      rcases fractions : readDigits atEnd unsigned with fault | ⟨fraction, afterPoint⟩
      · simp [fractions] at reads
      have ⟨same, areDigits⟩ := readDigits_inv fractions
      apply further fraction ('.' :: fraction) afterPoint (.given fraction areDigits)
      · simp only [fractions] at reads
        rw [← reads]
        rcases readOptionalPower atEnd afterPoint with fault | read <;> rfl
      · rw [same, List.cons_append]
  · apply further [] [] afterWhole .missing rfl
    rw [← reads]
    rcases readOptionalPower atEnd afterWhole with fault | read <;> rfl

end Instrumentation.Json
