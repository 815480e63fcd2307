import Instrumentation.Json.Skip

namespace Instrumentation.Json

/-! The grammar of JSON texts: which characters spell a string, a number or a value of any
kind. It does not say how they are read. -/

/-! ## Strings -/

/-- Characters between quotes that spell others. Those beyond the first plane are escaped in
pairs. -/
inductive Spells : List Char → List Char → Prop
  | nothing : Spells [] []
  | plain (character : Char) (text characters : List Char)
      (visible : 0x20 ≤ character.toNat) (noQuote : character ≠ '"')
      (noBackslash : character ≠ '\\') (more : Spells text characters) :
      Spells (character :: text) (character :: characters)
  | short (letter character : Char) (text characters : List Char)
      (named : shortEscape? letter = some character) (more : Spells text characters) :
      Spells ('\\' :: letter :: text) (character :: characters)
  | unit (first second third fourth : Char) (code : Nat) (text characters : List Char)
      (spelled : hexUnit? first second third fourth = some code)
      (notLeading : isLeading code = false) (notTrailing : isTrailing code = false)
      (more : Spells text characters) :
      Spells ('\\' :: 'u' :: first :: second :: third :: fourth :: text)
        (Char.ofNat code :: characters)
  | pair (first second third fourth fifth sixth seventh eighth : Char) (high low : Nat)
      (text characters : List Char)
      (leads : hexUnit? first second third fourth = some high)
      (trails : hexUnit? fifth sixth seventh eighth = some low)
      (leading : isLeading high = true) (trailing : isTrailing low = true)
      (more : Spells text characters) :
      Spells ('\\' :: 'u' :: first :: second :: third :: fourth ::
          '\\' :: 'u' :: fifth :: sixth :: seventh :: eighth :: text)
        (joinPair high low :: characters)

/-- Characters that may stand between quotes. They need not spell anything, for half of a
pair may be missing. -/
inductive IsQuotable : List Char → Prop
  | nothing : IsQuotable []
  | plain (character : Char) (text : List Char)
      (visible : 0x20 ≤ character.toNat) (noQuote : character ≠ '"')
      (noBackslash : character ≠ '\\') (more : IsQuotable text) :
      IsQuotable (character :: text)
  | short (letter character : Char) (text : List Char)
      (named : shortEscape? letter = some character) (more : IsQuotable text) :
      IsQuotable ('\\' :: letter :: text)
  | unit (first second third fourth : Char) (code : Nat) (text : List Char)
      (spelled : hexUnit? first second third fourth = some code) (more : IsQuotable text) :
      IsQuotable ('\\' :: 'u' :: first :: second :: third :: fourth :: text)

def quote (text : List Char) : List Char :=
  '"' :: (text ++ ['"'])

/-! ## Numbers -/

def IsDigits (digits : List Char) : Prop :=
  digits ≠ [] ∧ ∀ digit ∈ digits, isDigit digit = true

def IsWhole (digits : List Char) : Prop :=
  IsDigits digits ∧ ∀ second rest, digits ≠ '0' :: second :: rest

inductive IsFraction : List Char → List Char → Prop
  | missing : IsFraction [] []
  | given (digits : List Char) (areDigits : IsDigits digits) : IsFraction digits ('.' :: digits)

inductive IsPowerSign : Bool → List Char → Prop
  | missing : IsPowerSign false []
  | plus : IsPowerSign false ['+']
  | minus : IsPowerSign true ['-']

def decimal (digits : List Char) : Nat :=
  digits.foldl (fun number digit => number * 10 + digitValue digit) 0

inductive IsPower : Option Int → List Char → Prop
  | missing : IsPower none []
  | given (letter : Char) (negative : Bool) (sign digits : List Char)
      (isLetter : letter = 'e' ∨ letter = 'E') (isSign : IsPowerSign negative sign)
      (areDigits : IsDigits digits) :
      IsPower (some (if negative then -(decimal digits : Int) else decimal digits))
        (letter :: (sign ++ digits))

inductive Numeral.IsSpelled : Numeral → List Char → Prop
  | parts (whole fraction point powerText : List Char) (power : Option Int)
      (isWhole : IsWhole whole) (isFraction : IsFraction fraction point)
      (isPower : IsPower power powerText) :
      IsSpelled ⟨whole, fraction, power⟩ (whole ++ (point ++ powerText))

def signed (negative : Bool) (unsigned : List Char) : List Char :=
  if negative then '-' :: unsigned else unsigned

/-! ## Values -/

def IsBlank (text : List Char) : Prop :=
  ∀ character ∈ text, isBlank character = true

inductive IsSeparator : Bool → List Char → Prop
  | first (blank : List Char) (isBlank : IsBlank blank) : IsSeparator true blank
  | next (before after : List Char) (isBlank : IsBlank before) (isBlankToo : IsBlank after) :
      IsSeparator false (before ++ ',' :: after)

def Bracket.opening : Bracket → Char
  | list => '['
  | object => '{'

inductive Part where
  | value
  | entry (bracket : Bracket)
  | entries (bracket : Bracket) (first : Bool)

inductive IsPart : Part → List Char → Prop
  | null : IsPart .value ['n', 'u', 'l', 'l']
  | yes : IsPart .value ['t', 'r', 'u', 'e']
  | no : IsPart .value ['f', 'a', 'l', 's', 'e']
  | number (negative : Bool) (numeral : Numeral) (unsigned : List Char)
      (spelled : numeral.IsSpelled unsigned) : IsPart .value (signed negative unsigned)
  | text (text : List Char) (quotable : IsQuotable text) : IsPart .value (quote text)
  | bracketed (bracket : Bracket) (inner : List Char)
      (entries : IsPart (.entries bracket true) inner) :
      IsPart .value (bracket.opening :: (inner ++ [bracket.closing]))
  | element (value : List Char) (isValue : IsPart .value value) : IsPart (.entry .list) value
  | member (key gap pause value : List Char) (quotable : IsQuotable key)
      (blankGap : IsBlank gap) (blankPause : IsBlank pause) (isValue : IsPart .value value) :
      IsPart (.entry .object) (quote key ++ (gap ++ ':' :: (pause ++ value)))
  | nothing (bracket : Bracket) (first : Bool) (blank : List Char) (isBlank : IsBlank blank) :
      IsPart (.entries bracket first) blank
  | more (bracket : Bracket) (first : Bool) (separator entry rest : List Char)
      (separates : IsSeparator first separator) (isEntry : IsPart (.entry bracket) entry)
      (isRest : IsPart (.entries bracket false) rest) :
      IsPart (.entries bracket first) (separator ++ (entry ++ rest))

/-! ## Objects -/

inductive IsMember (key : String) (value : List Char) : List Char → Prop
  | spelled (text gap pause : List Char) (spells : Spells text key.toList)
      (blankGap : IsBlank gap) (blankPause : IsBlank pause) :
      IsMember key value (quote text ++ (gap ++ ':' :: (pause ++ value)))

section Object

variable {Member : Type} (isMember : Member → List Char → Prop)

inductive AreMembers : Bool → List Member → List Char → Prop
  | nothing (first : Bool) (blank : List Char) (isBlank : IsBlank blank) :
      AreMembers first [] blank
  | more (first : Bool) (member : Member) (members : List Member)
      (separator text rest : List Char) (separates : IsSeparator first separator)
      (isText : isMember member text) (areMembers : AreMembers false members rest) :
      AreMembers first (member :: members) (separator ++ (text ++ rest))

inductive IsObject (members : List Member) : List Char → Prop
  | braces (inner : List Char) (areMembers : AreMembers isMember true members inner) :
      IsObject members ('{' :: (inner ++ ['}']))

end Object

end Instrumentation.Json
