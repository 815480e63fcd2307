import Instrumentation.Json.Fault
import Instrumentation.Number.Scaling

namespace Instrumentation.Json

/-! Numbers of JSON texts, read from after their sign. -/

/-- A number as it is written: the digits before and after its point, and the power
of ten after them. An integer has neither a point nor a power. -/
structure Numeral where
  whole : List Char
  fraction : List Char := []
  power : Option Int := none
  deriving DecidableEq, Repr

def isDigit (character : Char) : Bool :=
  '0' ≤ character && character ≤ '9'

def digitValue (character : Char) : Nat :=
  character.toNat - '0'.toNat

/-- Reads one digit or more. Where digits are missing, the end of the text may be
another fault than a character that is no digit. -/
def readDigits (atEnd : Fault) : Reader (List Char) := fun characters =>
  match characters.takeWhile isDigit, characters with
  | [], [] => .error atEnd
  | [], _ => .error .invalidNumber
  | digits, characters => .ok (digits, characters.dropWhile isDigit)

def readPower (atEnd : Fault) : Reader Int := fun characters => do
  let (negative, unsigned) := match characters with
    | '+' :: rest => (false, rest)
    | '-' :: rest => (true, rest)
    | other => (false, other)
  let (digits, rest) ← readDigits atEnd unsigned
  let power : Nat := digits.foldl (fun number digit => number * 10 + digitValue digit) 0
  return (if negative then -(power : Int) else power, rest)

def readOptionalPower (atEnd : Fault) : Reader (Option Int) := fun characters =>
  match characters with
  | 'e' :: rest | 'E' :: rest => do
      let (power, rest) ← readPower atEnd rest
      return (some power, rest)
  | other => .ok (none, other)

def readWhole (atEnd : Fault) : Reader (List Char) := fun characters => do
  let (digits, rest) ← readDigits atEnd characters
  match digits with
  | '0' :: _ :: _ => .error .invalidNumber
  | digits => return (digits, rest)

def readNumeral (atEnd : Fault) : Reader Numeral := fun characters => do
  let (whole, rest) ← readWhole atEnd characters
  let (fraction, rest) ← match rest with
    | '.' :: rest => readDigits atEnd rest
    | other => .ok ([], other)
  let (power, rest) ← readOptionalPower atEnd rest
  return (⟨whole, fraction, power⟩, rest)

namespace Numeral

def integral (numeral : Numeral) : Bool :=
  numeral.fraction.isEmpty && numeral.power.isNone

def appendDigits (number : Nat) : List Char → Nat × List Char
  | [] => (number, [])
  | digit :: rest =>
      let longer := number * 10 + digitValue digit
      if longer < UInt64.size then appendDigits longer rest else (number, digit :: rest)

/-- The leading digits that fit a word, and the power of ten that they are to be
multiplied by. What is dropped before the point raises the power. -/
def kept (numeral : Numeral) : Nat × Int :=
  let (whole, dropped) := appendDigits 0 numeral.whole
  let (word, omitted) := appendDigits whole numeral.fraction
  let places : Int := numeral.fraction.length - omitted.length
  (word, dropped.length - places + numeral.power.getD 0)

end Numeral

/-- A number as it is taken: integers that fit a word of either sign stay
integers, all others are floating. -/
inductive Number where
  | unsigned (value : Nat)
  | negative (value : Nat)
  | floating (value : Binary64)
  deriving DecidableEq, Repr

namespace Number

def ofNumeral (negative : Bool) (numeral : Numeral) : Except Fault Number :=
  let (word, power) := numeral.kept
  let isWord := numeral.integral && power == 0
  if isWord && !negative then .ok (unsigned word)
  else if isWord && 0 < word && 2 * word ≤ UInt64.size then .ok (.negative word)
  else match (Binary64.ofNat negative word).scaled? power with
    | some number => .ok (floating number)
    | none => .error .numberOutOfRange

def found : Number → Found
  | unsigned value => .integer value
  | negative value => .integer (-(value : Int))
  | floating value => .floating value

def toBinary64 : Number → Binary64
  | unsigned value => .ofNat false value
  | negative value => .ofNat true value
  | floating value => value

end Number

def readNumber (negative : Bool) : Reader Number := fun characters => do
  let (numeral, rest) ← readNumeral .endInValue characters
  return (← Number.ofNumeral negative numeral, rest)

end Instrumentation.Json
