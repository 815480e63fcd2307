import Instrumentation.Number.Rounding

namespace Instrumentation

/-! The fewest decimal digits that read back as a given number, and their layout
as text. -/

structure Decimal where
  digits : Nat
  exponent : Int
  deriving DecidableEq, Repr

namespace Decimal

def strip : Nat → Decimal → Decimal
  | 0, decimal => decimal
  | budget + 1, decimal =>
      if decimal.digits % 10 = 0 && decimal.digits != 0 then
        strip budget ⟨decimal.digits / 10, decimal.exponent + 1⟩
      else decimal

def numerals (decimal : Decimal) : List Char :=
  Nat.toDigits 10 decimal.digits

def leadingExponent (decimal : Decimal) : Int :=
  decimal.numerals.length - 1 + decimal.exponent

end Decimal

namespace Binary64

def overPower (number : Binary64) (exponent : Int) : Nat × Nat :=
  let numerator := number.units
  if 0 ≤ exponent then (numerator, unitsInOne * Nat.pow 10 exponent.toNat)
  else (numerator * Nat.pow 10 (-exponent).toNat, unitsInOne)

def decimalPoint (number : Binary64) : Int :=
  let below (exponent : Int) : Bool :=
    let fraction := number.overPower exponent
    fraction.1 < fraction.2
  match (List.range 640).find? fun offset : Nat => below (offset - 330) with
  | some offset => offset - 330
  | none => 310

/-- The point of the grid of multiples of `10 ^ exponent` that reads back as the
number, if there is one: of two the nearer, and of two equally near as `tie` says. -/
def onGrid? (tie : Tie) (number : Binary64) (exponent : Int) : Option Decimal :=
  let fraction := number.overPower exponent
  let lower := fraction.1 / fraction.2
  let hits (digits : Nat) : Bool := nearestDecimal digits exponent == number.magnitude
  match hits lower, hits (lower + 1) with
  | false, false => none
  | true, false => some ⟨lower, exponent⟩
  | false, true => some ⟨lower + 1, exponent⟩
  | true, true => some ⟨roundToNearest tie fraction.1 fraction.2, exponent⟩

/-- The decimal number of fewest digits that reads back as a finite number. -/
def shortest (tie : Tie) (number : Binary64) : Decimal :=
  if number.isZero then ⟨0, 0⟩
  else
    let point := number.decimalPoint
    match (List.range 17).findSome? fun count : Nat => onGrid? tie number (point - count - 1) with
    | some decimal => decimal.strip 20
    | none => ⟨number.significand, 0⟩

end Binary64

structure DecimalLayout where
  /-- The exponents of the leading digit from which to which no exponent is written. -/
  leastPositional : Int
  greatestPositional : Int
  /-- Whether an exponent that is not negative has a sign. -/
  plusSign : Bool
  tie : Tie

namespace DecimalLayout

def positional (decimal : Decimal) : List Char :=
  let numerals := decimal.numerals
  let zeros (count : Int) : List Char := List.replicate count.toNat '0'
  if 0 ≤ decimal.exponent then
    numerals ++ zeros decimal.exponent ++ ['.', '0']
  else if 0 ≤ decimal.leadingExponent then
    let whole := decimal.leadingExponent.toNat + 1
    numerals.take whole ++ '.' :: numerals.drop whole
  else
    '0' :: '.' :: zeros (-decimal.leadingExponent - 1) ++ numerals

def scientific (layout : DecimalLayout) (decimal : Decimal) : List Char :=
  let power := decimal.leadingExponent
  let sign : List Char := if power < 0 then ['-'] else if layout.plusSign then ['+'] else []
  let mantissa := match decimal.numerals with
    | leading :: next :: rest => leading :: '.' :: next :: rest
    | short => short
  mantissa ++ 'e' :: sign ++ Nat.toDigits 10 power.natAbs

def render (layout : DecimalLayout) (number : Binary64) : String :=
  if number.isNaN then "NaN"
  else
    let sign := if number.negative then "-" else ""
    if !number.isFinite then sign ++ "inf"
    else
      let decimal := number.shortest layout.tie
      let power := decimal.leadingExponent
      let body :=
        if layout.leastPositional ≤ power && power ≤ layout.greatestPositional then
          positional decimal
        else layout.scientific decimal
      sign ++ String.ofList body

end DecimalLayout

end Instrumentation
