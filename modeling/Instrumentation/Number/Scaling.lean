import Instrumentation.Number.Rounding

namespace Instrumentation.Binary64

/-! Arithmetic of floating-point numbers, each result rounded to the nearest, and
scaling by powers of ten in such steps. Scaling is quick and not exact: where the
power or the number scaled is itself rounded, the last bit may differ from that of
the nearest number. -/

def nearest (negative : Bool) (numerator denominator : Nat) : Binary64 :=
  ofMagnitude negative (min infiniteMagnitude (nearestMagnitude numerator denominator))

def ofNat (negative : Bool) (value : Nat) : Binary64 :=
  nearest negative value 1

def times (left right : Binary64) : Binary64 :=
  nearest (left.negative != right.negative) (left.units * right.units)
    (unitsInOne * unitsInOne)

def dividedBy (left right : Binary64) : Binary64 :=
  nearest (left.negative != right.negative) left.units right.units

def greatestPower : Nat := 308

def powerOfTen (exponent : Nat) : Binary64 :=
  ofNat false (Nat.pow 10 exponent)

/-- The number times `10 ^ exponent`, unless that is out of range. Exponents below
the least are reached in several steps, at the latest when zero is left. -/
def scaled? (number : Binary64) (exponent : Int) : Option Binary64 :=
  if number.isZero then some number
  else if greatestPower < exponent then none
  else if 0 ≤ exponent then
    let product := number.times (powerOfTen exponent.toNat)
    if product.isFinite then some product else none
  else if -greatestPower ≤ exponent then some (number.dividedBy (powerOfTen (-exponent).toNat))
  else scaled? (number.dividedBy (powerOfTen greatestPower)) (exponent + greatestPower)
termination_by (-exponent).toNat
decreasing_by simp only [greatestPower] at *; omega

/-- A tenth of 90071992547409910 is a number, but the number scaled is rounded first. -/
example : (ofNat false 90071992547409910).scaled? (-1) =
    some (ofNat false 9007199254740990) := by decide +kernel

end Instrumentation.Binary64
