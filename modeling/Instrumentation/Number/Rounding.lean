import Instrumentation.Number.Binary64

namespace Instrumentation

/-! The floating-point number nearest to a decimal one, in exact arithmetic. -/

inductive Tie where
  | toEven
  | upward
  deriving DecidableEq, Repr

def Tie.resolve (tie : Tie) (below : Nat) : Nat :=
  match tie with
  | toEven => below + below % 2
  | upward => below + 1

def roundToNearest (tie : Tie) (numerator denominator : Nat) : Nat :=
  let quotient := numerator / denominator
  let rest := numerator % denominator
  if 2 * rest < denominator then quotient
  else if 2 * rest = denominator then tie.resolve quotient
  else quotient + 1

namespace Binary64

/-- The magnitude nearest to a fraction. A significand that rounds up to the
next power of two carries into the scale, as magnitudes are consecutive. -/
def nearestMagnitude (numerator denominator : Nat) : Nat :=
  let units := numerator * unitsInOne
  let scale := (units / denominator).log2 - 52
  scale * binade + roundToNearest .toEven units (denominator * Nat.pow 2 scale)

/-- The magnitude nearest to `digits * 10 ^ exponent`. Numbers far beyond the
greatest and the least magnitude are settled without their powers of ten. -/
def nearestDecimal (digits : Nat) (exponent : Int) : Nat :=
  if digits = 0 then 0
  else if 400 < exponent then infiniteMagnitude
  else if exponent + digits.log2 < -400 then 0
  else if 0 ≤ exponent then nearestMagnitude (digits * Nat.pow 10 exponent.toNat) 1
  else nearestMagnitude digits (Nat.pow 10 (-exponent).toNat)

end Binary64

end Instrumentation
