namespace Instrumentation

/-! Floating-point numbers of 64 bits, known by their bit pattern. A pattern is
a sign and a magnitude; magnitudes below infinity stand for the numbers
`significand * 2 ^ scale` in units of `2 ^ (-1074)`, in increasing order. -/

structure Binary64 where
  bits : UInt64
  deriving DecidableEq, Repr

namespace Binary64

instance : Inhabited Binary64 := ⟨⟨0⟩⟩

def signWeight : Nat := 0x8000000000000000

def binade : Nat := 0x10000000000000

def infiniteMagnitude : Nat := 2047 * binade

def ofMagnitude (negative : Bool) (magnitude : Nat) : Binary64 :=
  ⟨UInt64.ofNat (if negative then signWeight + magnitude else magnitude)⟩

def negative (number : Binary64) : Bool :=
  signWeight ≤ number.bits.toNat

def magnitude (number : Binary64) : Nat :=
  number.bits.toNat % signWeight

def isNaN (number : Binary64) : Bool :=
  infiniteMagnitude < number.magnitude

def isFinite (number : Binary64) : Bool :=
  number.magnitude < infiniteMagnitude

def isZero (number : Binary64) : Bool :=
  number.magnitude == 0

def significand (number : Binary64) : Nat :=
  if number.magnitude < binade then number.magnitude
  else binade + number.magnitude % binade

def scale (number : Binary64) : Nat :=
  number.magnitude / binade - 1

def unitsInOne : Nat := Nat.pow 2 1074

def units (number : Binary64) : Nat :=
  number.significand * Nat.pow 2 number.scale

/-- Equality of the numbers meant: the two zeros are equal, and what is not a
number equals nothing. -/
def sameNumber (left right : Binary64) : Bool :=
  !left.isNaN && !right.isNaN && (left.bits == right.bits || (left.isZero && right.isZero))

end Binary64

end Instrumentation
