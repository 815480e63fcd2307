namespace Instrumentation

/-! Clocks count nanoseconds in one word. A duration is a number of nanoseconds
without a limit; it enters a word as the greatest word if it is longer. -/

def longestDuration : Nat := 0xffffffffffffffff

def clampToWord (nanoseconds : Nat) : UInt64 :=
  UInt64.ofNat (min nanoseconds longestDuration)

structure Clock where
  reading : UInt64 := 0
  deriving DecidableEq, Repr, Inhabited

namespace Clock

/-- The reading wraps around at the end of the word. -/
def advance (clock : Clock) (nanoseconds : Nat) : Clock :=
  ⟨clock.reading + clampToWord nanoseconds⟩

def between (start finish : UInt64) : Nat :=
  finish.toNat - start.toNat

def elapsedSince (clock : Clock) (start : UInt64) : Nat :=
  between start clock.reading

end Clock

end Instrumentation
