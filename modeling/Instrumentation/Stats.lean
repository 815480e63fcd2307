import Instrumentation.Clock

namespace Instrumentation

/-! Timing aggregates. A sample is taken up in four steps, each of which touches
one of the counters, and a snapshot reads the counters one by one; the steps of
several samples and snapshots may alternate. -/

structure MetricStats where
  count : UInt64 := 0
  total : UInt64 := 0
  least : UInt64 := 0xffffffffffffffff
  greatest : UInt64 := 0
  deriving DecidableEq, Repr

namespace MetricStats

def empty : MetricStats := {}

instance : Inhabited MetricStats := ⟨empty⟩

def countOne (stats : MetricStats) : MetricStats :=
  { stats with count := stats.count + 1 }

/-- The total wraps around at the end of the word. -/
def addTotal (sample : UInt64) (stats : MetricStats) : MetricStats :=
  { stats with total := stats.total + sample }

def lowerLeast (sample : UInt64) (stats : MetricStats) : MetricStats :=
  { stats with least := if sample < stats.least then sample else stats.least }

def raiseGreatest (sample : UInt64) (stats : MetricStats) : MetricStats :=
  { stats with greatest := if stats.greatest < sample then sample else stats.greatest }

def recordWord (stats : MetricStats) (sample : UInt64) : MetricStats :=
  stats |>.countOne |> addTotal sample |> lowerLeast sample |> raiseGreatest sample

def record (stats : MetricStats) (nanoseconds : Nat) : MetricStats :=
  stats.recordWord (clampToWord nanoseconds)

def history (stats : MetricStats) : List Nat → List MetricStats
  | [] => [stats]
  | sample :: rest => stats :: (stats.record sample).history rest

end MetricStats

structure Snapshot where
  count : UInt64
  total : UInt64
  least : UInt64
  greatest : UInt64
  deriving DecidableEq, Repr

namespace Snapshot

/-- The least sample shown for counters that were read: the greatest word means
that no sample was taken up yet, and shows as zero. -/
def shownLeast (count least : UInt64) : UInt64 :=
  if count = 0 || least = 0xffffffffffffffff then 0 else least

def mean (snapshot : Snapshot) : UInt64 :=
  if snapshot.count = 0 then 0 else snapshot.total / snapshot.count

end Snapshot

namespace MetricStats

def snapshot (stats : MetricStats) : Snapshot where
  count := stats.count
  total := stats.total
  least := Snapshot.shownLeast stats.count stats.least
  greatest := stats.greatest

end MetricStats

end Instrumentation
