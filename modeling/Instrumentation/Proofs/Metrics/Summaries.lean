import Instrumentation.Stats
import Mathlib.Algebra.Order.BigOperators.Group.List
import Mathlib.Algebra.Order.Ring.Nat
import Mathlib.Order.Bounds.Basic

namespace Instrumentation

/-! What a snapshot tells of the samples that an aggregate has taken up. The counters are
words that change from sample to sample; here is what they come to for all of the samples:
how many there are, what they sum up to, the least and the greatest of them. -/

theorem toNat_clampToWord (nanoseconds : Nat) :
    (clampToWord nanoseconds).toNat = min nanoseconds longestDuration := by
  have fits : min nanoseconds longestDuration < 2 ^ 64 :=
    Nat.lt_of_le_of_lt (Nat.min_le_right _ _) (by decide)
  rw [clampToWord, UInt64.toNat_ofNat', Nat.mod_eq_of_lt fits]

def takenUp (samples : List Nat) : List Nat :=
  samples.map (min · longestDuration)

namespace MetricStats

def recordAll (stats : MetricStats) (samples : List Nat) : MetricStats :=
  samples.foldl record stats

/-! ## One sample -/

section Record

variable (stats : MetricStats) (sample : Nat)

theorem count_record :
    (stats.record sample).count.toNat = (stats.count.toNat + 1) % 2 ^ 64 :=
  UInt64.toNat_add stats.count 1

theorem total_record :
    (stats.record sample).total.toNat =
      (stats.total.toNat + min sample longestDuration) % 2 ^ 64 := by
  rw [← toNat_clampToWord]
  exact UInt64.toNat_add stats.total (clampToWord sample)

theorem least_record :
    (stats.record sample).least.toNat =
      min stats.least.toNat (min sample longestDuration) := by
  rw [← toNat_clampToWord]
  change (if clampToWord sample < stats.least then clampToWord sample
    else stats.least).toNat = _
  split
  · next lower => exact (Nat.min_eq_right (Nat.le_of_lt (UInt64.lt_iff_toNat_lt.1 lower))).symm
  · next notLower =>
      exact (Nat.min_eq_left (Nat.le_of_not_lt fun lower =>
        notLower (UInt64.lt_iff_toNat_lt.2 lower))).symm

theorem greatest_record :
    (stats.record sample).greatest.toNat =
      max stats.greatest.toNat (min sample longestDuration) := by
  rw [← toNat_clampToWord]
  change (if stats.greatest < clampToWord sample then clampToWord sample
    else stats.greatest).toNat = _
  split
  · next greater => exact (Nat.max_eq_right (Nat.le_of_lt (UInt64.lt_iff_toNat_lt.1 greater))).symm
  · next notGreater =>
      exact (Nat.max_eq_left (Nat.le_of_not_lt fun greater =>
        notGreater (UInt64.lt_iff_toNat_lt.2 greater))).symm

theorem eq_of_toNat {first second : MetricStats}
    (count : first.count.toNat = second.count.toNat)
    (total : first.total.toNat = second.total.toNat)
    (least : first.least.toNat = second.least.toNat)
    (greatest : first.greatest.toNat = second.greatest.toNat) : first = second := by
  cases first
  cases second
  cases UInt64.toNat_inj.1 count
  cases UInt64.toNat_inj.1 total
  cases UInt64.toNat_inj.1 least
  cases UInt64.toNat_inj.1 greatest
  rfl

/-- Two samples may be taken up in either order, even where the total wraps around. -/
theorem record_comm (other : Nat) :
    (stats.record sample).record other = (stats.record other).record sample := by
  apply eq_of_toNat
  · simp only [count_record]
  · simp only [total_record, Nat.mod_add_mod]
    rw [Nat.add_right_comm]
  · simp only [least_record]
    rw [Nat.min_right_comm]
  · simp only [greatest_record]
    rw [Nat.max_right_comm]

end Record

/-! ## All samples -/

theorem recordAll_append (stats : MetricStats) (earlier later : List Nat) :
    stats.recordAll (earlier ++ later) = (stats.recordAll earlier).recordAll later :=
  List.foldl_append

theorem recordAll_perm (stats : MetricStats) {samples other : List Nat}
    (perm : samples.Perm other) : stats.recordAll samples = stats.recordAll other :=
  perm.foldl_eq' (fun first _ second _ before => record_comm before first second) stats

/-- What the counters of an aggregate have come to that has taken up these words. The least
and the greatest word stand for samples that there were none of. -/
structure SumsUp (stats : MetricStats) (words : List Nat) : Prop where
  count : stats.count.toNat = words.length % 2 ^ 64
  total : stats.total.toNat = words.sum % 2 ^ 64
  atMost : ∀ word ∈ words, stats.least.toNat ≤ word
  least : stats.least.toNat ∈ words ∨ stats.least.toNat = longestDuration
  atLeast : ∀ word ∈ words, word ≤ stats.greatest.toNat
  greatest : stats.greatest.toNat ∈ words ∨ words = [] ∧ stats.greatest = 0

namespace SumsUp

theorem empty : MetricStats.empty.SumsUp [] where
  count := rfl
  total := rfl
  atMost := nofun
  least := .inr rfl
  atLeast := nofun
  greatest := .inr ⟨rfl, rfl⟩

theorem record {stats : MetricStats} {words : List Nat} (sums : stats.SumsUp words)
    (sample : Nat) : (stats.record sample).SumsUp (words ++ [min sample longestDuration]) where
  count := by
    rw [count_record, sums.count, Nat.mod_add_mod, List.length_append, List.length_singleton]
  total := by
    rw [total_record, sums.total, Nat.mod_add_mod, List.sum_append, List.sum_singleton]
  atMost word member := by
    rw [least_record]
    rcases List.mem_append.1 member with earlier | last
    · exact (Nat.min_le_left _ _).trans (sums.atMost word earlier)
    · rw [List.mem_singleton.1 last]
      exact Nat.min_le_right _ _
  least := by
    rw [least_record, List.mem_append, List.mem_singleton]
    rcases Nat.le_total stats.least.toNat (min sample longestDuration) with keeps | lowers
    · rw [Nat.min_eq_left keeps]
      exact sums.least.imp_left .inl
    · rw [Nat.min_eq_right lowers]
      exact .inl (.inr rfl)
  atLeast word member := by
    rw [greatest_record]
    rcases List.mem_append.1 member with earlier | last
    · exact (sums.atLeast word earlier).trans (Nat.le_max_left _ _)
    · rw [List.mem_singleton.1 last]
      exact Nat.le_max_right _ _
  greatest := by
    rw [greatest_record, List.mem_append, List.mem_singleton]
    rcases Nat.le_total stats.greatest.toNat (min sample longestDuration) with raises | keeps
    · rw [Nat.max_eq_right raises]
      exact .inl (.inr rfl)
    · rw [Nat.max_eq_left keeps]
      rcases sums.greatest with member | ⟨none, zero⟩
      · exact .inl (.inl member)
      · refine .inl (.inr ?_)
        rw [zero] at keeps ⊢
        exact (Nat.le_zero.1 keeps).symm

theorem recordAll {stats : MetricStats} {words : List Nat} (sums : stats.SumsUp words)
    (samples : List Nat) : (stats.recordAll samples).SumsUp (words ++ takenUp samples) := by
  induction samples generalizing stats words with
  | nil =>
      rw [takenUp, List.map_nil, List.append_nil]
      exact sums
  | cons sample rest induction =>
      have later := induction (sums.record sample)
      rwa [List.append_assoc] at later

end SumsUp

end MetricStats

/-! ## Snapshots -/

def quotient? (dividend divisor : UInt64) : Option UInt64 :=
  if divisor = 0 then none else some (dividend / divisor)

namespace Snapshot

/-- The snapshot tells how many words these are, what they sum up to in a word, and the least
and the greatest of them. Of no words, and of those that are all the greatest there is, it
shows zero as the least. -/
structure Tells (snapshot : Snapshot) (words : List Nat) : Prop where
  count : snapshot.count.toNat = words.length
  total : snapshot.total.toNat = words.sum % 2 ^ 64
  greatest : words ≠ [] → IsGreatest {word | word ∈ words} snapshot.greatest.toNat
  greatestOfNone : words = [] → snapshot.greatest = 0
  least : (∃ word ∈ words, word ≠ longestDuration) →
    IsLeast {word | word ∈ words} snapshot.least.toNat
  leastOfLongest : (∀ word ∈ words, word = longestDuration) → snapshot.least = 0

end Snapshot

theorem le_longest_of_takenUp {samples : List Nat} {word : Nat} (member : word ∈ takenUp samples) :
    word ≤ longestDuration := by
  rcases List.mem_map.1 member with ⟨sample, _, rfl⟩
  exact Nat.min_le_right _ _

namespace MetricStats

variable {stats : MetricStats} {words : List Nat}

theorem shownLeast_of_longest {count least : UInt64} (longest : least.toNat = longestDuration) :
    Snapshot.shownLeast count least = 0 := by
  have sentinel : least = 0xffffffffffffffff := UInt64.toNat_inj.1 longest
  rw [Snapshot.shownLeast, sentinel]
  simp

theorem shownLeast_of_seen {count least : UInt64} (seen : count ≠ 0)
    (short : least.toNat ≠ longestDuration) : Snapshot.shownLeast count least = least := by
  have different : least ≠ 0xffffffffffffffff := by
    rintro rfl
    exact short rfl
  simp [Snapshot.shownLeast, seen, different]

theorem SumsUp.tells (sums : stats.SumsUp words) (few : words.length < 2 ^ 64)
    (fit : ∀ word ∈ words, word ≤ longestDuration) : stats.snapshot.Tells words where
  count := by rw [snapshot, sums.count, Nat.mod_eq_of_lt few]
  total := sums.total
  greatest some := ⟨sums.greatest.resolve_right fun none => some none.1, sums.atLeast⟩
  greatestOfNone none := by
    rcases sums.greatest with member | ⟨_, zero⟩
    · rw [none] at member
      cases member
    · exact zero
  least := by
    rintro ⟨word, member, shorter⟩
    have short : stats.least.toNat ≠ longestDuration := by
      intro longest
      have atMost := sums.atMost word member
      rw [longest] at atMost
      exact shorter (Nat.le_antisymm (fit word member) atMost)
    have seen : stats.count ≠ 0 := by
      intro none
      have counted := sums.count
      rw [none, Nat.mod_eq_of_lt few] at counted
      rw [List.length_eq_zero_iff.1 counted.symm] at member
      cases member
    rw [snapshot, shownLeast_of_seen seen short]
    exact ⟨sums.least.resolve_right short, sums.atMost⟩
  leastOfLongest longest :=
    shownLeast_of_longest (sums.least.elim (fun member => longest _ member) id)

end MetricStats

namespace Snapshot

theorem mean_of_count {snapshot : Snapshot} (some : snapshot.count ≠ 0) :
    snapshot.mean.toNat = snapshot.total.toNat / snapshot.count.toNat := by
  rw [mean, if_neg some, UInt64.toNat_div]

theorem mean_cases (shown : Snapshot) :
    (shown.count = 0 ∧ shown.mean = 0) ∨ quotient? shown.total shown.count = some shown.mean := by
  by_cases none : shown.count = 0
  · exact .inl ⟨none, if_pos none⟩
  · rw [quotient?, if_neg none, mean, if_neg none]
    exact .inr rfl

theorem Tells.mean_between {snapshot : Snapshot} {words : List Nat} (tells : snapshot.Tells words)
    (some : words ≠ []) (fits : words.sum < 2 ^ 64) :
    snapshot.least ≤ snapshot.mean ∧ snapshot.mean ≤ snapshot.greatest := by
  have positive : 0 < words.length := List.length_pos_iff.2 some
  have seen : snapshot.count ≠ 0 := by
    intro none
    have counted := tells.count
    rw [none] at counted
    exact absurd counted.symm (Nat.ne_of_gt positive)
  have mean : snapshot.mean.toNat = words.sum / words.length := by
    rw [mean_of_count seen, tells.total, tells.count, Nat.mod_eq_of_lt fits]
  have greatest : words.sum ≤ words.length * snapshot.greatest.toNat := by
    simpa using List.sum_le_card_nsmul words _ (tells.greatest some).2
  rw [UInt64.le_iff_toNat_le, UInt64.le_iff_toNat_le, mean]
  refine ⟨?_, Nat.div_le_of_le_mul greatest⟩
  by_cases longest : ∀ word ∈ words, word = longestDuration
  · rw [tells.leastOfLongest longest]
    exact Nat.zero_le _
  · have shorter : ∃ word ∈ words, word ≠ longestDuration := by simpa using longest
    have least : words.length * snapshot.least.toNat ≤ words.sum := by
      simpa using List.card_nsmul_le_sum words _ (tells.least shorter).2
    rw [Nat.le_div_iff_mul_le positive, Nat.mul_comm]
    exact least

end Snapshot

/-! ## The statement -/

/-- A snapshot tells of all samples that were taken up, in whichever order and in however many
goes. A mean is a quotient wherever there is one, and lies between the least and the greatest
sample as long as the total has not wrapped around. -/
theorem snapshots_summarize_samples (samples : List Nat) (few : samples.length < 2 ^ 64) :
    let snapshot := (MetricStats.empty.recordAll samples).snapshot
    snapshot.Tells (takenUp samples) ∧
    (∀ other, samples.Perm other → (MetricStats.empty.recordAll other).snapshot = snapshot) ∧
    (∀ earlier later, samples = earlier ++ later →
      (MetricStats.empty.recordAll earlier).recordAll later =
        MetricStats.empty.recordAll samples) ∧
    (∀ shown : Snapshot, (shown.count = 0 ∧ shown.mean = 0) ∨
      quotient? shown.total shown.count = some shown.mean) ∧
    (samples ≠ [] → (takenUp samples).sum < 2 ^ 64 →
      snapshot.least ≤ snapshot.mean ∧ snapshot.mean ≤ snapshot.greatest) := by
  intro snapshot
  have sums : (MetricStats.empty.recordAll samples).SumsUp (takenUp samples) :=
    MetricStats.SumsUp.empty.recordAll samples
  have count : (takenUp samples).length = samples.length := List.length_map _
  have tells : snapshot.Tells (takenUp samples) :=
    sums.tells (count ▸ few) fun word => le_longest_of_takenUp
  refine ⟨tells, ?_, ?_, Snapshot.mean_cases, ?_⟩
  · intro other perm
    rw [← MetricStats.empty.recordAll_perm perm]
  · rintro earlier later rfl
    exact (MetricStats.empty.recordAll_append earlier later).symm
  · intro some fits
    exact tells.mean_between (fun none => some (List.map_eq_nil_iff.1 none)) fits

/-- A sample that does not fit in a word and one that just does: the total wraps around, and
the least one is there among the greatest. -/
theorem wrapped_samples_are_summarized :
    [2 ^ 70, 5, longestDuration].length < 2 ^ 64 ∧
    (MetricStats.empty.recordAll [2 ^ 70, 5, longestDuration]).snapshot =
      ⟨3, 3, 5, 0xffffffffffffffff⟩ ∧
    (MetricStats.empty.recordAll [2 ^ 70, 5, longestDuration]).snapshot.Tells
      [longestDuration, 5, longestDuration] :=
  have summarized := snapshots_summarize_samples [2 ^ 70, 5, longestDuration] (by decide)
  ⟨by decide, by decide, summarized.1⟩

end Instrumentation
