import Instrumentation.Proofs.Metrics.Accounts
import Mathlib.Data.List.Pairwise

namespace Instrumentation

/-! Ledgers that account for what there is: which handles were made, on which aggregates
they are, and what the aggregates have come to. Each posting keeps it so. -/

namespace Ledger

variable {ledger : List Posting}

@[simp] theorem handles_append (posting : Posting) :
    handles (ledger ++ [posting]) = handles ledger ++ posting.handle?.toList := by
  rw [handles, List.filterMap_append, List.filterMap_cons]
  cases posting.handle? <;> rfl

@[simp] theorem samples_append (posting : Posting) (stats : Key MetricStats) :
    samples (ledger ++ [posting]) stats =
      samples ledger stats ++ (posting.sampleOf? stats).toList := by
  rw [samples, List.filterMap_append, List.filterMap_cons]
  cases posting.sampleOf? stats <;> rfl

theorem total_append (posting : Posting) (opening : MetricStats) (stats : Key MetricStats) :
    total (ledger ++ [posting]) opening stats =
      (posting.sampleOf? stats).toList.foldl MetricStats.record (total ledger opening stats) := by
  rw [total, samples_append, List.foldl_append]
  rfl

end Ledger

namespace Handle

variable {first second : Handle}

theorem IsFor.isEngine {handle : Handle} {collector : Key Collector} {name : String}
    (isFor : handle.IsFor collector name) : handle.maker.isEngine = true := by
  have maker := isFor.maker
  cases made : handle.maker with
  | view | foreign => rfl
  | standalone =>
      rw [made] at maker
      cases maker

theorem Together.isEngine (together : first.Together second) :
    first.maker.isEngine = second.maker.isEngine := by
  rcases together with ⟨_, _, mine, yours⟩
  rw [mine.isEngine, yours.isEngine]

theorem Together.symm (together : first.Together second) : second.Together first := by
  rcases together with ⟨collector, name, mine, yours⟩
  exact ⟨collector, name, yours, mine⟩

theorem Together.isFor {collector : Key Collector} {name : String}
    (together : first.Together second) (isFor : second.IsFor collector name) :
    first.IsFor collector name := by
  rcases together with ⟨_, _, mine, yours⟩
  cases Option.some.inj (yours.maker.symm.trans isFor.maker)
  cases yours.name.symm.trans isFor.name
  exact mine

def SharesDuly (first second : Handle) : Prop :=
  first.metric.stats = second.metric.stats ↔ first.Together second

instance : Std.Symm SharesDuly where
  symm first second shares := by
    rw [SharesDuly] at shares ⊢
    rw [eq_comm, shares]
    exact ⟨Together.symm, Together.symm⟩

end Handle

structure Listed (opening : Table MetricStats) (accounts : Accounts) (handles : List Handle) :
    Prop where
  grows : opening.size ≤ accounts.stats.size
  known : ∀ collector name stats, (accounts.metrics collector).find? name = some stats ↔
    ∃ handle ∈ handles, handle.IsFor collector name ∧ handle.metric.stats = stats
  named : ∀ handle ∈ handles, handle.metric.name = handle.name
  owned : ∀ handle ∈ handles, handle.metric.engineOwned = handle.maker.isEngine
  later : ∀ handle ∈ handles, opening.size ≤ handle.metric.stats.index
  within : ∀ handle ∈ handles, handle.metric.stats.index < accounts.stats.size
  apart : handles.Pairwise Handle.SharesDuly

structure Balanced (opening : Table MetricStats) (accounts : Accounts) (ledger : List Posting) :
    Prop where
  listed : Listed opening accounts (Ledger.handles ledger)
  stats : ∀ stats, accounts.stats.get stats = Ledger.total ledger (opening.get stats) stats
  shown : ∀ earlier collector name answer,
    earlier ++ [.looked collector name answer] <+: ledger →
    Ledger.Shows earlier collector name answer

namespace Listed

variable {opening : Table MetricStats} {accounts after : Accounts} {handles : List Handle}

theorem sampled (listed : Listed opening accounts handles) (metric : Metric)
    (nanoseconds : Nat) : Listed opening (accounts.sample metric nanoseconds) handles := by
  have grows : accounts.stats.size ≤ (accounts.sample metric nanoseconds).stats.size :=
    accounts.stats.size_le_put _ _
  exact {
    listed with
    grows := Nat.le_trans listed.grows grows
    within := fun handle made => Nat.lt_of_lt_of_le (listed.within handle made) grows }

/-- The handles on an aggregate that a collector knows by a name are those that its views
made for that name. -/
theorem isFor_of_stats (listed : Listed opening accounts handles) {collector : Key Collector}
    {name : String} {handle : Handle} (made : handle ∈ handles)
    (found : (accounts.metrics collector).find? name = some handle.metric.stats) :
    handle.IsFor collector name := by
  rcases (listed.known collector name _).mp found with ⟨other, otherMade, isFor, same⟩
  by_cases one : handle = other
  · rw [one]
    exact isFor
  · have shares := listed.apart.forall made otherMade one
    exact (shares.mp same.symm).isFor isFor

theorem stats_of_isFor (listed : Listed opening accounts handles) {collector : Key Collector}
    {name : String} {handle : Handle} (made : handle ∈ handles)
    (isFor : handle.IsFor collector name) :
    (accounts.metrics collector).find? name = some handle.metric.stats :=
  (listed.known collector name _).mpr ⟨handle, made, isFor, rfl⟩

section Made

variable (listed : Listed opening accounts handles) {handle : Handle}
  (makes : accounts.Makes handle.maker handle.name handle.metric after)
include listed makes

theorem sharesDuly {other : Handle} (made : other ∈ handles) : other.SharesDuly handle := by
  rcases makes.source with ⟨collector, mine, found⟩ | ⟨fresh, _, missing⟩
  · have isFor : handle.IsFor collector handle.name := ⟨mine, rfl⟩
    constructor
    · intro same
      rw [← same] at found
      exact ⟨collector, handle.name, listed.isFor_of_stats made found, isFor⟩
    · intro together
      have known := listed.stats_of_isFor made (together.isFor isFor)
      exact Option.some.inj (known.symm.trans found)
  · constructor
    · intro same
      have within := listed.within other made
      rw [same, fresh] at within
      exact absurd within (Nat.lt_irrefl _)
    · rintro ⟨collector, name, yours, mine⟩
      have known := listed.stats_of_isFor made yours
      rw [← mine.name, missing collector mine.maker] at known
      cases known

theorem known_made (collector : Key Collector) (name : String) (stats : Key MetricStats) :
    (after.metrics collector).find? name = some stats ↔
      ∃ other ∈ handles ++ [handle], other.IsFor collector name ∧ other.metric.stats = stats := by
  rw [makes.metrics]
  split
  · next asked =>
      have isFor : handle.IsFor collector name := ⟨asked.1, asked.2.symm⟩
      constructor
      · intro same
        exact ⟨handle, by simp, isFor, Option.some.inj same⟩
      · rintro ⟨other, member, otherIsFor, rfl⟩
        rcases List.mem_append.mp member with made | made
        · have together : other.Together handle := ⟨collector, name, otherIsFor, isFor⟩
          rw [(listed.sharesDuly makes made).mpr together]
        · rw [List.mem_singleton.mp made]
  · next unasked =>
      rw [listed.known]
      constructor
      · rintro ⟨other, made, isFor, same⟩
        exact ⟨other, List.mem_append_left _ made, isFor, same⟩
      · rintro ⟨other, member, isFor, same⟩
        rcases List.mem_append.mp member with made | made
        · exact ⟨other, made, isFor, same⟩
        · cases List.mem_singleton.mp made
          exact absurd ⟨isFor.maker, isFor.name.symm⟩ unasked

theorem bounds_made :
    opening.size ≤ handle.metric.stats.index ∧
      handle.metric.stats.index < after.stats.size := by
  rcases makes.source with ⟨collector, _, found⟩ | ⟨fresh, grows, _⟩
  · rcases (listed.known collector _ _).mp found with ⟨other, made, _, same⟩
    rw [← same]
    exact ⟨listed.later other made, Nat.lt_of_lt_of_le (listed.within other made) makes.grows⟩
  · rw [fresh]
    exact ⟨listed.grows, grows⟩

theorem made : Listed opening after (handles ++ [handle]) where
  grows := Nat.le_trans listed.grows makes.grows
  known := listed.known_made makes
  named := List.forall_mem_append.mpr ⟨listed.named, by simpa using makes.named⟩
  owned := List.forall_mem_append.mpr ⟨listed.owned, by simpa using makes.owned⟩
  later := List.forall_mem_append.mpr ⟨listed.later, by
    simpa using (listed.bounds_made makes).1⟩
  within := List.forall_mem_append.mpr ⟨fun other made =>
    Nat.lt_of_lt_of_le (listed.within other made) makes.grows, by
    simpa using (listed.bounds_made makes).2⟩
  apart := by
    refine List.pairwise_append.mpr ⟨listed.apart, List.pairwise_singleton _ _, ?_⟩
    intro other made last isLast
    rw [List.mem_singleton.mp isLast]
    exact listed.sharesDuly makes made

end Made

end Listed

namespace Balanced

variable {opening : Table MetricStats} {accounts after : Accounts} {ledger : List Posting}

theorem shows (balanced : Balanced opening accounts ledger) (collector : Key Collector)
    (name : String) :
    Ledger.Shows ledger collector name
      (((accounts.metrics collector).find? name).map fun stats =>
        (accounts.stats.get stats).snapshot) where
  known := by
    rw [Option.isSome_map, Option.isSome_iff_exists]
    constructor
    · rintro ⟨stats, found⟩
      rcases (balanced.listed.known collector name stats).mp found with ⟨handle, made, isFor, _⟩
      exact ⟨handle, made, isFor⟩
    · rintro ⟨handle, made, isFor⟩
      exact ⟨_, (balanced.listed.known collector name _).mpr ⟨handle, made, isFor, rfl⟩⟩
  summed handle made isFor := by
    rw [(balanced.listed.known collector name _).mpr ⟨handle, made, isFor, rfl⟩, Option.map_some,
      balanced.stats, opening.get_beyond (balanced.listed.later handle made)]
    rfl

/-- Whatever is posted, what was shown before was right at its time. -/
theorem shown_append (balanced : Balanced opening accounts ledger) (posting : Posting)
    {earlier : List Posting} {collector : Key Collector} {name : String}
    {answer : Option Snapshot}
    (begins : earlier ++ [.looked collector name answer] <+: ledger ++ [posting])
    (shows : posting = .looked collector name answer →
      Ledger.Shows ledger collector name answer) :
    Ledger.Shows earlier collector name answer := by
  rcases List.prefix_concat_iff.mp begins with ends | begins
  · rcases List.append_inj' ends rfl with ⟨rfl, same⟩
    exact shows (List.cons.inj same).1.symm
  · exact balanced.shown _ _ _ _ begins

theorem looked (balanced : Balanced opening accounts ledger) {collector : Key Collector}
    {name : String} {answer : Option Snapshot}
    (shows : Ledger.Shows ledger collector name answer) :
    Balanced opening accounts (ledger ++ [.looked collector name answer]) where
  listed := by
    rw [Ledger.handles_append]
    exact (List.append_nil _).symm ▸ balanced.listed
  stats stats := by
    rw [Ledger.total_append]
    exact balanced.stats stats
  shown earlier collector name answer begins := by
    refine balanced.shown_append _ begins fun same => ?_
    cases same
    exact shows

theorem sampled (balanced : Balanced opening accounts ledger) (metric : Metric)
    (nanoseconds : Nat) :
    Balanced opening (accounts.sample metric nanoseconds)
      (ledger ++ [.sampled metric nanoseconds]) where
  listed := by
    rw [Ledger.handles_append]
    exact (List.append_nil _).symm ▸ balanced.listed.sampled metric nanoseconds
  stats stats := by
    rw [Ledger.total_append, Accounts.sample, Table.modify, Table.get_put, Posting.sampleOf?]
    by_cases same : metric.stats = stats
    · rw [if_pos same.symm, if_pos same, same, balanced.stats]
      rfl
    · rw [if_neg (Ne.symm same), if_neg same, balanced.stats]
      rfl
  shown earlier collector name answer begins :=
    balanced.shown_append _ begins fun same => nomatch same

theorem made (balanced : Balanced opening accounts ledger) {handle : Handle}
    (makes : accounts.Makes handle.maker handle.name handle.metric after) :
    Balanced opening after (ledger ++ [.made handle]) where
  listed := by
    rw [Ledger.handles_append]
    exact balanced.listed.made makes
  stats stats := by
    rw [Ledger.total_append, makes.stats]
    exact balanced.stats stats
  shown earlier collector name answer begins :=
    balanced.shown_append _ begins fun same => nomatch same

end Balanced

end Instrumentation
