import Instrumentation.Proofs.Metrics.Counters
import Instrumentation.Table

namespace Instrumentation.Counters

/-! Samples on their way to any number of aggregates. They come up at any time and are taken
up step by step, among one another. For each aggregate this is as if there were no other, and
so its counters come to the samples that are past the steps that touch them. -/

/-! ## Samples that come up at any time -/

namespace Scene

variable {scene next : Scene}

inductive Goes (scene : Scene) : Scene → Prop
  | turned (next : Scene) (turned : scene.Turned next) : Goes scene next
  | begins (before behind : List Intake) (sample : Nat)
      (there : scene.intakes = before ++ behind) :
      Goes scene { scene with intakes := before ++ { sample } :: behind }

theorem past_begun {before behind : List Intake} (there : scene.intakes = before ++ behind)
    (sample : Nat) {steps : Nat} (some : 0 < steps) :
    Scene.past { scene with intakes := before ++ { sample } :: behind } steps =
      scene.past steps := by
  simp only [past, there, List.flatMap_append, List.flatMap_cons, Intake.past,
    if_neg (Nat.not_le.2 some), List.nil_append]

theorem Goes.tallied (goes : scene.Goes next) (tallied : scene.Tallied) : next.Tallied := by
  cases goes with
  | turned _ turned => exact tallied.turned turned
  | begins before behind sample there =>
      constructor <;> rw [past_begun there sample (by decide)]
      exacts [tallied.count, tallied.total, tallied.least, tallied.greatest]

theorem Goes.grows (goes : scene.Goes next) {steps : Nat} (some : 0 < steps) :
    (scene.past steps).Sublist (next.past steps) := by
  cases goes with
  | turned _ turned => exact turned.grows steps
  | begins before behind sample there => rw [past_begun there sample some]

theorem tallied_of_fresh (empty : scene.stats = .empty)
    (unbegun : ∀ intake ∈ scene.intakes, intake.steps = 0) : scene.Tallied := by
  have none (steps : Nat) (some : 0 < steps) : scene.past steps = [] := by
    rw [past, List.flatMap_eq_nil_iff]
    intro intake member
    rw [Intake.past, unbegun intake member, if_neg (Nat.not_le.2 some)]
  constructor <;> rw [empty, none _ (by decide)] <;> rfl

end Scene

/-! ## Many aggregates -/

/-- The four steps of a sample that nobody interrupts take it up as a whole. -/
theorem modify_touches (table : Table MetricStats) (stats : Key MetricStats) (sample : Nat) :
    (((table.modify stats (Intake.touch ⟨sample, 0⟩)).modify stats
      (Intake.touch ⟨sample, 1⟩)).modify stats (Intake.touch ⟨sample, 2⟩)).modify stats
      (Intake.touch ⟨sample, 3⟩) = table.modify stats (·.record sample) := by
  rw [Table.modify_modify, Table.modify_modify, Table.modify_modify]
  rfl

theorem set_last {Item : Type} (earlier : List Item) (item next : Item) :
    (earlier ++ [item]).set earlier.length next = earlier ++ [next] := by
  rw [List.set_append_right _ _ (Nat.le_refl _), Nat.sub_self]
  rfl

structure Delivery where
  stats : Key MetricStats
  intake : Intake

namespace Delivery

def begun (stats : Key MetricStats) (sample : Nat) : Delivery where
  stats
  intake := { sample }

def advanced (delivery : Delivery) : Delivery :=
  { delivery with intake := delivery.intake.advanced }

def intakeFor? (stats : Key MetricStats) (delivery : Delivery) : Option Intake :=
  if delivery.stats = stats then some delivery.intake else none

end Delivery

structure Traffic where
  stats : Table MetricStats
  deliveries : List Delivery

namespace Traffic

variable {traffic later : Traffic}

def account (traffic : Traffic) (stats : Key MetricStats) : Scene where
  stats := traffic.stats.get stats
  intakes := traffic.deliveries.filterMap (·.intakeFor? stats)
  looks := []

def takingUp (traffic : Traffic) (delivery : Delivery) : Table MetricStats :=
  traffic.stats.modify delivery.stats delivery.intake.touch

inductive Moves (traffic : Traffic) : Traffic → Prop
  | rests : Moves traffic traffic
  | begins (before behind : List Delivery) (stats : Key MetricStats) (sample : Nat)
      (there : traffic.deliveries = before ++ behind) :
      Moves traffic { traffic with deliveries := before ++ .begun stats sample :: behind }
  | takesUp (before behind : List Delivery) (delivery : Delivery)
      (there : traffic.deliveries = before ++ delivery :: behind)
      (goesOn : delivery.intake.steps < 4) :
      Moves traffic
        { stats := traffic.takingUp delivery
          deliveries := before ++ delivery.advanced :: behind }

theorem Moves.takesUpAt {index : Nat} {delivery : Delivery}
    (there : traffic.deliveries[index]? = some delivery) (goesOn : delivery.intake.steps < 4) :
    traffic.Moves
      { stats := traffic.takingUp delivery
        deliveries := traffic.deliveries.set index delivery.advanced } := by
  have ⟨within, same⟩ := List.getElem?_eq_some_iff.1 there
  rw [List.set_eq_take_append_cons_drop, if_pos within]
  refine .takesUp _ _ delivery ?_ goesOn
  rw [← same, List.getElem_cons_drop, List.take_append_drop]

theorem account_of_same {first second : Traffic} {stats : Key MetricStats}
    (counters : first.stats.get stats = second.stats.get stats)
    (intakes : first.deliveries.filterMap (·.intakeFor? stats) =
      second.deliveries.filterMap (·.intakeFor? stats)) :
    first.account stats = second.account stats := by
  rw [account, account, counters, intakes]

/-- Whatever happens to deliveries, each aggregate sees of it what concerns its own. -/
theorem Moves.account (moves : traffic.Moves later) (stats : Key MetricStats) :
    (traffic.account stats).Goes (later.account stats) := by
  cases moves with
  | rests => exact .turned _ (.idle [])
  | begins before behind other sample there =>
      rw [account, account, there, List.filterMap_append, List.filterMap_append]
      by_cases own : other = stats
      · have begun : (Delivery.begun other sample).intakeFor? stats = some { sample } :=
          if_pos own
        rw [List.filterMap_cons_some begun]
        exact .begins _ _ sample rfl
      · have apart : (Delivery.begun other sample).intakeFor? stats = none := if_neg own
        rw [List.filterMap_cons_none apart]
        exact .turned _ (.idle [])
  | takesUp before behind delivery there goesOn =>
      rw [account, account, there, List.filterMap_append, List.filterMap_append, takingUp,
        Table.modify, Table.get_put]
      by_cases own : stats = delivery.stats
      · have touched : delivery.intakeFor? stats = some delivery.intake := if_pos own.symm
        have advanced : delivery.advanced.intakeFor? stats = some delivery.intake.advanced :=
          if_pos own.symm
        rw [List.filterMap_cons_some touched, List.filterMap_cons_some advanced, if_pos own, ← own]
        exact .turned _ (.touched _ _ delivery.intake rfl goesOn)
      · have untouched : delivery.intakeFor? stats = none := if_neg (Ne.symm own)
        have apart : delivery.advanced.intakeFor? stats = none := if_neg (Ne.symm own)
        rw [List.filterMap_cons_none untouched, List.filterMap_cons_none apart, if_neg own]
        exact .turned _ (.idle [])

end Traffic

/-! ## What snapshots count -/

def Counted (finished begun : List Nat) (so : MetricStats → Prop) : Prop :=
  ∃ samples : List Nat, finished.Sublist samples ∧ samples.Sublist begun ∧
    so (MetricStats.empty.recordAll samples)

/-- Each part of the snapshot counts all samples that were finished, and none that was not
begun. -/
structure Covers (finished begun : List Nat) (snapshot : Snapshot) : Prop where
  count : Counted finished begun (·.count = snapshot.count)
  total : Counted finished begun (·.total = snapshot.total)
  least : Counted finished begun fun stats =>
    Snapshot.shownLeast snapshot.count stats.least = snapshot.least
  greatest : Counted finished begun (·.greatest = snapshot.greatest)

def Look.Covers (finished begun : List Nat) : Look → Prop
  | opening => True
  | counted count => Counted finished begun (·.count = count)
  | lowered count least =>
      Counted finished begun (·.count = count) ∧ Counted finished begun (·.least = least)
  | totalled count least total =>
      Counted finished begun (·.count = count) ∧ Counted finished begun (·.least = least) ∧
        Counted finished begun (·.total = total)
  | ended snapshot => Counters.Covers finished begun snapshot

section Covers

variable {finished begun further : List Nat} {look : Look}

theorem Counted.imp {so other : MetricStats → Prop} (counted : Counted finished begun so)
    (grows : begun.Sublist further) (implies : ∀ stats, so stats → other stats) :
    Counted finished further other := by
  rcases counted with ⟨samples, all, some, holds⟩
  exact ⟨samples, all, some.trans grows, implies _ holds⟩

theorem Counted.later {so : MetricStats → Prop} (counted : Counted finished begun so)
    (grows : begun.Sublist further) : Counted finished further so :=
  counted.imp grows fun _ => id

theorem Look.Covers.later (covers : look.Covers finished begun) (grows : begun.Sublist further) :
    look.Covers finished further := by
  cases look with
  | opening => trivial
  | counted count =>
      have counts : Counted finished begun (·.count = count) := covers
      exact counts.later grows
  | lowered count least => exact ⟨covers.1.later grows, covers.2.later grows⟩
  | totalled count least total =>
      exact ⟨covers.1.later grows, covers.2.1.later grows, covers.2.2.later grows⟩
  | ended snapshot =>
      have ⟨count, total, least, greatest⟩ := covers
      exact ⟨count.later grows, total.later grows, least.later grows, greatest.later grows⟩

variable {scene : Scene}

theorem Scene.counted_past (scene : Scene) (grown : finished.Sublist scene.finished)
    (steps : Nat) (some : 1 ≤ steps) (all : steps ≤ 4) {so : MetricStats → Prop}
    (holds : so (MetricStats.empty.recordAll (scene.past steps))) :
    Counted finished scene.begun so :=
  ⟨scene.past steps, grown.trans (scene.past_antitone all), scene.past_antitone some, holds⟩

theorem Look.Covers.advanced (covers : look.Covers finished scene.begun) (tallied : scene.Tallied)
    (grown : finished.Sublist scene.finished) :
    (look.advanced scene.stats).Covers finished scene.begun := by
  have ⟨count, total, least, greatest⟩ := tallied
  have counts : Counted finished scene.begun (·.count = scene.stats.count) :=
    scene.counted_past grown 1 (by decide) (by decide) count.symm
  have sums : Counted finished scene.begun (·.total = scene.stats.total) :=
    scene.counted_past grown 2 (by decide) (by decide) total.symm
  have lowers : Counted finished scene.begun (·.least = scene.stats.least) :=
    scene.counted_past grown 3 (by decide) (by decide) least.symm
  have raises : Counted finished scene.begun (·.greatest = scene.stats.greatest) :=
    scene.counted_past grown 4 (by decide) (by decide) greatest.symm
  cases look with
  | opening => exact counts
  | counted count => exact ⟨covers, lowers⟩
  | lowered count least => exact ⟨covers.1, covers.2, sums⟩
  | totalled count least total =>
      have ⟨numbers, lowest, totals⟩ := covers
      exact ⟨numbers, totals, lowest.imp (.refl _) fun _ same => by rw [same], raises⟩
  | ended snapshot => exact covers

end Covers

end Instrumentation.Counters
