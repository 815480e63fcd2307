import Instrumentation.Proofs.Metrics.Summaries

namespace Instrumentation.Counters

/-! Samples that one aggregate takes up at the same time, and snapshots that are taken
meanwhile. Each counter is touched and read by itself, so that a snapshot may meet samples of
which only a part is there. In whichever order all this happens, the counters come to all
samples that were taken up, and a snapshot lies between the samples that were taken up before
it began and those that were begun before it ended. -/

/-! ## Intakes -/

/-- A sample that is being taken up in four steps, each on one counter. -/
structure Intake where
  sample : Nat
  steps : Nat := 0

namespace Intake

def HasEnded (intake : Intake) : Prop :=
  4 ≤ intake.steps

def IsUnderway (intake : Intake) : Prop :=
  0 < intake.steps ∧ intake.steps < 4

instance (intake : Intake) : Decidable intake.HasEnded :=
  inferInstanceAs (Decidable (4 ≤ intake.steps))

instance (intake : Intake) : Decidable intake.IsUnderway :=
  inferInstanceAs (Decidable (_ ∧ _))

def touch (intake : Intake) (stats : MetricStats) : MetricStats :=
  match intake.steps with
  | 0 => stats.countOne
  | 1 => stats.addTotal (clampToWord intake.sample)
  | 2 => stats.lowerLeast (clampToWord intake.sample)
  | 3 => stats.raiseGreatest (clampToWord intake.sample)
  | _ => stats

def advanced (intake : Intake) : Intake :=
  { intake with steps := intake.steps + 1 }

def past (steps : Nat) (intake : Intake) : List Nat :=
  if steps ≤ intake.steps then [intake.sample] else []

theorem past_advanced (intake : Intake) :
    intake.advanced.past (intake.steps + 1) = intake.past (intake.steps + 1) ++ [intake.sample] := by
  simp [past, advanced]

theorem past_advanced_other {intake : Intake} {steps : Nat} (other : steps ≠ intake.steps + 1) :
    intake.advanced.past steps = intake.past steps := by
  have same : steps ≤ intake.steps + 1 ↔ steps ≤ intake.steps := by omega
  simp [past, advanced, same]

end Intake

/-! ## Looks -/

inductive Look where
  | opening
  | counted (count : UInt64)
  | lowered (count least : UInt64)
  | totalled (count least total : UInt64)
  | ended (snapshot : Snapshot)
  deriving DecidableEq

def Look.advanced (stats : MetricStats) : Look → Look
  | opening => counted stats.count
  | counted count => lowered count stats.least
  | lowered count least => totalled count least stats.total
  | totalled count least total =>
      ended {
        count, total
        least := Snapshot.shownLeast count least
        greatest := stats.greatest }
  | ended snapshot => ended snapshot

/-! ## Turns -/

structure Scene where
  stats : MetricStats := .empty
  intakes : List Intake
  looks : List Look

inductive Turn where
  | intake (index : Nat)
  | look (index : Nat)

namespace Scene

def opening (samples : List Nat) (looks : Nat) : Scene where
  intakes := samples.map fun sample => { sample }
  looks := List.replicate looks .opening

def turn (scene : Scene) : Turn → Scene
  | .intake index =>
      match scene.intakes[index]? with
      | some intake =>
          if intake.HasEnded then scene
          else
            { scene with
              stats := intake.touch scene.stats
              intakes := scene.intakes.set index intake.advanced }
      | none => scene
  | .look index => { scene with looks := scene.looks.modify index (·.advanced scene.stats) }

def after (scene : Scene) (turns : List Turn) : Scene :=
  turns.foldl turn scene

def IsAtRest (scene : Scene) : Prop :=
  ∀ intake ∈ scene.intakes, ¬ intake.IsUnderway

instance (scene : Scene) : Decidable scene.IsAtRest :=
  inferInstanceAs (Decidable (∀ intake ∈ scene.intakes, _))

def past (scene : Scene) (steps : Nat) : List Nat :=
  scene.intakes.flatMap (·.past steps)

def begun (scene : Scene) : List Nat :=
  scene.past 1

def finished (scene : Scene) : List Nat :=
  scene.past 4

end Scene

/-- The four steps of a sample come to the sample if nothing else is done meanwhile. -/
theorem intake_undisturbed (stats : MetricStats) (sample : Nat) :
    let scene : Scene := { stats, intakes := [{ sample }], looks := [] }
    (scene.after (List.replicate 4 (.intake 0))).stats = stats.record sample := rfl

/-- The four steps of a look come to a snapshot if nothing else is done meanwhile. -/
theorem look_undisturbed (stats : MetricStats) :
    let scene : Scene := { stats, intakes := [], looks := [.opening] }
    (scene.after (List.replicate 4 (.look 0))).looks = [.ended stats.snapshot] := rfl

/-! ## What is past a step -/

namespace Scene

variable {scene next : Scene}

inductive Turned (scene : Scene) : Scene → Prop
  | idle (looks : List Look) : Turned scene { scene with looks }
  | touched (before behind : List Intake) (intake : Intake)
      (there : scene.intakes = before ++ intake :: behind) (goesOn : intake.steps < 4) :
      Turned scene
        { scene with
          stats := intake.touch scene.stats
          intakes := before ++ intake.advanced :: behind }

theorem turn_turned (scene : Scene) (turn : Turn) : scene.Turned (scene.turn turn) := by
  cases turn with
  | look index => exact .idle _
  | intake index =>
      rw [Scene.turn]
      split
      · next intake there =>
          split
          · exact .idle scene.looks
          · next goesOn =>
              have ⟨within, same⟩ := List.getElem?_eq_some_iff.1 there
              rw [List.set_eq_take_append_cons_drop, if_pos within]
              apply Turned.touched
              · rw [← same, List.getElem_cons_drop, List.take_append_drop]
              · exact Nat.not_le.1 goesOn
      · exact .idle scene.looks

section Touched

variable {before behind : List Intake} {intake : Intake}
  (there : scene.intakes = before ++ intake :: behind) (stats : MetricStats)

include there

/-- A step of an intake adds its sample to those that are past this step, and to no others. -/
theorem past_made :
    let next : Scene := { scene with stats, intakes := before ++ intake.advanced :: behind }
    (next.past (intake.steps + 1)).Perm (scene.past (intake.steps + 1) ++ [intake.sample]) := by
  simp only [past, there, List.flatMap_append, List.flatMap_cons, intake.past_advanced,
    List.append_assoc]
  apply List.Perm.append_left
  apply List.Perm.append_left
  exact List.perm_append_comm

theorem past_other {steps : Nat} (other : steps ≠ intake.steps + 1) :
    let next : Scene := { scene with stats, intakes := before ++ intake.advanced :: behind }
    next.past steps = scene.past steps := by
  simp only [past, there, List.flatMap_append, List.flatMap_cons,
    Intake.past_advanced_other other]

theorem past_grows (steps : Nat) :
    let next : Scene := { scene with stats, intakes := before ++ intake.advanced :: behind }
    (scene.past steps).Sublist (next.past steps) := by
  intro next
  by_cases made : steps = intake.steps + 1
  · simp only [next, past, there, made, List.flatMap_append, List.flatMap_cons,
      intake.past_advanced]
    apply List.Sublist.append (List.Sublist.refl _)
    exact List.Sublist.append (List.sublist_append_left _ _) (List.Sublist.refl _)
  · rw [past_other there stats made]

end Touched

/-! ## The counters -/

/-- Each counter has come to the samples that are past its step. -/
structure Tallied (scene : Scene) : Prop where
  count : scene.stats.count = (MetricStats.empty.recordAll (scene.past 1)).count
  total : scene.stats.total = (MetricStats.empty.recordAll (scene.past 2)).total
  least : scene.stats.least = (MetricStats.empty.recordAll (scene.past 3)).least
  greatest : scene.stats.greatest = (MetricStats.empty.recordAll (scene.past 4)).greatest

namespace Tallied

theorem touched (tallied : scene.Tallied) {before behind : List Intake} {intake : Intake}
    (there : scene.intakes = before ++ intake :: behind) (goesOn : intake.steps < 4) :
    Tallied
      { scene with
        stats := intake.touch scene.stats
        intakes := before ++ intake.advanced :: behind } := by
  have made := MetricStats.empty.recordAll_perm (past_made there (intake.touch scene.stats))
  have other := @past_other scene before behind intake there (intake.touch scene.stats)
  rw [MetricStats.recordAll_append] at made
  have ⟨count, total, least, greatest⟩ := tallied
  obtain ⟨sample, steps⟩ := intake
  let word := clampToWord sample
  match steps, goesOn with
  | 0, _ =>
      refine ⟨?_, ?_, ?_, ?_⟩
      · rw [made]
        exact congrArg (· + 1) count
      · rwa [other (by simp)]
      · rwa [other (by simp)]
      · rwa [other (by simp)]
  | 1, _ =>
      refine ⟨?_, ?_, ?_, ?_⟩
      · rwa [other (by simp)]
      · rw [made]
        exact congrArg (· + word) total
      · rwa [other (by simp)]
      · rwa [other (by simp)]
  | 2, _ =>
      refine ⟨?_, ?_, ?_, ?_⟩
      · rwa [other (by simp)]
      · rwa [other (by simp)]
      · rw [made]
        exact congrArg (fun least => if word < least then word else least) least
      · rwa [other (by simp)]
  | 3, _ =>
      refine ⟨?_, ?_, ?_, ?_⟩
      · rwa [other (by simp)]
      · rwa [other (by simp)]
      · rwa [other (by simp)]
      · rw [made]
        exact congrArg (fun greatest => if greatest < word then word else greatest) greatest

theorem turned (tallied : scene.Tallied) (turned : scene.Turned next) : next.Tallied := by
  cases turned with
  | idle => exact ⟨tallied.count, tallied.total, tallied.least, tallied.greatest⟩
  | touched before behind intake there goesOn => exact tallied.touched there goesOn

end Tallied

theorem past_opening (samples : List Nat) (looks : Nat) {steps : Nat} (some : 0 < steps) :
    (opening samples looks).past steps = [] := by
  simp [past, opening, Intake.past, Nat.not_le.2 some, List.flatMap_map]

theorem tallied_opening (samples : List Nat) (looks : Nat) : (opening samples looks).Tallied := by
  constructor <;> rw [past_opening samples looks (by decide)] <;> rfl

theorem after_tallied (tallied : scene.Tallied) (turns : List Turn) :
    (scene.after turns).Tallied := by
  induction turns generalizing scene with
  | nil => exact tallied
  | cons first rest induction => exact induction (tallied.turned (scene.turn_turned first))

theorem past_antitone (scene : Scene) {fewer more : Nat} (le : fewer ≤ more) :
    (scene.past more).Sublist (scene.past fewer) := by
  rw [past, past]
  induction scene.intakes with
  | nil => exact .slnil
  | cons first rest induction =>
      rw [List.flatMap_cons, List.flatMap_cons]
      apply List.Sublist.append _ induction
      by_cases made : more ≤ first.steps
      · simp [Intake.past, made, le.trans made]
      · simp [Intake.past, made]

theorem past_zero (scene : Scene) : scene.past 0 = scene.intakes.map (·.sample) := by
  simp [past, Intake.past, ← List.map_eq_flatMap]

theorem Turned.grows (turned : scene.Turned next) (steps : Nat) :
    (scene.past steps).Sublist (next.past steps) := by
  cases turned with
  | idle => exact .refl _
  | touched before behind intake there => exact past_grows there _ steps

theorem Turned.samples (turned : scene.Turned next) : next.past 0 = scene.past 0 := by
  cases turned with
  | idle => rfl
  | touched before behind intake there => exact past_other there _ (by simp)

theorem samples_after (scene : Scene) (turns : List Turn) :
    (scene.after turns).past 0 = scene.past 0 := by
  induction turns generalizing scene with
  | nil => rfl
  | cons first rest induction =>
      exact (induction (scene.turn first)).trans (scene.turn_turned first).samples

/-- When no sample is there in part, the counters are those of all samples that have been
taken up. -/
theorem Tallied.of_rest (tallied : scene.Tallied) (rests : scene.IsAtRest) :
    scene.stats = MetricStats.empty.recordAll scene.finished := by
  have past (steps : Nat) (some : 0 < steps) (all : steps ≤ 4) :
      scene.past steps = scene.finished := by
    apply List.flatMap_congr
    intro intake member
    have apart := rests intake member
    have same : steps ≤ intake.steps ↔ 4 ≤ intake.steps := by
      simp only [Intake.IsUnderway] at apart
      omega
    simp only [Intake.past, same]
  have ⟨count, total, least, greatest⟩ := tallied
  rw [past 1 (by decide) (by decide)] at count
  rw [past 2 (by decide) (by decide)] at total
  rw [past 3 (by decide) (by decide)] at least
  exact congr (congr (congr (congrArg MetricStats.mk count) total) least) greatest

end Scene

/-! ## What looks see -/

/-- A snapshot that tells of all samples that were finished, and of none that was not begun.
Zero stands for a least and a greatest sample that are not there yet. -/
structure Between (finished begun : List Nat) (snapshot : Snapshot) : Prop where
  count : finished.length ≤ snapshot.count.toNat ∧ snapshot.count.toNat ≤ begun.length
  greatest : snapshot.greatest = 0 ∨ snapshot.greatest.toNat ∈ takenUp begun
  atLeast : ∀ word ∈ takenUp finished, word ≤ snapshot.greatest.toNat
  least : snapshot.least = 0 ∨ snapshot.least.toNat ∈ takenUp begun
  atMost : ∀ word ∈ takenUp finished, snapshot.least.toNat ≤ word

def CountBetween (finished begun : List Nat) (count : UInt64) : Prop :=
  finished.length ≤ count.toNat ∧ count.toNat ≤ begun.length

def LeastBetween (finished begun : List Nat) (least : UInt64) : Prop :=
  (∀ word ∈ takenUp finished, least.toNat ≤ word) ∧
    (least.toNat = longestDuration ∨ least.toNat ∈ takenUp begun)

def GreatestBetween (finished begun : List Nat) (greatest : UInt64) : Prop :=
  (∀ word ∈ takenUp finished, word ≤ greatest.toNat) ∧
    (greatest = 0 ∨ greatest.toNat ∈ takenUp begun)

structure Encloses (finished begun : List Nat) (stats : MetricStats) : Prop where
  count : CountBetween finished begun stats.count
  least : LeastBetween finished begun stats.least
  greatest : GreatestBetween finished begun stats.greatest

def Look.Sound (finished begun : List Nat) : Look → Prop
  | opening => True
  | counted count => CountBetween finished begun count
  | lowered count least | totalled count least _ =>
      CountBetween finished begun count ∧ LeastBetween finished begun least
  | ended snapshot => Between finished begun snapshot

section Sound

variable {finished begun : List Nat} {look : Look}

theorem takenUp_mono {samples more : List Nat} (within : samples ⊆ more) :
    takenUp samples ⊆ takenUp more :=
  List.map_subset _ within

theorem Look.Sound.later {further : List Nat} (sound : look.Sound finished begun)
    (grows : begun.Sublist further) : look.Sound finished further := by
  have more := takenUp_mono grows.subset
  have longer := grows.length_le
  cases look with
  | opening => trivial
  | counted count => exact ⟨sound.1, sound.2.trans longer⟩
  | lowered count least | totalled count least total =>
      have ⟨counts, lowest, least⟩ := sound
      exact ⟨⟨counts.1, counts.2.trans longer⟩, lowest, least.imp_right (more ·)⟩
  | ended snapshot =>
      have ⟨counts, greatest, atLeast, least, atMost⟩ := sound
      exact ⟨⟨counts.1, counts.2.trans longer⟩, greatest.imp_right (more ·), atLeast,
        least.imp_right (more ·), atMost⟩

/-- A counter that was read before the samples it stands for were there in full shows no
least sample. -/
theorem shownLeast_between {least : UInt64} (count : UInt64)
    (between : LeastBetween finished begun least) :
    let shown := Snapshot.shownLeast count least
    (∀ word ∈ takenUp finished, shown.toNat ≤ word) ∧
      (shown = 0 ∨ shown.toNat ∈ takenUp begun) := by
  intro shown
  by_cases hidden : shown = 0
  · simp [hidden]
  · have same : shown = least := by grind [Snapshot.shownLeast]
    have short : least.toNat ≠ longestDuration := fun longest =>
      hidden (MetricStats.shownLeast_of_longest longest)
    rw [same]
    exact ⟨between.1, .inr (between.2.resolve_left short)⟩

theorem Look.Sound.advanced (sound : look.Sound finished begun) {stats : MetricStats}
    (encloses : Encloses finished begun stats) :
    (look.advanced stats).Sound finished begun := by
  cases look with
  | opening => exact encloses.count
  | counted count => exact ⟨sound, encloses.least⟩
  | lowered count least => exact sound
  | totalled count least total =>
      have ⟨counts, least⟩ := sound
      have ⟨atMost, lowest⟩ := shownLeast_between count least
      exact ⟨counts, encloses.greatest.2, encloses.greatest.1, lowest, atMost⟩
  | ended snapshot => exact sound

end Sound

namespace Scene

variable {scene : Scene}

/-- The counters enclose whatever had been finished by some time before. -/
theorem Tallied.encloses (tallied : scene.Tallied) (few : (scene.past 0).length < 2 ^ 64)
    {finished : List Nat} (grown : finished.Sublist scene.finished) :
    Encloses finished scene.begun scene.stats := by
  have sums (samples : List Nat) : (MetricStats.empty.recordAll samples).SumsUp (takenUp samples) :=
    MetricStats.SumsUp.empty.recordAll samples
  have within {steps : Nat} (all : steps ≤ 4) : finished.Sublist (scene.past steps) :=
    grown.trans (scene.past_antitone all)
  have begun {steps : Nat} (some : 1 ≤ steps) : takenUp (scene.past steps) ⊆ takenUp scene.begun :=
    takenUp_mono (scene.past_antitone some).subset
  constructor
  · have fits := (scene.past_antitone (Nat.zero_le 1)).length_le.trans_lt few
    have counted := (sums (scene.past 1)).count
    rw [← tallied.count, takenUp, List.length_map, Nat.mod_eq_of_lt fits] at counted
    rw [CountBetween, counted]
    exact ⟨(within (by decide)).length_le, Nat.le_refl _⟩
  · obtain ⟨_, _, atMost, least, _, _⟩ := sums (scene.past 3)
    rw [← tallied.least] at atMost least
    constructor
    · intro word member
      exact atMost word (takenUp_mono (within (by decide)).subset member)
    · exact least.symm.imp_right (begun (by decide) ·)
  · obtain ⟨_, _, _, _, atLeast, greatest⟩ := sums (scene.past 4)
    rw [← tallied.greatest] at atLeast greatest
    constructor
    · intro word member
      exact atLeast word (takenUp_mono (within (by decide)).subset member)
    · exact greatest.symm.imp (·.2) (begun (by decide) ·)

theorem looks_turn (scene : Scene) (turn : Turn) {index : Nat} {look : Look}
    (later : look ∈ (scene.turn turn).looks[index]?) :
    ∃ earlier ∈ scene.looks[index]?,
      look = earlier ∨ look = earlier.advanced scene.stats := by
  cases turn with
  | intake place =>
      have same : (scene.turn (.intake place)).looks = scene.looks := by
        grind [Scene.turn]
      exact ⟨look, same ▸ later, .inl rfl⟩
  | look place =>
      rw [Scene.turn, Option.mem_def, List.getElem?_modify] at later
      rcases Option.map_eq_some_iff.1 later with ⟨earlier, there, rfl⟩
      refine ⟨earlier, there, ?_⟩
      by_cases here : place = index
      · exact .inr (if_pos here)
      · exact .inl (if_neg here)

/-- A look that has seen no less than what was finished at some time goes on so. -/
theorem after_sound (tallied : scene.Tallied) (few : (scene.past 0).length < 2 ^ 64)
    {finished : List Nat} (grown : finished.Sublist scene.finished) {index : Nat}
    (sound : ∀ look ∈ scene.looks[index]?, look.Sound finished scene.begun)
    (turns : List Turn) :
    ∀ look ∈ (scene.after turns).looks[index]?,
      look.Sound finished (scene.after turns).begun := by
  induction turns generalizing scene with
  | nil => exact sound
  | cons first rest induction =>
      have turned := scene.turn_turned first
      apply induction (tallied.turned turned)
      · rwa [turned.samples]
      · exact grown.trans (turned.grows 4)
      · intro look later
        obtain ⟨earlier, there, kept⟩ := scene.looks_turn first later
        have before := sound earlier there
        have now : look.Sound finished scene.begun := by
          rcases kept with rfl | rfl
          · exact before
          · exact before.advanced (tallied.encloses few grown)
        exact now.later (turned.grows 1)

end Scene

/-! ## The statement -/

/-- Samples are taken up and snapshots taken in any interleaving of their steps. No sample is
lost: when none is there in part, the counters are those of all samples that were taken up,
one after another in any order. And a snapshot lies between the samples that were finished
before it began and those that were begun before it ended. -/
theorem concurrent_samples_are_counted (samples : List Nat) (looks : Nat)
    (few : samples.length < 2 ^ 64) (earlier later : List Turn) :
    let begins := (Scene.opening samples looks).after earlier
    let ends := begins.after later
    begins.intakes.map (·.sample) = samples ∧
    (begins.IsAtRest → ∀ order, order.Perm begins.finished →
      begins.stats = MetricStats.empty.recordAll order) ∧
    ∀ (index : Nat) (snapshot : Snapshot), begins.looks[index]? = some .opening →
      ends.looks[index]? = some (.ended snapshot) →
      Between begins.finished ends.begun snapshot := by
  intro begins ends
  have tallied := Scene.after_tallied (Scene.tallied_opening samples looks) earlier
  have same : begins.past 0 = samples := by
    rw [Scene.samples_after, Scene.past_zero, Scene.opening, List.map_map]
    exact List.map_id' samples
  refine ⟨?_, ?_, ?_⟩
  · rw [← Scene.past_zero, same]
  · intro rests order perm
    rw [tallied.of_rest rests]
    exact MetricStats.empty.recordAll_perm perm.symm
  · intro index snapshot opens shows
    have fewNow : (begins.past 0).length < 2 ^ 64 := by rwa [same]
    apply Scene.after_sound tallied fewNow (.refl _) _ later (.ended snapshot) shows
    intro look there
    cases opens.symm.trans there
    trivial

/-- A snapshot counts a sample of which neither the least nor the greatest is there yet. -/
theorem half_taken_sample_is_counted :
    let earlier : List Turn := List.replicate 4 (.intake 1)
    let later : List Turn := [.intake 0, .look 0, .look 0, .intake 0, .look 0, .look 0]
    let begins := (Scene.opening [7, 5] 1).after earlier
    [7, 5].length < 2 ^ 64 ∧ begins.IsAtRest ∧ begins.looks[0]? = some .opening ∧
      (begins.after later).looks[0]? = some (.ended ⟨2, 12, 5, 5⟩) ∧
      begins.stats = MetricStats.empty.recordAll [5] ∧ Between [5] [7, 5] ⟨2, 12, 5, 5⟩ := by
  intro earlier later begins
  have rests : begins.IsAtRest := by decide
  have ⟨_, counted, between⟩ :=
    concurrent_samples_are_counted [7, 5] 1 (by decide) earlier later
  exact ⟨by decide, rests, rfl, rfl, counted rests [5] (.refl _), between 0 _ rfl rfl⟩

end Instrumentation.Counters
