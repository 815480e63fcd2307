import Instrumentation.Proofs.Metrics.Lifetimes

namespace Instrumentation.Timers

/-! How timers come to their end. Whatever a timer has come to, it is over in a few steps if
nobody interrupts it any more, and these take its sample up as a whole. -/

open Counters

def Life.closed (timer : MetricTimer) (finisher : Finisher) (sample : Nat) : Life where
  timer := { timer with stopped := true }
  stage := .gone
  taken := [sample]
  answer := finisher.answer sample

namespace Scene

variable {scene : Scene} {index : Nat} {life : Life}

theorem getElem?_moved_self (there : scene.lives[index]? = some life) (next : Life)
    (stats : Table MetricStats) :
    (scene.moved index next stats).lives[index]? = some next :=
  (getElem?_moved there next stats index).trans (if_pos rfl)

@[simp] theorem moved_moved (scene : Scene) (index : Nat) (first second : Life)
    (earlier later : Table MetricStats) :
    (scene.moved index first earlier).moved index second later =
      scene.moved index second later :=
  congrArg (fun lives => { scene with lives, stats := later }) (List.set_set first)

theorem delivered_becomes {finisher : Finisher} {sample : Nat}
    (there : scene.lives[index]? = some life) (isOpen : life.IsOpen)
    (delivered : life.stage = .delivering finisher ⟨sample, 4⟩) :
    scene.Becomes (scene.moved index (.closed life.timer finisher sample) scene.stats) := by
  have marks := Step.steps index life _ there (.marks finisher sample delivered)
  rw [isOpen.taken] at marks
  cases finisher with
  | destructor => exact .single marks
  | caller =>
      let stopped : Life := { Life.closed life.timer .caller sample with stage := .leaving }
      have passes := Step.steps index stopped _ (getElem?_moved_self there stopped scene.stats)
        (.passes rfl rfl)
      rw [moved_moved] at passes
      exact .head marks (.single passes)

section Delivering

variable (there : scene.lives[index]? = some life) (finisher : Finisher)
include there

theorem takesUp_moved (stats : Table MetricStats) {intake : Intake} (goesOn : intake.steps < 4) :
    Step
      (scene.moved index { life with stage := .delivering finisher intake } stats)
      (scene.moved index { life with stage := .delivering finisher intake.advanced }
        (stats.modify life.timer.metric.stats intake.touch)) := by
  let now : Life := { life with stage := .delivering finisher intake }
  have step := Step.takesUp index now finisher intake (getElem?_moved_self there now stats) rfl
    goesOn
  rw [takingUp, moved_moved] at step
  exact step

theorem delivered_moved_becomes (isOpen : life.IsOpen) (stats : Table MetricStats) (sample : Nat) :
    (scene.moved index { life with stage := .delivering finisher ⟨sample, 4⟩ } stats).Becomes
      (scene.moved index (.closed life.timer finisher sample) stats) := by
  let now : Life := { life with stage := .delivering finisher ⟨sample, 4⟩ }
  have becomes := delivered_becomes (getElem?_moved_self there now stats) (isOpen.atStage _) rfl
  rw [moved_moved] at becomes
  exact becomes

/-- A timer that nobody interrupts any more takes its sample in four steps. -/
theorem finishing_becomes (isOpen : life.IsOpen) (finishing : life.stage = .finishing finisher) :
    scene.Becomes
      (scene.moved index (.closed life.timer finisher (life.timer.elapsed scene.clocks))
        (scene.stats.modify life.timer.metric.stats
          (·.record (life.timer.elapsed scene.clocks)))) := by
  let sample := life.timer.elapsed scene.clocks
  have reads := Step.steps index life _ there (.reads finisher finishing)
  have takesUp (stats : Table MetricStats) (steps : Nat) (goesOn : steps < 4) :=
    @takesUp_moved scene index life there finisher stats ⟨sample, steps⟩ goesOn
  refine .head reads <| .head (takesUp _ 0 (by decide)) <| .head (takesUp _ 1 (by decide)) <|
    .head (takesUp _ 2 (by decide)) <| .head (takesUp _ 3 (by decide)) ?_
  rw [modify_touches]
  exact delivered_moved_becomes there finisher isOpen _ sample

theorem delivering_moved_becomes (isOpen : life.IsOpen) (sample : Nat) {steps left : Nat}
    (all : steps + left = 4) (stats : Table MetricStats) :
    ∃ later,
      (scene.moved index { life with stage := .delivering finisher ⟨sample, steps⟩ } stats).Becomes
        (scene.moved index (.closed life.timer finisher sample) later) := by
  -- Others may have touched the aggregate before, so that nothing is said of what it comes to.
  induction left generalizing steps stats with
  | zero =>
      cases all
      exact ⟨stats, delivered_moved_becomes there finisher isOpen stats sample⟩
  | succ left induction =>
      have goesOn : (Intake.mk sample steps).steps < 4 := by
        change steps < 4
        omega
      have rest : steps + 1 + left = 4 := by omega
      rcases induction rest _ with ⟨later, becomes⟩
      exact ⟨later, .head (takesUp_moved there finisher stats goesOn) becomes⟩

end Delivering

theorem moved_self (there : scene.lives[index]? = some life) :
    scene.moved index life scene.stats = scene := by
  have ⟨within, same⟩ := List.getElem?_eq_some_iff.1 there
  rw [moved, ← same, List.set_getElem_self]

theorem running_becomes {timer : MetricTimer} (there : scene.lives[index]? = some { timer })
    (unstopped : timer.stopped = false) (finisher : Finisher) :
    scene.Becomes (scene.moved index { timer, stage := .finishing finisher } scene.stats) := by
  cases finisher with
  | caller => exact .single (.steps index _ _ there (.stops rfl))
  | destructor =>
      let leaving : Life := { timer, stage := .leaving }
      have finishes := Step.steps index leaving _ (getElem?_moved_self there leaving scene.stats)
        (.finishes rfl unstopped)
      rw [moved_moved] at finishes
      exact .head (.steps index _ _ there (.leaves rfl)) (.single finishes)

theorem closed_becomes {timer : MetricTimer} (there : scene.lives[index]? = some { timer })
    (unstopped : timer.stopped = false) (finisher : Finisher) :
    scene.Becomes
      (scene.moved index (.closed timer finisher (timer.elapsed scene.clocks))
        (scene.stats.modify timer.metric.stats (·.record (timer.elapsed scene.clocks)))) := by
  let finishing : Life := { timer, stage := .finishing finisher }
  have finishes := finishing_becomes (getElem?_moved_self there finishing scene.stats) finisher
    ⟨unstopped, rfl, rfl⟩ rfl
  rw [moved_moved] at finishes
  exact (running_becomes there unstopped finisher).trans finishes

def CanEnd (scene : Scene) (index : Nat) : Prop :=
  ∃ later life, scene.Becomes later ∧ later.lives[index]? = some life ∧ life.stage = .gone

theorem CanEnd.head {next : Scene} (step : scene.Step next) (ends : next.CanEnd index) :
    scene.CanEnd index := by
  rcases ends with ⟨later, life, becomes, now, gone⟩
  exact ⟨later, life, .head step becomes, now, gone⟩

theorem finishing_canEnd {finisher : Finisher} (there : scene.lives[index]? = some life)
    (isOpen : life.IsOpen) (finishing : life.stage = .finishing finisher) :
    scene.CanEnd index :=
  ⟨_, _, finishing_becomes there finisher isOpen finishing, getElem?_moved_self there _ _, rfl⟩

theorem leaving_canEnd (there : scene.lives[index]? = some life)
    (leaving : life.stage = .leaving) (sound : life.IsOpen ∨ ∃ sample, life.IsClosed sample) :
    scene.CanEnd index := by
  rcases sound with isOpen | ⟨sample, closed⟩
  · have finishes := Step.steps index life _ there (.finishes leaving isOpen.stopped)
    exact .head finishes
      (finishing_canEnd (getElem?_moved_self there _ _) (isOpen.atStage _) rfl)
  · have passes := Step.steps index life _ there (.passes leaving closed.stopped)
    exact ⟨_, _, .single passes, getElem?_moved_self there _ _, rfl⟩

/-- Every timer can come to its end. -/
theorem life_canEnd (there : scene.lives[index]? = some life) (sound : life.Sound) :
    scene.CanEnd index := by
  rw [Life.Sound] at sound
  cases stage : life.stage with
  | running =>
      rw [stage] at sound
      exact .head (.steps index life _ there (.leaves stage))
        (leaving_canEnd (getElem?_moved_self there _ _) rfl (.inl (sound.atStage _)))
  | finishing finisher =>
      rw [stage] at sound
      exact finishing_canEnd there sound stage
  | delivering finisher intake =>
      rw [stage] at sound
      rcases sound with ⟨isOpen, few⟩
      have all : intake.steps + (4 - intake.steps) = 4 := by omega
      rcases delivering_moved_becomes there finisher isOpen intake.sample all scene.stats with
        ⟨later, becomes⟩
      rw [← stage, moved_self there] at becomes
      exact ⟨_, _, becomes, getElem?_moved_self there _ _, rfl⟩
  | leaving =>
      rw [stage] at sound
      exact leaving_canEnd there stage sound
  | gone => exact ⟨scene, life, .refl, there, stage⟩

end Scene

end Instrumentation.Timers

