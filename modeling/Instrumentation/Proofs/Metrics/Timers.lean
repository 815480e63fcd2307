import Instrumentation.Metric
import Instrumentation.Proofs.Metrics.Deliveries
import Mathlib.Logic.Relation

namespace Instrumentation

/-! Any number of timers through any handles, on whatever threads. Each is started, may be
stopped, and goes out of scope some time, be it that its scope has come to its end or that it
is unwound through. Meanwhile others take samples of their own, and clocks move on. Every step
named here is one that nothing interrupts: one access to a clock, to a counter or to the flag
of a timer. -/

theorem Clock.toNat_advance (clock : Clock) (nanoseconds : Nat) :
    (clock.advance nanoseconds).reading.toNat =
      (clock.reading.toNat + min nanoseconds longestDuration) % 2 ^ 64 := by
  rw [← toNat_clampToWord]
  exact UInt64.toNat_add clock.reading (clampToWord nanoseconds)

def MetricTimer.elapsed (timer : MetricTimer) (clocks : Table Clock) : Nat :=
  (clocks.get timer.metric.clock).elapsedSince timer.start

namespace Timers

open Counters

/-! ## One timer -/

inductive Finisher where
  | caller
  | destructor

inductive Stage where
  | running
  | finishing (finisher : Finisher)
  | delivering (finisher : Finisher) (intake : Intake)
  /-- It is out of scope, and its destructor is yet to see whether it was stopped. -/
  | leaving
  | gone

def Stage.underway : Stage → List Intake
  | delivering _ intake => [intake]
  | running | finishing _ | leaving | gone => []

namespace Finisher

/-- Who stops a timer takes it, so that its destructor runs at once. -/
def leaves : Finisher → Stage
  | caller => .leaving
  | destructor => .gone

def answer (sample : Nat) : Finisher → Option Nat
  | caller => some sample
  | destructor => none

end Finisher

structure Life where
  timer : MetricTimer
  stage : Stage := .running
  taken : List Nat := []
  answer : Option Nat := none

namespace Life

def started (metric : Metric) (clocks : Table Clock) : Life where
  timer := { metric, start := (clocks.get metric.clock).reading }

inductive Step (clocks : Table Clock) (life : Life) : Life → Prop
  | stops (running : life.stage = .running) :
      Step clocks life { life with stage := .finishing .caller }
  | leaves (running : life.stage = .running) : Step clocks life { life with stage := .leaving }
  | finishes (leaving : life.stage = .leaving) (unstopped : life.timer.stopped = false) :
      Step clocks life { life with stage := .finishing .destructor }
  | passes (leaving : life.stage = .leaving) (stopped : life.timer.stopped = true) :
      Step clocks life { life with stage := .gone }
  | reads (finisher : Finisher) (finishing : life.stage = .finishing finisher) :
      Step clocks life
        { life with stage := .delivering finisher { sample := life.timer.elapsed clocks } }
  | marks (finisher : Finisher) (sample : Nat)
      (delivered : life.stage = .delivering finisher ⟨sample, 4⟩) :
      Step clocks life
        { timer := { life.timer with stopped := true }
          stage := finisher.leaves
          taken := life.taken ++ [sample]
          answer := finisher.answer sample }

def intakes (life : Life) : List Intake :=
  life.taken.map (⟨·, 4⟩) ++ life.stage.underway

def samples (life : Life) : List Nat :=
  life.intakes.map (·.sample)

def finished (life : Life) : List Nat :=
  life.intakes.flatMap (·.past 4)

def deliveries (life : Life) : List Delivery :=
  life.intakes.map fun intake => { stats := life.timer.metric.stats, intake }

end Life

/-! ## All timers -/

structure Scene where
  clocks : Table Clock := {}
  stats : Table MetricStats := {}
  lives : List Life := []
  records : List Delivery := []

namespace Scene

def starting (scene : Scene) (metric : Metric) : Scene :=
  { scene with lives := scene.lives ++ [.started metric scene.clocks] }

def moved (scene : Scene) (index : Nat) (life : Life) (stats : Table MetricStats) : Scene :=
  { scene with stats, lives := scene.lives.set index life }

def takingUp (scene : Scene) (index : Nat) (life : Life) (finisher : Finisher)
    (intake : Intake) : Scene :=
  scene.moved index { life with stage := .delivering finisher intake.advanced }
    (scene.stats.modify life.timer.metric.stats intake.touch)

def deliveries (scene : Scene) : List Delivery :=
  scene.records ++ scene.lives.flatMap Life.deliveries

def traffic (scene : Scene) : Traffic where
  stats := scene.stats
  deliveries := scene.deliveries

/-- Someone starts a timer, a timer or another sample makes its next step, or a clock moves
on; or something else happens that no clock and no aggregate shows. -/
inductive Step (scene : Scene) : Scene → Prop
  | starts (metric : Metric) : Step scene (scene.starting metric)
  | steps (index : Nat) (life next : Life) (there : scene.lives[index]? = some life)
      (step : life.Step scene.clocks next) : Step scene (scene.moved index next scene.stats)
  | takesUp (index : Nat) (life : Life) (finisher : Finisher) (intake : Intake)
      (there : scene.lives[index]? = some life)
      (delivering : life.stage = .delivering finisher intake) (goesOn : intake.steps < 4) :
      Step scene (scene.takingUp index life finisher intake)
  | records (metric : Metric) (nanoseconds : Nat) :
      Step scene { scene with records := scene.records ++ [.begun metric.stats nanoseconds] }
  | recordTakesUp (index : Nat) (delivery : Delivery)
      (there : scene.records[index]? = some delivery) (goesOn : delivery.intake.steps < 4) :
      Step scene
        { scene with
          stats := scene.traffic.takingUp delivery
          records := scene.records.set index delivery.advanced }
  | movesOn (clock : Key Clock) (nanoseconds : Nat) :
      Step scene { scene with clocks := scene.clocks.modify clock (·.advance nanoseconds) }
  | elsewhere (clocks : Table Clock) (stats : Table MetricStats)
      (sameClocks : ∀ clock, clocks.get clock = scene.clocks.get clock)
      (sameStats : ∀ key, stats.get key = scene.stats.get key) :
      Step scene { scene with clocks, stats }

abbrev Becomes : Scene → Scene → Prop :=
  Relation.ReflTransGen Step

structure IsOpening (scene : Scene) : Prop where
  stats : ∀ key, scene.stats.get key = .empty
  lives : scene.lives = []
  records : scene.records = []

end Scene

end Timers

end Instrumentation
