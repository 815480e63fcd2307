import Instrumentation.Proofs.Metrics.Endings
import Instrumentation.Proofs.Program
import Mathlib.Data.Fin.Tuple.Basic

namespace Instrumentation

/-! Programs that own timers. A timer belongs to the scope in which it was started, and goes
out of it when it is stopped, when the scope has come to its end, or when it is unwound through.
All that such programs do to clocks and aggregates are steps of timers and of single samples,
and none leaves a timer behind. -/

variable {Host Value : Type}

/-! ## Programs -/

/-- Anything that no clock and no aggregate shows. -/
structure Untimed (Host : Type) where
  change : World Host → World Host
  keepsClocks : ∀ world clock, (change world).clocks.get clock = world.clocks.get clock
  keepsStats : ∀ world key, (change world).stats.get key = world.stats.get key

/-- Programs that own so many timers. -/
inductive Routine (Host Value : Type) : Nat → Type
  | ends {owned : Nat} (ending : Except Payload Value) : Routine Host Value owned
  | acts {owned : Nat} (untimed : Untimed Host) (rest : World Host → Routine Host Value owned) :
      Routine Host Value owned
  | records {owned : Nat} (metric : Metric) (nanoseconds : Nat) (rest : Routine Host Value owned) :
      Routine Host Value owned
  | movesOn {owned : Nat} (clock : Key Clock) (nanoseconds : Nat)
      (rest : Routine Host Value owned) : Routine Host Value owned
  | starts {owned : Nat} (metric : Metric) (rest : Routine Host Value (owned + 1)) :
      Routine Host Value owned
  | stops {owned : Nat} (place : Fin (owned + 1)) (rest : Nat → Routine Host Value owned) :
      Routine Host Value (owned + 1)
  | drops {owned : Nat} (place : Fin (owned + 1)) (rest : Routine Host Value owned) :
      Routine Host Value (owned + 1)
  | scope {owned : Nat} (body : Routine Host Value 0)
      (rest : Except Payload Value → Routine Host Value owned) : Routine Host Value owned

/-- Who stops a timer takes it: its destructor runs before the time is told. -/
def MetricTimer.consume (timer : MetricTimer) : Program Host Nat := do
  let (elapsed, stopped) ← timer.stop
  stopped.drop
  return elapsed

def World.sampled (world : World Host) (metric : Metric) (nanoseconds : Nat) : World Host :=
  { world with stats := world.stats.modify metric.stats (·.record nanoseconds) }

namespace Routine

/-- The timers of a scope go out of it, the newest first. -/
def dropAll : {owned : Nat} → (Fin owned → MetricTimer) → Program Host Unit
  | 0, _ => return
  | owned + 1, timers => do
      (timers (Fin.last owned)).drop
      dropAll (timers ∘ Fin.castSucc)

def run {owned : Nat} (timers : Fin owned → MetricTimer) :
    Routine Host Value owned → Program Host Value
  | ends ending => do
      dropAll timers
      finish ending
  | acts untimed rest => do
      modify untimed.change
      (rest (← get)).run timers
  | records metric nanoseconds rest => do
      metric.record nanoseconds
      rest.run timers
  | movesOn clock nanoseconds rest => do
      Clock.moveOn clock nanoseconds
      rest.run timers
  | starts metric rest => do
      let timer ← metric.start
      rest.run (Fin.snoc timers timer)
  | stops place rest => do
      let elapsed ← (timers place).consume
      (rest elapsed).run (timers ∘ place.succAbove)
  | drops place rest => do
      (timers place).drop
      rest.run (timers ∘ place.succAbove)
  | scope body rest => do
      let ending ← attempt (body.run Fin.elim0)
      (rest ending).run timers

end Routine

namespace Timers

open Counters

variable {world : World Host} {scene later : Scene} {owned : Nat}

structure Scene.Shows (scene : Scene) (world : World Host) : Prop where
  clocks : scene.clocks = world.clocks
  stats : scene.stats = world.stats

structure Scene.Holds (scene : Scene) (timers : Fin owned → MetricTimer)
    (places : Fin owned → Nat) : Prop where
  there : ∀ place, scene.lives[places place]? = some { timer := timers place }
  unstopped : ∀ place, (timers place).stopped = false
  apart : Function.Injective places

/-- All new timers are gone, those at these places as well, and no other is touched. -/
structure Scene.Settles (scene : Scene) (places : Fin owned → Nat) (later : Scene) : Prop where
  becomes : scene.Becomes later
  kept : ∀ index < scene.lives.length, (∀ place, places place ≠ index) →
    later.lives[index]? = scene.lives[index]?
  gone : ∀ index life, scene.lives.length ≤ index ∨ (∃ place, places place = index) →
    later.lives[index]? = some life → life.stage = .gone
  grows : scene.lives.length ≤ later.lives.length

namespace Scene

variable {timers : Fin owned → MetricTimer} {places : Fin owned → Nat}

theorem Holds.lt (holds : scene.Holds timers places) (place : Fin owned) :
    places place < scene.lives.length :=
  (List.getElem?_eq_some_iff.1 (holds.there place)).1

/-! ### Samples without a timer -/

theorem recordTakesUp_last (records : List Delivery) (key : Key MetricStats)
    (table : Table MetricStats) {intake : Intake} (goesOn : intake.steps < 4) :
    Step { scene with stats := table, records := records ++ [⟨key, intake⟩] }
      { scene with
        stats := table.modify key intake.touch
        records := records ++ [⟨key, intake.advanced⟩] } := by
  let at_ : Scene := { scene with stats := table, records := records ++ [⟨key, intake⟩] }
  have step := @Step.recordTakesUp at_ records.length ⟨key, intake⟩ List.getElem?_concat_length
    goesOn
  rw [set_last] at step
  exact step

theorem recorded_becomes (scene : Scene) (metric : Metric) (nanoseconds : Nat) :
    scene.Becomes
      { scene with
        stats := scene.stats.modify metric.stats (·.record nanoseconds)
        records := scene.records ++ [⟨metric.stats, ⟨nanoseconds, 4⟩⟩] } := by
  have takesUp (table : Table MetricStats) (steps : Nat) (goesOn : steps < 4) :=
    @recordTakesUp_last scene scene.records metric.stats table ⟨nanoseconds, steps⟩ goesOn
  refine .head (.records metric nanoseconds) <| .head (takesUp _ 0 (by decide)) <|
    .head (takesUp _ 1 (by decide)) <| .head (takesUp _ 2 (by decide)) <|
    .head (takesUp _ 3 (by decide)) ?_
  rw [modify_touches]
  exact .refl

theorem record_becomes (shows : scene.Shows world) (metric : Metric) (nanoseconds : Nat) :
    ∃ left later, metric.record nanoseconds world = (.ok (), left) ∧ scene.Becomes later ∧
      later.Shows left ∧ later.lives = scene.lives := by
  refine ⟨_, _, rfl, scene.recorded_becomes metric nanoseconds, ⟨shows.clocks, ?_⟩, rfl⟩
  rw [shows.stats]

def MovesOn (scene : Scene) (clock : Key Clock) (nanoseconds : Nat) (world : World Host) : Prop :=
  ∃ left later, Clock.moveOn clock nanoseconds world = (.ok (), left) ∧ scene.Becomes later ∧
    later.Shows left ∧ later.lives = scene.lives ∧
    (∀ other ≠ clock, later.clocks.get other = scene.clocks.get other) ∧
    (later.clocks.get clock).reading.toNat =
      ((scene.clocks.get clock).reading.toNat + min nanoseconds longestDuration) % 2 ^ 64

theorem moveOn_becomes (shows : scene.Shows world) (clock : Key Clock) (nanoseconds : Nat) :
    scene.MovesOn clock nanoseconds world := by
  refine ⟨_, _, rfl, .single (.movesOn clock nanoseconds), ⟨?_, shows.stats⟩, rfl, ?_, ?_⟩
  · rw [shows.clocks]
  · exact fun other apart => scene.clocks.get_put_other _ apart
  · rw [Table.modify, Table.get_put_same, Clock.toNat_advance]

/-! ### Timers of programs -/

theorem start_starts (shows : scene.Shows world) (metric : Metric) :
    ∃ timer, metric.start world = (.ok timer, world) ∧
      Life.started metric scene.clocks = { timer } ∧ timer.stopped = false ∧
      (scene.starting metric).Shows world := by
  refine ⟨_, rfl, ?_, rfl, shows.clocks, shows.stats⟩
  rw [shows.clocks]
  rfl

theorem drop_becomes (shows : scene.Shows world) {timer : MetricTimer} {index : Nat}
    (there : scene.lives[index]? = some { timer }) (unstopped : timer.stopped = false) :
    ∃ left later, timer.drop world = (.ok (), left) ∧ scene.Becomes later ∧ later.Shows left ∧
      later.lives =
        scene.lives.set index (.closed timer .destructor (timer.elapsed world.clocks)) := by
  have drops : timer.drop world =
      (.ok (), world.sampled timer.metric (timer.elapsed world.clocks)) := by
    rw [MetricTimer.drop, unstopped]
    rfl
  have closed := closed_becomes there unstopped .destructor
  rw [shows.clocks, shows.stats] at closed
  exact ⟨_, _, drops, closed, ⟨shows.clocks, rfl⟩, rfl⟩

def Stops (scene : Scene) (index : Nat) (timer : MetricTimer) (world : World Host) : Prop :=
  ∃ elapsed left later, timer.consume world = (.ok elapsed, left) ∧ scene.Becomes later ∧
    later.Shows left ∧ later.lives = scene.lives.set index (.closed timer .caller elapsed)

theorem consume_becomes (shows : scene.Shows world) {timer : MetricTimer} {index : Nat}
    (there : scene.lives[index]? = some { timer }) (unstopped : timer.stopped = false) :
    scene.Stops index timer world := by
  have closed := closed_becomes there unstopped .caller
  rw [shows.clocks, shows.stats] at closed
  exact ⟨_, _, _, rfl, closed, ⟨shows.clocks, rfl⟩, rfl⟩

/-! ### Scopes -/

variable {first : Scene}

theorem Settles.of_same (becomes : scene.Becomes first) (same : first.lives = scene.lives)
    (settles : first.Settles places later) : scene.Settles places later where
  becomes := becomes.trans settles.becomes
  kept := same ▸ settles.kept
  gone := same ▸ settles.gone
  grows := same ▸ settles.grows

theorem Holds.of_same (holds : scene.Holds timers places) (same : first.lives = scene.lives) :
    first.Holds timers places where
  there := same ▸ holds.there
  unstopped := holds.unstopped
  apart := holds.apart

theorem Holds.nothing (scene : Scene) : scene.Holds Fin.elim0 Fin.elim0 where
  there place := place.elim0
  unstopped place := place.elim0
  apart place := place.elim0

theorem Settles.nothing (scene : Scene) (places : Fin 0 → Nat) : scene.Settles places scene where
  becomes := .refl
  kept _ _ _ := rfl
  gone index life outside there := by
    rcases outside with beyond | ⟨place, _⟩
    · rw [List.getElem?_eq_none beyond] at there
      cases there
    · exact place.elim0
  grows := Nat.le_refl _

section Closing

variable {timers : Fin (owned + 1) → MetricTimer} {places : Fin (owned + 1) → Nat}
  (holds : scene.Holds timers places) {place : Fin (owned + 1)} {life : Life}
  (closed : first.lives = scene.lives.set (places place) life)
include holds closed

theorem Holds.others :
    first.Holds (timers ∘ place.succAbove) (places ∘ place.succAbove) where
  there other := by
    have apart : places place ≠ places (place.succAbove other) :=
      fun same => place.succAbove_ne other (holds.apart same).symm
    rw [closed, Function.comp_apply, List.getElem?_set_ne apart]
    exact holds.there _
  unstopped _ := holds.unstopped _
  apart := holds.apart.comp place.succAbove_right_injective

theorem Settles.of_others (becomes : scene.Becomes first) (gone : life.stage = .gone)
    (settles : first.Settles (places ∘ place.succAbove) later) :
    scene.Settles places later := by
  have long : first.lives.length = scene.lives.length := by rw [closed, List.length_set]
  constructor
  · exact becomes.trans settles.becomes
  · intro index within apart
    rw [settles.kept index (long ▸ within) fun _ => apart _, closed,
      List.getElem?_set_ne (apart place)]
  · rintro index after (beyond | ⟨other, rfl⟩) there
    · exact settles.gone index after (.inl (long ▸ beyond)) there
    · rcases eq_or_ne other place with rfl | differs
      -- The timer that is gone stays so, as no timer of the others is at its place.
      · have within := holds.lt other
        have alone (rest : Fin owned) : (places ∘ other.succAbove) rest ≠ places other :=
          fun same => other.succAbove_ne rest (holds.apart same)
        rw [settles.kept _ (long ▸ within) alone, closed, List.getElem?_set_self within] at there
        cases there
        exact gone
      · rcases Fin.exists_succAbove_eq differs with ⟨rest, rfl⟩
        exact settles.gone _ after (.inr ⟨rest, rfl⟩) there
  · exact long ▸ settles.grows

end Closing

theorem Holds.starting (holds : scene.Holds timers places) (metric : Metric) {timer : MetricTimer}
    (started : Life.started metric scene.clocks = { timer }) (unstopped : timer.stopped = false) :
    (scene.starting metric).Holds (Fin.snoc timers timer : Fin (owned + 1) → MetricTimer)
      (Fin.snoc places scene.lives.length : Fin (owned + 1) → Nat) where
  there place := by
    cases place using Fin.lastCases with
    | last =>
        rw [Fin.snoc_last, Fin.snoc_last, Scene.starting, started]
        exact List.getElem?_concat_length
    | cast place =>
        rw [Fin.snoc_castSucc, Fin.snoc_castSucc, Scene.starting,
          List.getElem?_append_left (holds.lt place)]
        exact holds.there place
  unstopped place := by
    cases place using Fin.lastCases with
    | last => rwa [Fin.snoc_last]
    | cast place =>
        rw [Fin.snoc_castSucc]
        exact holds.unstopped place
  apart := by
    rw [Fin.snoc_injective_iff]
    refine ⟨holds.apart, ?_⟩
    rintro ⟨place, same⟩
    exact absurd (holds.lt place) (same ▸ Nat.lt_irrefl _)

theorem Settles.of_starting (metric : Metric)
    (settles : (scene.starting metric).Settles
      (Fin.snoc places scene.lives.length : Fin (owned + 1) → Nat) later) :
    scene.Settles places later := by
  have long : (scene.starting metric).lives.length = scene.lives.length + 1 :=
    List.length_append
  have old {index : Nat} (within : index < scene.lives.length) :
      (scene.starting metric).lives[index]? = scene.lives[index]? :=
    List.getElem?_append_left within
  constructor
  · exact .head (.starts metric) settles.becomes
  · intro index within apart
    rw [settles.kept index (by omega), old within]
    intro place
    cases place using Fin.lastCases with
    | last =>
        rw [Fin.snoc_last]
        omega
    | cast place =>
        rw [Fin.snoc_castSucc]
        exact apart place
  · rintro index life (beyond | ⟨place, rfl⟩) there
    · rcases Nat.eq_or_lt_of_le beyond with rfl | beyond
      · exact settles.gone _ life (.inr ⟨Fin.last owned, Fin.snoc_last ..⟩) there
      · exact settles.gone _ life (.inl (long ▸ beyond)) there
    · exact settles.gone _ life (.inr ⟨place.castSucc, Fin.snoc_castSucc ..⟩) there
  · have grows := settles.grows
    omega

section Within

variable {none : Fin 0 → Nat} (inner : scene.Settles none first)
include inner

/-- What a program does within a scope of its own does not touch the timers outside. -/
theorem Holds.outside (holds : scene.Holds timers places) : first.Holds timers places where
  there place := by
    rw [inner.kept _ (holds.lt place) fun none => none.elim0]
    exact holds.there place
  unstopped := holds.unstopped
  apart := holds.apart

theorem Settles.of_within (outer : first.Settles places later) : scene.Settles places later := by
  have grows := inner.grows
  constructor
  · exact inner.becomes.trans outer.becomes
  · intro index within apart
    rw [outer.kept index (by omega) apart, inner.kept index within fun none => none.elim0]
  · rintro index life (beyond | owned) there
    -- A timer of the inner program is gone already, and the outer one does not touch it.
    · by_cases kept : index < first.lives.length ∧ ∀ place, places place ≠ index
      · rw [outer.kept index kept.1 kept.2] at there
        exact inner.gone index life (.inl beyond) there
      · rw [not_and_or, Nat.not_lt, not_forall] at kept
        exact outer.gone index life (kept.imp_right fun ⟨place, same⟩ => ⟨place, not_not.1 same⟩)
          there
    · exact outer.gone index life (.inr owned) there
  · exact grows.trans outer.grows

end Within

end Scene

end Timers

/-! ## Programs as steps -/

namespace Routine

open Timers

variable {world : World Host} {scene : Scene} {owned : Nat}

theorem dropAll_settles (timers : Fin owned → MetricTimer) (places : Fin owned → Nat)
    (holds : scene.Holds timers places) (shows : scene.Shows world) :
    ∃ left later, dropAll timers world = (.ok (), left) ∧ scene.Settles places later ∧
      later.Shows left := by
  induction owned generalizing scene world with
  | zero => exact ⟨world, scene, rfl, .nothing scene places, shows⟩
  | succ owned induction =>
      rcases Scene.drop_becomes shows (holds.there (Fin.last owned))
        (holds.unstopped (Fin.last owned)) with ⟨within, first, drops, becomes, shown, closed⟩
      have others := holds.others closed
      rcases induction _ _ others shown with ⟨left, later, rest, settles, shown⟩
      rw [Fin.succAbove_last] at rest
      refine ⟨left, later, ?_, settles.of_others holds closed becomes rfl, shown⟩
      rw [dropAll, Program.bind_of_ok drops]
      exact rest

def Settles (routine : Routine Host Value owned) (timers : Fin owned → MetricTimer)
    (places : Fin owned → Nat) (scene : Scene) (world : World Host) : Prop :=
  ∃ ending left later, routine.run timers world = (ending, left) ∧
    scene.Settles places later ∧ later.Shows left

theorem run_settles (routine : Routine Host Value owned) (timers : Fin owned → MetricTimer)
    (places : Fin owned → Nat) (holds : scene.Holds timers places) (shows : scene.Shows world) :
    routine.Settles timers places scene world := by
  induction routine generalizing scene world with
  | ends ending =>
      rcases dropAll_settles timers places holds shows with ⟨left, later, drops, settles, shown⟩
      exact ⟨ending, left, later, Program.bind_of_ok drops _, settles, shown⟩
  | acts untimed rest induction =>
      let within := untimed.change world
      let first : Scene := { scene with clocks := within.clocks, stats := within.stats }
      have step : scene.Step first := by
        refine .elsewhere within.clocks within.stats ?_ ?_
        · rw [shows.clocks]
          exact untimed.keepsClocks world
        · rw [shows.stats]
          exact untimed.keepsStats world
      have still : first.Holds timers places := holds.of_same rfl
      rcases induction within timers places still ⟨rfl, rfl⟩ with
        ⟨ending, left, later, runs, settles, shown⟩
      exact ⟨ending, left, later, runs, .of_same (.single step) rfl settles, shown⟩
  | records metric nanoseconds rest induction =>
      rcases Scene.record_becomes shows metric nanoseconds with
        ⟨within, first, records, becomes, shown, same⟩
      rcases induction timers places (holds.of_same same) shown with
        ⟨ending, left, later, runs, settles, shown⟩
      refine ⟨ending, left, later, ?_, .of_same becomes same settles, shown⟩
      rw [run, Program.bind_of_ok records]
      exact runs
  | movesOn clock nanoseconds rest induction =>
      rcases Scene.moveOn_becomes shows clock nanoseconds with
        ⟨within, first, moves, becomes, shown, same, _⟩
      rcases induction timers places (holds.of_same same) shown with
        ⟨ending, left, later, runs, settles, shown⟩
      refine ⟨ending, left, later, ?_, .of_same becomes same settles, shown⟩
      rw [run, Program.bind_of_ok moves]
      exact runs
  | starts metric rest induction =>
      rcases Scene.start_starts shows metric with ⟨timer, starts, started, unstopped, shown⟩
      rcases induction _ _ (holds.starting metric started unstopped) shown with
        ⟨ending, left, later, runs, settles, shown⟩
      refine ⟨ending, left, later, ?_, settles.of_starting metric, shown⟩
      rw [run, Program.bind_of_ok starts]
      exact runs
  | stops place rest induction =>
      rcases Scene.consume_becomes shows (holds.there place) (holds.unstopped place) with
        ⟨elapsed, within, first, stops, becomes, shown, closed⟩
      rcases induction elapsed _ _ (holds.others closed) shown with
        ⟨ending, left, later, runs, settles, shown⟩
      refine ⟨ending, left, later, ?_, settles.of_others holds closed becomes rfl, shown⟩
      rw [run, Program.bind_of_ok stops]
      exact runs
  | drops place rest induction =>
      rcases Scene.drop_becomes shows (holds.there place) (holds.unstopped place) with
        ⟨within, first, drops, becomes, shown, closed⟩
      rcases induction _ _ (holds.others closed) shown with
        ⟨ending, left, later, runs, settles, shown⟩
      refine ⟨ending, left, later, ?_, settles.of_others holds closed becomes rfl, shown⟩
      rw [run, Program.bind_of_ok drops]
      exact runs
  | scope body rest inner outer =>
      rcases inner Fin.elim0 Fin.elim0 (.nothing scene) shows with
        ⟨caught, within, first, runs, inside, shown⟩
      rcases outer caught timers places (holds.outside inside) shown with
        ⟨ending, left, later, continues, settles, shown⟩
      refine ⟨ending, left, later, ?_, inside.of_within settles, shown⟩
      rw [run, Program.bind_of_ok (Program.attempt_apply _ _), runs]
      exact continues

end Routine

namespace Timers

/-! ## The statement -/

/-- Any number of timers and of samples without one, step by step in any interleaving, while
clocks move on. A timer takes nothing as long as it runs and one sample by the time that it is
gone, whoever finishes it, and can always come to its end. Its sample is the time from its
start to when someone was about to finish it, or zero if the clock shows less by then, and is
what they are told who stop it. Each counter of an aggregate has come to the samples that are
past the step that touches it, and so when none is there in part, an aggregate comes to those
that were taken without a timer and those of the timers that are finished. All that programs
do to clocks and aggregates are such steps, and the timers that they own are gone when they
have returned or were unwound through. -/
theorem each_timer_takes_one_sample {opening scene : Scene} (opens : opening.IsOpening)
    (reached : opening.Becomes scene) :
    (∀ (index : Nat) life, scene.lives[index]? = some life →
      life.TakesOnce ∧ scene.CanEnd index ∧
      ∃ begun, opening.Becomes begun ∧ life.Arose index begun scene) ∧
    (∀ stats, (scene.traffic.account stats).Tallied ∧
      ((scene.traffic.account stats).IsAtRest →
        ∀ order, order.Perm (scene.recorded stats ++ scene.timed stats) →
          scene.stats.get stats = MetricStats.empty.recordAll order)) ∧
    ∀ (Host : Type) (world : World Host), scene.Shows world →
      (∀ clock nanoseconds, scene.MovesOn clock nanoseconds world) ∧
      (∀ (index : Nat) timer, scene.lives[index]? = some { timer } →
        scene.Stops index timer world) ∧
      ∀ (Value : Type) (owned : Nat) (routine : Routine Host Value owned) timers places,
        scene.Holds timers places → routine.Settles timers places scene world := by
  have sound := Scene.Becomes.sound reached opens.sound
  refine ⟨?_, ?_, ?_⟩
  · intro index life there
    exact ⟨(sound index life there).takesOnce, Scene.life_canEnd there (sound index life there),
      Scene.Becomes.arose reached opens there⟩
  · intro stats
    have tallied := Scene.Becomes.tallied reached opens stats
    exact ⟨tallied, fun rests _ => Scene.stats_eq_recordAll tallied rests⟩
  · intro Host world shows
    refine ⟨Scene.moveOn_becomes shows, ?_, fun _ _ routine timers places holds =>
      routine.run_settles timers places holds shows⟩
    intro index timer there
    have isOpen : Life.IsOpen { timer } := sound index _ there
    exact Scene.consume_becomes shows there isOpen.stopped

/-- Two timers overlap on one aggregate, by a clock that is about to wrap around. The second
goes out of scope while the first still runs, but its destructor does not come to read the clock
before the first was stopped and the clock has wrapped. Then a sample is taken without a timer,
and a third timer runs on. -/
theorem overlap_ends :
    ∃ opening scene : Scene, opening.IsOpening ∧ opening.Becomes scene ∧
      scene.lives.map (·.answer) = [some 3, none, none] ∧
      (scene.traffic.account ⟨0⟩).IsAtRest ∧ scene.recorded ⟨0⟩ = [9] ∧
      scene.timed ⟨0⟩ = [3, 0] := by
  let sql : Metric := ⟨"sql", true, ⟨0⟩, ⟨0⟩⟩
  let timer : MetricTimer := { metric := sql, start := 18446744073709551611 }
  let stats (samples : List Nat) : Table MetricStats := ⟨[MetricStats.empty.recordAll samples]⟩
  let left : Life := { timer, stage := .leaving }
  let dropped : Life := { timer, stage := .finishing .destructor }
  let stopped : Life := .closed timer .caller 3
  let opening : Scene := ⟨⟨[⟨timer.start⟩]⟩, stats [], [], []⟩
  let clocks := opening.clocks.modify ⟨0⟩ (·.advance 3)
  let wrapped := clocks.modify ⟨0⟩ (·.advance 7)
  have starts : opening.Becomes ⟨clocks, stats [], [{ timer }, left], []⟩ :=
    .head (.starts sql) <| .head (.starts sql) <| .head (.movesOn ⟨0⟩ 3) <|
      .single (.steps 1 { timer } left rfl (.leaves rfl))
  have stops := @Scene.closed_becomes ⟨clocks, stats [], [{ timer }, left], []⟩ 0 timer rfl rfl
    .caller
  have three : timer.elapsed clocks = 3 := by decide +kernel
  rw [three] at stops
  have wraps : Scene.Becomes ⟨clocks, stats [3], [stopped, left], []⟩
      ⟨wrapped, stats [3], [stopped, dropped], []⟩ :=
    .head (.movesOn ⟨0⟩ 7) (.single (.steps 1 left dropped rfl (.finishes rfl rfl)))
  have settles := @Scene.finishing_becomes ⟨wrapped, stats [3], [stopped, dropped], []⟩ 1 dropped
    rfl .destructor ⟨rfl, rfl, rfl⟩ rfl
  have zero : dropped.timer.elapsed wrapped = 0 := by decide +kernel
  rw [zero] at settles
  have records := Scene.recorded_becomes
    ⟨wrapped, stats [3, 0], [stopped, .closed timer .destructor 0], []⟩ sql 9
  refine ⟨opening, _, ⟨fun key => ?_, rfl, rfl⟩, starts.trans <| stops.trans <| wraps.trans <|
    settles.trans <| records.trans <| .single (.starts sql), rfl, ?_, rfl, rfl⟩
  · rcases key with ⟨_ | _⟩ <;> rfl
  · decide

def caught (metric : Metric) : Routine Unit Unit 0 :=
  .starts metric <|
  .scope (.starts metric (.movesOn metric.clock 4 (.ends (.error (.fixed "stop"))))) fun _ =>
  .stops 0 fun _ => .ends (.ok ())

theorem overlap_takes_one_sample_each :
    ∃ opening scene : Scene, opening.IsOpening ∧ opening.Becomes scene ∧
      scene.lives.map (·.answer) = [some 3, none, none] ∧
      (∀ life ∈ scene.lives, life.TakesOnce) ∧
      scene.stats.get ⟨0⟩ = MetricStats.empty.recordAll [0, 3, 9] ∧
      ∃ (world left : World Unit) (later : Scene), scene.Shows world ∧
        (caught ⟨"sql", true, ⟨0⟩, ⟨0⟩⟩).run Fin.elim0 world = (.ok (), left) ∧
        scene.Settles Fin.elim0 later ∧ later.Shows left := by
  rcases overlap_ends with ⟨opening, scene, opens, reached, told, rests, recorded, timed⟩
  have ⟨lives, accounts, programs⟩ := each_timer_takes_one_sample opens reached
  let world : World Unit := { clocks := scene.clocks, stats := scene.stats, host := () }
  have shows : scene.Shows world := ⟨rfl, rfl⟩
  rcases (programs Unit world shows).2.2 Unit 0 (caught ⟨"sql", true, ⟨0⟩, ⟨0⟩⟩) _ _
    (.nothing scene) with ⟨ending, left, later, runs, settles, shown⟩
  have returns : ending = .ok () := (congrArg Prod.fst runs).symm
  refine ⟨opening, scene, opens, reached, told, ?_, ?_, world, left, later, shows,
    returns ▸ runs, settles, shown⟩
  · intro life member
    rcases List.mem_iff_getElem?.1 member with ⟨index, there⟩
    exact (lives index life there).1
  · refine (accounts ⟨0⟩).2 rests [0, 3, 9] ?_
    rw [recorded, timed]
    decide

end Timers

end Instrumentation
