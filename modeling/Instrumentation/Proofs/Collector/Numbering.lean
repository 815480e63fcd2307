import Instrumentation.Proofs.Collector.Isolation

namespace Instrumentation.Workers

/-! Traces are told apart by their numbers. A trace gets its number when it is opened and
has it until it is kept, so that a thread never has more than one number underway; and no
number is ever given twice. -/

variable {Fault Value : Type} {describe : Fault → String} {thread : ThreadId}

/-! ## The number of a thread -/

def numberOf (thread : ThreadId) (point : Shared × Worker Fault Value) : Option Nat :=
  match point.2.control with
  | .keeps kept _ => some kept.trace.number
  | .runs _ | .nests _ _ _ _ | .leaves _ _ =>
      (point.1.collector.activeOn thread).map OpenTrace.number

def KeepsAlone (thread : ThreadId) (point : Shared × Worker Fault Value) : Prop :=
  ∀ kept rest, point.2.control = .keeps kept rest → point.1.collector.activeOn thread = none

inductive Numbers (thread : ThreadId) (before after : Shared × Worker Fault Value) : Prop
  | same (traces : after.1.traces = before.1.traces)
      (number : numberOf thread after = numberOf thread before)
  | given (traces : after.1.traces = before.1.traces + 1)
      (number : numberOf thread after = some before.1.traces)
  | gone (traces : after.1.traces = before.1.traces) (number : numberOf thread after = none)

section Steps

variable (clock : Nat → UInt64) (shared : Shared) (worker : Worker Fault Value)

theorem number_enterSpan (collector : Collector) (metric : String) (detail : Detail)
    (start : UInt64) :
    ((collector.enterSpan thread metric detail start).2.activeOn thread).map OpenTrace.number =
      (collector.activeOn thread).map OpenTrace.number := by
  rw [Collector.enterSpan]
  cases active : collector.activeOn thread with
  | none => exact congrArg (Option.map OpenTrace.number) active
  | some trace => simp [OpenTrace.enterSpan]

theorem number_leaveSpan (collector : Collector) (slot duration : Nat) (outcome : Outcome) :
    ((collector.leaveSpan thread slot duration outcome).activeOn thread).map OpenTrace.number =
      (collector.activeOn thread).map OpenTrace.number := by
  rw [Collector.leaveSpan]
  cases active : collector.activeOn thread with
  | none => exact congrArg (Option.map OpenTrace.number) active
  | some trace => simp [OpenTrace.leaveSpan]

theorem number_putAttribute (collector : Collector) (name value : String) :
    ((collector.putAttribute thread name value).2.activeOn thread).map OpenTrace.number =
      (collector.activeOn thread).map OpenTrace.number := by
  rw [Collector.putAttribute]
  cases active : collector.activeOn thread with
  | none => exact congrArg (Option.map OpenTrace.number) active
  | some trace =>
      dsimp only
      split
      · simp [OpenTrace.putAttribute]
      · exact congrArg (Option.map OpenTrace.number) active

theorem numbers_leave (frame : Frame Fault Value) (frames : List (Frame Fault Value))
    (ending : Ending Fault Value) (sample : Option Sample)
    (leaving : worker.control = .leaves ending sample) :
    Numbers thread (shared, worker)
      (worker.leave describe clock thread shared frame frames ending sample) := by
  rw [Worker.leave]
  rcases frame.entry with _ | ⟨_ | slot⟩ | _
  · cases active : shared.collector.activeOn thread with
    | none =>
        refine .gone rfl ?_
        simp [numberOf, Collector.closeTrace, active]
    | some trace =>
        refine .same rfl ?_
        simp [numberOf, Collector.closeTrace, active, leaving, OpenTrace.complete]
  · exact .same rfl (by simp [numberOf, leaving])
  · exact .same rfl (by simp [numberOf, leaving, number_leaveSpan])
  · exact .same rfl (by simp [numberOf, leaving])

theorem numbers_enterRoot (plugin : PluginId) (metric : Metric) (detail : Detail)
    (work : Script Fault Value) (rest : Ending Fault Value → Script Fault Value)
    {script : Script Fault Value} (running : worker.control = .runs script) :
    Numbers thread (shared, worker)
      (worker.enterRoot clock thread shared plugin metric detail work rest) := by
  rw [Worker.enterRoot]
  split
  · exact .same rfl (by simp [numberOf, running])
  · next opens =>
      refine .given rfl ?_
      rw [(Collector.openTrace_eq_some opens).2]
      simp [numberOf, Worker.within]

/-- Only a root span that opens a trace is given a number. -/
theorem numbers_step (alone : KeepsAlone thread (shared, worker)) :
    Numbers thread (shared, worker) (worker.step describe clock thread shared) := by
  rw [Worker.step]
  cases doing : worker.control with
  | nests metric detail work rest =>
      exact .same rfl (by simp [numberOf, Worker.enterSpan, Worker.within, doing,
        number_enterSpan])
  | keeps kept rest =>
      have closed : shared.collector.activeOn thread = none := alone kept rest doing
      refine .gone rfl ?_
      exact congrArg (Option.map OpenTrace.number) closed
  | leaves ending sample =>
      cases worker.frames with
      | nil => exact .same rfl rfl
      | cons frame frames =>
          exact numbers_leave clock shared worker frame frames ending sample doing
  | runs script =>
      cases script with
      | waits | asks => exact .same rfl (by simp [numberOf, doing])
      | puts => exact .same rfl (by simp [numberOf, doing, number_putAttribute])
      | ends ending =>
          cases worker.frames with
          | nil => exact .same rfl rfl
          | cons frame frames =>
              cases ending <;> exact .same rfl (by simp [numberOf, Worker.takeSample, doing])
      | calls plugin metric call work rest =>
          cases call with
          | rootSpan detail =>
              exact numbers_enterRoot clock shared worker plugin metric detail work rest doing
          | span detail =>
              exact .same rfl (by simp [numberOf, Worker.enterSpan, Worker.within, doing,
                number_enterSpan])
          | tryRecord | record => exact .same rfl (by simp [numberOf, Worker.within, doing])

theorem keepsAlone_leave (frame : Frame Fault Value) (frames : List (Frame Fault Value))
    (ending : Ending Fault Value) (sample : Option Sample) :
    KeepsAlone thread
      (worker.leave describe clock thread shared frame frames ending sample) := by
  rw [Worker.leave]
  rcases frame.entry with _ | ⟨_ | slot⟩ | _
  · exact fun _ _ _ => shared.collector.activeOn_setActive thread none
  · rintro kept rest ⟨⟩
  · rintro kept rest ⟨⟩
  · rintro kept rest ⟨⟩

theorem keepsAlone_step (alone : KeepsAlone thread (shared, worker)) :
    KeepsAlone thread (worker.step describe clock thread shared) := by
  rw [Worker.step]
  cases doing : worker.control with
  | nests => rintro kept rest ⟨⟩
  | keeps => rintro kept rest ⟨⟩
  | leaves ending sample =>
      cases worker.frames with
      | nil => exact alone
      | cons frame frames => exact keepsAlone_leave clock shared worker frame frames ending sample
  | runs script =>
      cases script with
      | waits | asks | puts => rintro kept rest ⟨⟩
      | ends ending =>
          cases worker.frames with
          | nil => exact alone
          | cons frame frames => cases ending <;> rintro kept rest ⟨⟩
      | calls plugin metric call work rest =>
          cases call with
          | rootSpan detail =>
              intro kept later keeping
              dsimp only [Worker.enterRoot] at keeping
              split at keeping <;> cases keeping
          | span | tryRecord | record => rintro kept rest ⟨⟩

end Steps

/-! ## The numbers of all threads -/

namespace Scene

variable (describe : Fault → String) (readings : Readings) (scene : Scene Fault Value)

def completes (scene : Scene Fault Value) : Turn → Option CompletedTrace
  | .drain => none
  | .of thread =>
      match (scene.workers thread).control with
      | .keeps kept _ => some kept.trace
      | .runs _ | .nests _ _ _ _ | .leaves _ _ => none

def numberOn (scene : Scene Fault Value) (thread : ThreadId) : Option Nat :=
  numberOf thread (scene.pointOf thread)

/-- No number was given twice: neither to traces that are underway or about to be kept,
nor to those that have been completed. -/
structure Numbered (scene : Scene Fault Value) (completed : List CompletedTrace) : Prop where
  alone : ∀ thread, KeepsAlone thread (scene.pointOf thread)
  given : ∀ thread number, scene.numberOn thread = some number → number < scene.shared.traces
  apart : ∀ thread other number, scene.numberOn thread = some number →
    scene.numberOn other = some number → other = thread
  new : ∀ thread number, scene.numberOn thread = some number →
    number ∉ completed.map CompletedTrace.number
  below : ∀ number ∈ completed.map CompletedTrace.number, number < scene.shared.traces
  distinct : (completed.map CompletedTrace.number).Nodup

theorem numberOf_elsewhere {turn : Turn} (elsewhere : turn ≠ .of thread) :
    (scene.step describe readings turn).numberOn thread = scene.numberOn thread := by
  have ⟨_, active, worker⟩ := scene.step_elsewhere describe readings elsewhere
  rw [collector, collector] at active
  rw [numberOn, numberOn, numberOf, numberOf, pointOf, pointOf, worker, active]

theorem keepsAlone_elsewhere {turn : Turn} (elsewhere : turn ≠ .of thread)
    (alone : KeepsAlone thread (scene.pointOf thread)) :
    KeepsAlone thread ((scene.step describe readings turn).pointOf thread) := by
  have ⟨_, active, worker⟩ := scene.step_elsewhere describe readings elsewhere
  intro kept rest keeping
  rw [pointOf, worker] at keeping
  exact active.trans (alone kept rest keeping)

theorem numbers_of (mover : ThreadId) (alone : KeepsAlone mover (scene.pointOf mover)) :
    Numbers mover (scene.pointOf mover)
      ((scene.step describe readings (.of mover)).pointOf mover) := by
  rw [pointOf, pointOf, workers_step_same]
  exact numbers_step (readings mover) scene.shared (scene.workers mover) alone

namespace Numbered

variable {scene} {completed : List CompletedTrace} {mover : ThreadId}

theorem completing (numbered : scene.Numbered completed) {trace : CompletedTrace}
    (completes : scene.completes (.of mover) = some trace) :
    scene.numberOn mover = some trace.number ∧
      (scene.step describe readings (.of mover)).numberOn mover = none ∧
      (scene.step describe readings (.of mover)).shared.traces = scene.shared.traces := by
  cases doing : (scene.workers mover).control with
  | runs | nests | leaves => simp [Scene.completes, doing] at completes
  | keeps kept rest =>
      have closed : scene.shared.collector.activeOn mover = none :=
        numbered.alone mover kept rest doing
      rw [Scene.completes, doing] at completes
      cases completes
      have moved : (scene.step describe readings (.of mover)).pointOf mover =
          ({ scene.shared with collector := scene.shared.collector.push kept.trace },
            { scene.workers mover with
              control := .runs rest, kept := (scene.workers mover).kept ++ [kept] }) := by
        rw [pointOf, workers_step_same, Scene.step, Worker.step, doing]
      refine ⟨?_, ?_, ?_⟩
      · rw [numberOn, numberOf, pointOf, doing]
      · rw [numberOn, moved]
        exact congrArg (Option.map OpenTrace.number) closed
      · exact congrArg (fun point => point.1.traces) moved

/-- What a thread does with its number leaves it one that no other thread has and no trace
had. -/
theorem number_step (numbered : scene.Numbered completed) (mover : ThreadId) :
    scene.shared.traces ≤ (scene.step describe readings (.of mover)).shared.traces ∧
      ∀ number, (scene.step describe readings (.of mover)).numberOn mover = some number →
        number < (scene.step describe readings (.of mover)).shared.traces ∧
        (∀ other, other ≠ mover → scene.numberOn other ≠ some number) ∧
        number ∉ completed.map CompletedTrace.number := by
  cases scene.numbers_of describe readings mover (numbered.alone mover) with
  | same traces same =>
      have same : (scene.step describe readings (.of mover)).numberOn mover =
          scene.numberOn mover := same
      have traces : (scene.step describe readings (.of mover)).shared.traces =
          scene.shared.traces := traces
      rw [same, traces]
      refine ⟨Nat.le_refl _, fun number has => ⟨numbered.given mover number has, ?_,
        numbered.new mover number has⟩⟩
      exact fun other different otherHas =>
        different (numbered.apart mover other number has otherHas)
  | given traces given =>
      have given : (scene.step describe readings (.of mover)).numberOn mover =
          some scene.shared.traces := given
      have traces : (scene.step describe readings (.of mover)).shared.traces =
          scene.shared.traces + 1 := traces
      rw [given, traces]
      refine ⟨Nat.le_succ _, ?_⟩
      rintro number ⟨⟩
      -- A number that is given was below no earlier count.
      refine ⟨Nat.lt_succ_self _, ?_, ?_⟩
      · exact fun other _ has => Nat.lt_irrefl _ (numbered.given other _ has)
      · exact fun before => Nat.lt_irrefl _ (numbered.below _ before)
  | gone traces none =>
      have none : (scene.step describe readings (.of mover)).numberOn mover = Option.none := none
      have traces : (scene.step describe readings (.of mover)).shared.traces =
          scene.shared.traces := traces
      rw [none, traces]
      exact ⟨Nat.le_refl _, nofun⟩

theorem moved (numbered : scene.Numbered completed) (mover : ThreadId) :
    (scene.step describe readings (.of mover)).Numbered completed := by
  have ⟨grows, own⟩ := numbered.number_step describe readings mover
  have others (thread : ThreadId) (different : thread ≠ mover) :
      (scene.step describe readings (.of mover)).numberOn thread = scene.numberOn thread :=
    scene.numberOf_elsewhere describe readings fun same => different (Turn.of.inj same).symm
  constructor
  · intro thread
    by_cases same : thread = mover
    · rw [same, pointOf, workers_step_same]
      exact keepsAlone_step (readings mover) scene.shared (scene.workers mover)
        (numbered.alone mover)
    · exact scene.keepsAlone_elsewhere describe readings
        (fun moved => same (Turn.of.inj moved).symm) (numbered.alone thread)
  · intro thread number has
    by_cases same : thread = mover
    · exact (own number (same ▸ has)).1
    · rw [others thread same] at has
      exact Nat.lt_of_lt_of_le (numbered.given thread number has) grows
  · intro thread other number has otherHas
    by_cases same : thread = mover <;> by_cases otherSame : other = mover
    · rw [same, otherSame]
    · rw [others other otherSame] at otherHas
      exact absurd otherHas ((own number (same ▸ has)).2.1 other otherSame)
    · rw [others thread same] at has
      exact absurd has ((own number (otherSame ▸ otherHas)).2.1 thread same)
    · rw [others thread same] at has
      rw [others other otherSame] at otherHas
      exact numbered.apart thread other number has otherHas
  · intro thread number has
    by_cases same : thread = mover
    · exact (own number (same ▸ has)).2.2
    · rw [others thread same] at has
      exact numbered.new thread number has
  · exact fun number member => Nat.lt_of_lt_of_le (numbered.below number member) grows
  · exact numbered.distinct

theorem added (numbered : scene.Numbered completed) {trace : CompletedTrace}
    (given : trace.number < scene.shared.traces)
    (gone : ∀ thread, scene.numberOn thread ≠ some trace.number)
    (new : trace.number ∉ completed.map CompletedTrace.number) :
    scene.Numbered (completed ++ [trace]) where
  alone := numbered.alone
  given := numbered.given
  apart := numbered.apart
  new thread number has := by
    rw [List.map_append, List.mem_append, List.map_singleton, List.mem_singleton]
    rintro (earlier | rfl)
    · exact numbered.new thread number has earlier
    · exact gone thread has
  below number member := by
    rw [List.map_append, List.mem_append, List.map_singleton, List.mem_singleton] at member
    rcases member with earlier | rfl
    · exact numbered.below number earlier
    · exact given
  distinct := by
    rw [List.map_append, List.map_singleton, List.nodup_append]
    refine ⟨numbered.distinct, List.pairwise_singleton _ _, ?_⟩
    rintro earlier member _ (last | ⟨_, ⟨⟩⟩) rfl
    exact new member

theorem step (numbered : scene.Numbered completed) (turn : Turn) :
    (scene.step describe readings turn).Numbered
      (completed ++ (scene.completes turn).toList) := by
  cases turn with
  | drain =>
      rw [show scene.completes .drain = none from rfl, Option.toList_none, List.append_nil]
      exact ⟨numbered.alone, numbered.given, numbered.apart, numbered.new, numbered.below,
        numbered.distinct⟩
  | of mover =>
      cases completes : scene.completes (.of mover) with
      | none =>
          rw [Option.toList_none, List.append_nil]
          exact numbered.moved describe readings mover
      | some trace =>
          have ⟨had, gone, traces⟩ := numbered.completing describe readings completes
          refine (numbered.moved describe readings mover).added ?_ ?_ (numbered.new mover _ had)
          · rw [traces]
            exact numbered.given mover _ had
          · intro thread has
            by_cases same : thread = mover
            · rw [same, gone] at has
              cases has
            · rw [scene.numberOf_elsewhere describe readings
                fun moved => same (Turn.of.inj moved).symm] at has
              exact same (numbered.apart mover thread _ had has)

end Numbered

theorem numbered_opening {shared : Shared} (scripts : ThreadId → Script Fault Value)
    (untraced : ∀ thread, shared.collector.activeOn thread = none) :
    (opening shared scripts).Numbered [] := by
  have unnumbered (thread : ThreadId) : (opening shared scripts).numberOn thread = none :=
    congrArg (Option.map OpenTrace.number) (untraced thread)
  constructor
  · rintro thread kept rest ⟨⟩
  · intro thread number has
    rw [unnumbered] at has
    cases has
  · intro thread other number has
    rw [unnumbered] at has
    cases has
  · exact fun _ _ _ => List.not_mem_nil
  · exact fun _ member => absurd member List.not_mem_nil
  · exact List.nodup_nil

end Scene

end Instrumentation.Workers
