import Instrumentation.Proofs.Collector.Workers

namespace Instrumentation.Workers

/-! The samples behind a finished trace are those that went into the aggregates, each into
the one of the metric that its call was made for. A sample is noted by the step that
records it; the note stays with the call until that is closed, and then with what is
written of it. -/

variable {Fault Value : Type}

/-! ## What a step takes -/

structure Taking (Fault Value : Type) where
  thread : ThreadId
  frame : Frame Fault Value
  sample : Sample

def Taking.record (stats : Table MetricStats) (taking : Taking Fault Value) :
    Table MetricStats :=
  stats.modify taking.frame.metric.stats (·.record taking.sample.nanoseconds)

namespace Worker

/-- The sample that a thread has come to note by a step, as one of its innermost call. -/
def taking? (thread : ThreadId) (worker after : Worker Fault Value) :
    Option (Taking Fault Value) :=
  match worker.control, worker.frames, after.control with
  | .runs _, frame :: _, .leaves _ (some sample) => some { thread, frame, sample }
  | _, _, _ => none

variable {describe : Fault → String} {clock : Nat → UInt64} {thread : ThreadId}
  {shared : Shared} {worker : Worker Fault Value}

theorem taking?_self : worker.taking? thread worker = none := by
  rw [taking?]
  split
  · next runs _ leaves =>
      rw [runs] at leaves
      cases leaves
  · rfl

theorem taking?_of_leaves {script : Script Fault Value} (control : worker.control = .runs script)
    {frame : Frame Fault Value} {frames : List (Frame Fault Value)}
    (innermost : worker.frames = frame :: frames) {after : Worker Fault Value}
    {ending : Ending Fault Value} {sample : Option Sample}
    (noted : after.control = .leaves ending sample) :
    worker.taking? thread after = sample.map ({ thread, frame, sample := · }) := by
  rw [taking?, control, innermost, noted]
  cases sample <;> rfl

theorem thread_of_taking? {after : Worker Fault Value} {taking : Taking Fault Value}
    (taken : taking ∈ worker.taking? thread after) : taking.thread = thread := by
  rw [taking?] at taken
  split at taken
  · cases taken
    rfl
  · cases taken

/-- The sample that a step records is the one that is noted by it. -/
def RecordsTaking (thread : ThreadId) (shared : Shared) (worker : Worker Fault Value)
    (after : Shared × Worker Fault Value) : Prop :=
  after.1.stats = (worker.taking? thread after.2).toList.foldl Taking.record shared.stats

namespace RecordsTaking

theorem idle : RecordsTaking thread shared worker (shared, worker) := by
  rw [RecordsTaking, taking?_self]
  rfl

theorem of_unnoted {after : Shared × Worker Fault Value} (same : after.1.stats = shared.stats)
    (unnoted : ∀ ending sample, after.2.control ≠ .leaves ending (some sample)) :
    RecordsTaking thread shared worker after := by
  rw [RecordsTaking, taking?]
  split
  · next noted => exact absurd noted (unnoted _ _)
  · exact same

theorem takeSample {script : Script Fault Value} (control : worker.control = .runs script)
    {frame : Frame Fault Value} {frames : List (Frame Fault Value)}
    (innermost : worker.frames = frame :: frames) (ending : Ending Fault Value) :
    RecordsTaking thread shared worker (worker.takeSample clock shared frame ending) := by
  rcases worker.takeSample_control clock shared frame ending with ⟨sample, noted⟩
  rw [RecordsTaking, taking?_of_leaves control innermost noted]
  cases sample with
  | none => exact takeSample_records_nothing noted
  | some sample => exact takeSample_records noted

theorem enterRoot (plugin : PluginId) (metric : Metric) (detail : Detail)
    (work : Script Fault Value) (rest : Ending Fault Value → Script Fault Value) :
    RecordsTaking thread shared worker
      (worker.enterRoot clock thread shared plugin metric detail work rest) := by
  rw [Worker.enterRoot]
  split
  · exact .of_unnoted rfl nofun
  · exact .of_unnoted rfl nofun

theorem leave (frame : Frame Fault Value) (frames : List (Frame Fault Value))
    (ending : Ending Fault Value) (sample : Option Sample) :
    RecordsTaking thread shared worker
      (worker.leave describe clock thread shared frame frames ending sample) := by
  rw [Worker.leave]
  rcases frame.entry with _ | ⟨_ | slot⟩ | _
  · dsimp only [Collector.closeTrace]
    refine .of_unnoted rfl ?_
    cases shared.collector.activeOn thread <;> nofun
  · exact .of_unnoted rfl nofun
  · exact .of_unnoted rfl nofun
  · exact .of_unnoted rfl nofun

theorem step : RecordsTaking thread shared worker (worker.step describe clock thread shared) := by
  rw [Worker.step]
  cases control : worker.control with
  | nests => exact .of_unnoted rfl nofun
  | keeps kept rest => exact .of_unnoted rfl nofun
  | leaves ending sample =>
      dsimp only
      cases worker.frames with
      | nil => exact .idle
      | cons frame frames => exact .leave frame frames ending sample
  | runs script =>
      cases script with
      | waits | asks | puts => exact .of_unnoted rfl nofun
      | ends ending =>
          dsimp only
          cases innermost : worker.frames with
          | nil => exact .idle
          | cons frame frames => exact .takeSample control innermost ending
      | calls plugin metric call work rest =>
          cases call with
          | rootSpan detail => exact .enterRoot plugin metric detail work rest
          | span | tryRecord | record => exact .of_unnoted rfl nofun

end RecordsTaking

end Worker

/-! ## What becomes of a note -/

def Timing.Notes (took : Nat → Sample → Prop) (timing : Timing) : Prop :=
  ∀ sample ∈ timing.sample, took timing.start sample

def Kept.Notes (took : Nat → Sample → Prop) (kept : Kept) : Prop :=
  ∀ timing ∈ kept.timing :: kept.spans, timing.Notes took

def Control.Notes (took : Nat → Sample → Prop) (frames : List (Frame Fault Value)) :
    Control Fault Value → Prop
  | .runs _ | .nests .. => True
  | .leaves _ sample => ∀ frame ∈ frames.head?, ∀ taken ∈ sample, took frame.started taken
  | .keeps kept _ => kept.Notes took

/-- All samples that a thread has notes of were taken, each of the call that was entered at
the reading that stands beside it. -/
structure Worker.Notes (took : Nat → Sample → Prop) (worker : Worker Fault Value) : Prop where
  control : worker.control.Notes took worker.frames
  timings : ∀ timing ∈ worker.timings, timing.Notes took
  kept : ∀ kept ∈ worker.kept, kept.Notes took

section Implies

variable {took more : Nat → Sample → Prop}
  (implies : ∀ start sample, took start sample → more start sample)
include implies

theorem Timing.Notes.imp {timing : Timing} (notes : timing.Notes took) : timing.Notes more :=
  fun sample taken => implies timing.start sample (notes sample taken)

theorem Kept.Notes.imp {kept : Kept} (notes : kept.Notes took) : kept.Notes more :=
  fun timing member => (notes timing member).imp implies

theorem Control.Notes.imp {control : Control Fault Value} {frames : List (Frame Fault Value)}
    (notes : control.Notes took frames) : control.Notes more frames := by
  cases control with
  | runs | nests => trivial
  | leaves ending sample =>
      exact fun frame innermost taken noted =>
        implies frame.started taken (notes frame innermost taken noted)
  | keeps kept rest => exact Kept.Notes.imp implies notes

theorem Worker.Notes.imp {worker : Worker Fault Value} (notes : worker.Notes took) :
    worker.Notes more where
  control := notes.control.imp implies
  timings timing member := (notes.timings timing member).imp implies
  kept kept member := (notes.kept kept member).imp implies

end Implies

namespace Worker.Notes

variable {describe : Fault → String} {clock : Nat → UInt64} {thread : ThreadId}
  {shared : Shared} {worker : Worker Fault Value} {took : Nat → Sample → Prop}

theorem enterSpan (notes : worker.Notes took) (metric : Metric) (detail : Detail)
    (work : Script Fault Value) (rest : Ending Fault Value → Script Fault Value) :
    (worker.enterSpan clock thread shared metric detail work rest).2.Notes took := by
  refine ⟨trivial, ?_, notes.kept⟩
  rw [Worker.enterSpan]
  rcases shared.collector.enterSpan thread metric.name detail (clock worker.reads) with
    ⟨_ | slot, collector⟩
  · exact notes.timings
  · refine List.forall_mem_append.mpr ⟨notes.timings, ?_⟩
    exact List.forall_mem_singleton.mpr nofun

theorem enterRoot (notes : worker.Notes took) (plugin : PluginId) (metric : Metric)
    (detail : Detail) (work : Script Fault Value)
    (rest : Ending Fault Value → Script Fault Value) :
    (worker.enterRoot clock thread shared plugin metric detail work rest).2.Notes took := by
  rw [Worker.enterRoot]
  split
  · exact ⟨trivial, notes.timings, notes.kept⟩
  · exact ⟨trivial, List.forall_mem_nil _, notes.kept⟩

theorem leave (notes : worker.Notes took) {frame : Frame Fault Value}
    (frames : List (Frame Fault Value)) (ending : Ending Fault Value) {sample : Option Sample}
    (noted : ∀ taken ∈ sample, took frame.started taken) :
    (worker.leave describe clock thread shared frame frames ending sample).2.Notes took := by
  rw [Worker.leave]
  rcases frame.entry with _ | ⟨_ | slot⟩ | _
  · dsimp only [Collector.closeTrace]
    refine ⟨?_, notes.timings, notes.kept⟩
    cases shared.collector.activeOn thread with
    | none => trivial
    | some trace => exact List.forall_mem_cons.mpr ⟨noted, notes.timings⟩
  · exact ⟨trivial, notes.timings, notes.kept⟩
  · refine ⟨trivial, ?_, notes.kept⟩
    intro timing member
    rcases List.mem_or_eq_of_mem_set member with before | rfl
    · exact notes.timings timing before
    · exact noted
  · exact ⟨trivial, notes.timings, notes.kept⟩

theorem takeSample (notes : worker.Notes took) {script : Script Fault Value}
    (control : worker.control = .runs script) {frame : Frame Fault Value}
    {frames : List (Frame Fault Value)} (innermost : worker.frames = frame :: frames)
    (ending : Ending Fault Value)
    (takes : ∀ taking ∈ worker.taking? thread (worker.takeSample clock shared frame ending).2,
      took taking.frame.started taking.sample) :
    (worker.takeSample clock shared frame ending).2.Notes took := by
  cases ending with
  | error payload => exact ⟨fun _ _ => nofun, notes.timings, notes.kept⟩
  | ok result =>
      refine ⟨?_, notes.timings, notes.kept⟩
      intro other head taken noted
      rw [Worker.takeSample, innermost] at head
      cases head
      cases noted
      refine takes { thread, frame, sample := _ } ?_
      rw [taking?_of_leaves control innermost rfl]
      rfl

theorem step (notes : worker.Notes took)
    (takes : ∀ taking ∈ worker.taking? thread (worker.step describe clock thread shared).2,
      took taking.frame.started taking.sample) :
    (worker.step describe clock thread shared).2.Notes took := by
  have noted := notes.control
  rw [Worker.step] at takes ⊢
  cases control : worker.control with
  | nests metric detail work rest => exact notes.enterSpan metric detail work rest
  | keeps kept rest =>
      rw [control] at noted
      refine ⟨trivial, notes.timings, ?_⟩
      exact List.forall_mem_append.mpr ⟨notes.kept, List.forall_mem_singleton.mpr noted⟩
  | leaves ending sample =>
      rw [control] at noted
      dsimp only
      cases innermost : worker.frames with
      | nil => exact notes
      | cons frame frames =>
          rw [innermost] at noted
          exact notes.leave frames ending (noted frame rfl)
  | runs script =>
      cases script with
      | waits | asks | puts => exact ⟨trivial, notes.timings, notes.kept⟩
      | ends ending =>
          rw [control] at takes
          dsimp only at takes ⊢
          cases innermost : worker.frames with
          | nil => exact notes
          | cons frame frames =>
              rw [innermost] at takes
              exact notes.takeSample control innermost ending takes
      | calls plugin metric call work rest =>
          cases call with
          | rootSpan detail => exact notes.enterRoot plugin metric detail work rest
          | span detail => exact notes.enterSpan metric detail work rest
          | tryRecord | record => exact ⟨trivial, notes.timings, notes.kept⟩

end Worker.Notes

/-! ## Runs -/

/-- The sample is one of these, taken by the thread in the call that it entered at this
reading. -/
def IsTaken (takings : List (Taking Fault Value)) (thread : ThreadId) (start : Nat)
    (sample : Sample) : Prop :=
  ∃ taking ∈ takings, taking.thread = thread ∧ taking.frame.started = start ∧
    taking.sample = sample

namespace Scene

variable (describe : Fault → String) (readings : Readings)

def taking? (scene : Scene Fault Value) : Turn → Option (Taking Fault Value)
  | .of thread =>
      (scene.workers thread).taking? thread
        ((scene.step describe readings (.of thread)).workers thread)
  | .drain => none

/-- The samples that are taken in the course of some turns, in this order. -/
def takings (scene : Scene Fault Value) : List Turn → List (Taking Fault Value)
  | [] => []
  | turn :: turns =>
      (scene.taking? describe readings turn).toList ++
        (scene.step describe readings turn).takings turns

theorem stats_step (scene : Scene Fault Value) (turn : Turn) :
    (scene.step describe readings turn).shared.stats =
      (scene.taking? describe readings turn).toList.foldl Taking.record scene.shared.stats := by
  cases turn with
  | drain => rfl
  | of thread =>
      rw [taking?, workers_step_same]
      exact Worker.RecordsTaking.step

theorem stats_after (scene : Scene Fault Value) (turns : List Turn) :
    (scene.after describe readings turns).shared.stats =
      (scene.takings describe readings turns).foldl Taking.record scene.shared.stats := by
  induction turns generalizing scene with
  | nil => rfl
  | cons turn turns induction =>
      rw [takings, List.foldl_append, ← stats_step]
      exact induction (scene.step describe readings turn)

theorem notes_step {scene : Scene Fault Value} {takings : List (Taking Fault Value)}
    (notes : ∀ thread, (scene.workers thread).Notes (IsTaken takings thread)) (turn : Turn)
    (thread : ThreadId) :
    ((scene.step describe readings turn).workers thread).Notes
      (IsTaken (takings ++ (scene.taking? describe readings turn).toList) thread) := by
  have before : (scene.workers thread).Notes
      (IsTaken (takings ++ (scene.taking? describe readings turn).toList) thread) :=
    (notes thread).imp fun _ _ ⟨taking, member, same⟩ =>
      ⟨taking, List.mem_append_left _ member, same⟩
  cases turn with
  | drain => exact before
  | of mover =>
      by_cases own : thread = mover
      · subst own
        rw [workers_step_same]
        refine before.step fun taking taken => ?_
        refine ⟨taking, List.mem_append_right _ ?_, Worker.thread_of_taking? taken, rfl, rfl⟩
        rw [taking?, workers_step_same]
        exact Option.mem_toList.mpr taken
      · rw [workers_step_other own]
        exact before

theorem notes_after {scene : Scene Fault Value} {takings : List (Taking Fault Value)}
    (notes : ∀ thread, (scene.workers thread).Notes (IsTaken takings thread)) (turns : List Turn)
    (thread : ThreadId) :
    ((scene.after describe readings turns).workers thread).Notes
      (IsTaken (takings ++ scene.takings describe readings turns) thread) := by
  induction turns generalizing scene takings with
  | nil =>
      rw [Scene.takings, List.append_nil]
      exact notes thread
  | cons turn turns induction =>
      rw [Scene.takings, ← List.append_assoc]
      exact induction (notes_step describe readings notes turn)

end Scene

/-! ## Main statement -/

/-- Whatever turns threads take, the aggregates have come to the samples that were taken,
each recorded for the metric of its call. Every sample behind a finished trace is among
these, as that of the call which the trace or the span was entered by. -/
theorem noted_samples_are_recorded (describe : Fault → String) (readings : Readings)
    (shared : Shared) (scripts : ThreadId → Script Fault Value) (turns : List Turn) :
    let opening := Scene.opening shared scripts
    let scene := opening.after describe readings turns
    let takings := opening.takings describe readings turns
    scene.shared.stats = takings.foldl Taking.record shared.stats ∧
      ∀ thread, ∀ kept ∈ (scene.workers thread).kept, ∀ timing ∈ kept.timing :: kept.spans,
        ∀ sample ∈ timing.sample, IsTaken takings thread timing.start sample := by
  refine ⟨Scene.stats_after describe readings _ turns, ?_⟩
  intro thread kept member
  have opening (thread : ThreadId) : ((Scene.opening shared scripts).workers thread).Notes
      (IsTaken ([] : List (Taking Fault Value)) thread) :=
    ⟨trivial, List.forall_mem_nil _, List.forall_mem_nil _⟩
  exact (Scene.notes_after describe readings opening turns thread).kept kept member

end Instrumentation.Workers
