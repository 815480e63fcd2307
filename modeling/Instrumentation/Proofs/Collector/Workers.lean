import Instrumentation.Proofs.Collector.Entries
import Mathlib.Logic.Function.Basic

namespace Instrumentation.Workers

/-! Threads that run programs on one collector, each its own. A thread takes its program
step by step, and between any two of its steps others may take theirs. A step is a section
under one lock, with the reading of the clock before it, or a reading with the sample that
is taken then; nothing interrupts it. What the clock shows at each reading of a thread is
given beforehand, so that a thread by itself has only one way to go. -/

variable {Fault Value : Type}

/-! ## Programs -/

abbrev Ending (Fault Value : Type) := Except Payload (Except Fault Value)

inductive Script (Fault Value : Type) where
  | ends (ending : Ending Fault Value)
  | waits (nanoseconds : Nat) (rest : Script Fault Value)
  | puts (plugin : PluginId) (name value : String)
      (rest : Except Error Unit → Script Fault Value)
  | asks (plugin : PluginId) (rest : Except Error (Option Detail) → Script Fault Value)
  | calls (plugin : PluginId) (metric : Metric) (call : Call) (work : Script Fault Value)
      (rest : Ending Fault Value → Script Fault Value)

/-! ## Threads -/

structure Sample where
  reading : Nat
  nanoseconds : Nat

/-- The readings behind what is written of a call: the readings of a thread are numbered
as they are made. -/
structure Timing where
  start : Nat
  sample : Option Sample := none
  finish : Nat

def Timing.begun (start : Nat) : Timing where
  start
  finish := start

structure Frame (Fault Value : Type) where
  entry : Entry
  metric : Metric
  /-- The number of the reading at which it was entered. -/
  started : Nat
  rest : Ending Fault Value → Script Fault Value

structure Kept where
  trace : CompletedTrace
  timing : Timing
  spans : List Timing

inductive Control (Fault Value : Type) where
  | runs (script : Script Fault Value)
  /-- A root span was refused and is about to be entered as a span. -/
  | nests (metric : Metric) (detail : Detail) (work : Script Fault Value)
      (rest : Ending Fault Value → Script Fault Value)
  /-- The innermost call is about to be closed; its sample was taken if its work returned. -/
  | leaves (ending : Ending Fault Value) (sample : Option Sample)
  | keeps (kept : Kept) (rest : Script Fault Value)

inductive Answer where
  | put (fate : Collector.AttributeFate)
  | rootDetail (detail : Option Detail)
  deriving DecidableEq

structure Worker (Fault Value : Type) where
  control : Control Fault Value
  frames : List (Frame Fault Value) := []
  reads : Nat := 0
  timings : List Timing := []
  answers : List Answer := []
  kept : List Kept := []

structure Shared where
  collector : Collector
  stats : Table MetricStats := {}
  traces : Nat := 0

/-! ## Steps -/

namespace Worker

section Step

variable (describe : Fault → String) (clock : Nat → UInt64) (thread : ThreadId)
  (shared : Shared) (worker : Worker Fault Value)

def within (entry : Entry) (metric : Metric) (work : Script Fault Value)
    (rest : Ending Fault Value → Script Fault Value) : Worker Fault Value :=
  { worker with
    control := .runs work
    frames := { entry, metric, started := worker.reads, rest } :: worker.frames
    reads := worker.reads + 1 }

def enterSpan (metric : Metric) (detail : Detail) (work : Script Fault Value)
    (rest : Ending Fault Value → Script Fault Value) : Shared × Worker Fault Value :=
  let (slot, collector) :=
    shared.collector.enterSpan thread metric.name detail (clock worker.reads)
  let timings := match slot with
    | none => worker.timings
    | some _ => worker.timings ++ [.begun worker.reads]
  ({ shared with collector }, { worker.within (.span slot) metric work rest with timings })

def enterRoot (plugin : PluginId) (metric : Metric) (detail : Detail)
    (work : Script Fault Value) (rest : Ending Fault Value → Script Fault Value) :
    Shared × Worker Fault Value :=
  let trace : OpenTrace :=
    { number := shared.traces, plugin, start := clock worker.reads, metric := metric.name
      detail }
  match shared.collector.openTrace thread trace with
  | none =>
      (shared,
        { worker with control := .nests metric detail work rest, reads := worker.reads + 1 })
  | some collector =>
      ({ shared with collector, traces := shared.traces + 1 },
        { worker.within .root metric work rest with timings := [] })

/-- The work of a call has ended. A sample is taken only if it returned. -/
def takeSample (frame : Frame Fault Value) (ending : Ending Fault Value) :
    Shared × Worker Fault Value :=
  match ending with
  | .error _ => (shared, { worker with control := .leaves ending none })
  | .ok _ =>
      let nanoseconds := Clock.between (clock frame.started) (clock worker.reads)
      ({ shared with stats := shared.stats.modify frame.metric.stats (·.record nanoseconds) },
        { worker with
          control := .leaves ending (some ⟨worker.reads, nanoseconds⟩)
          reads := worker.reads + 1 })

theorem takeSample_control (frame : Frame Fault Value) (ending : Ending Fault Value) :
    ∃ sample, (worker.takeSample clock shared frame ending).2.control = .leaves ending sample := by
  cases ending with
  | error payload => exact ⟨none, rfl⟩
  | ok result => exact ⟨_, rfl⟩

section TakeSample

variable {clock shared worker} {frame : Frame Fault Value} {ending : Ending Fault Value}

/-- A sample is noted by the step that records it: what the aggregate of the metric gets is
the number that is kept of the call. -/
theorem takeSample_records {sample : Sample}
    (noted : (worker.takeSample clock shared frame ending).2.control =
      .leaves ending (some sample)) :
    (worker.takeSample clock shared frame ending).1.stats =
      shared.stats.modify frame.metric.stats (·.record sample.nanoseconds) := by
  cases ending with
  | error payload => cases noted
  | ok result =>
      cases noted
      rfl

theorem takeSample_records_nothing
    (noted : (worker.takeSample clock shared frame ending).2.control = .leaves ending none) :
    (worker.takeSample clock shared frame ending).1.stats = shared.stats := by
  cases ending with
  | error payload => rfl
  | ok result => cases noted

end TakeSample

def leave (frame : Frame Fault Value) (frames : List (Frame Fault Value))
    (ending : Ending Fault Value) (sample : Option Sample) : Shared × Worker Fault Value :=
  let timing : Timing := { start := frame.started, sample, finish := worker.reads }
  let duration := Clock.between (clock frame.started) (clock worker.reads)
  let outcome := Outcome.ofEnding describe ending
  match frame.entry with
  | .sample | .span none =>
      (shared, { worker with control := .runs (frame.rest ending), frames })
  | .span (some slot) =>
      ({ shared with collector := shared.collector.leaveSpan thread slot duration outcome },
        { worker with
          control := .runs (frame.rest ending)
          frames
          reads := worker.reads + 1
          timings := worker.timings.set slot timing })
  | .root =>
      let (closed, collector) := shared.collector.closeTrace thread
      let control := match closed with
        | none => .runs (frame.rest ending)
        | some trace =>
            .keeps { trace := trace.complete duration outcome, timing, spans := worker.timings }
              (frame.rest ending)
      ({ shared with collector }, { worker with control, frames, reads := worker.reads + 1 })

def step : Shared × Worker Fault Value :=
  match worker.control with
  | .runs (.ends ending) =>
      match worker.frames with
      | [] => (shared, worker)
      | frame :: _ => worker.takeSample clock shared frame ending
  | .runs (.waits _ rest) => (shared, { worker with control := .runs rest })
  | .runs (.puts _ name value rest) =>
      let (fate, collector) := shared.collector.putAttribute thread name value
      ({ shared with collector },
        { worker with
          control := .runs (rest (.ok ()))
          answers := worker.answers ++ [.put fate] })
  | .runs (.asks _ rest) =>
      let detail := shared.collector.rootDetail thread
      (shared,
        { worker with
          control := .runs (rest (.ok detail))
          answers := worker.answers ++ [.rootDetail detail] })
  | .runs (.calls plugin metric (.rootSpan detail) work rest) =>
      worker.enterRoot clock thread shared plugin metric detail work rest
  | .runs (.calls _ metric (.span detail) work rest) =>
      worker.enterSpan clock thread shared metric detail work rest
  | .runs (.calls _ metric .tryRecord work rest) | .runs (.calls _ metric .record work rest) =>
      (shared, worker.within .sample metric work rest)
  | .nests metric detail work rest =>
      worker.enterSpan clock thread shared metric detail work rest
  | .leaves ending sample =>
      match worker.frames with
      | [] => (shared, worker)
      | frame :: frames => worker.leave describe clock thread shared frame frames ending sample
  | .keeps kept rest =>
      ({ shared with collector := shared.collector.push kept.trace },
        { worker with control := .runs rest, kept := worker.kept ++ [kept] })

end Step

end Worker

/-! ## Interleavings -/

structure Scene (Fault Value : Type) where
  shared : Shared
  workers : ThreadId → Worker Fault Value

inductive Turn where
  | of (thread : ThreadId)
  | drain
  deriving DecidableEq

abbrev Readings := ThreadId → Nat → UInt64

namespace Scene

def step (describe : Fault → String) (readings : Readings) (scene : Scene Fault Value) :
    Turn → Scene Fault Value
  | .of thread =>
      let (shared, worker) :=
        (scene.workers thread).step describe (readings thread) thread scene.shared
      { shared, workers := Function.update scene.workers thread worker }
  | .drain =>
      { scene with shared := { scene.shared with collector := scene.shared.collector.drain.2 } }

def after (describe : Fault → String) (readings : Readings) (scene : Scene Fault Value)
    (turns : List Turn) : Scene Fault Value :=
  turns.foldl (step describe readings) scene

def opening (shared : Shared) (scripts : ThreadId → Script Fault Value) :
    Scene Fault Value where
  shared
  workers thread := { control := .runs (scripts thread) }

def pointOf (scene : Scene Fault Value) (thread : ThreadId) : Shared × Worker Fault Value :=
  (scene.shared, scene.workers thread)

section After

variable {describe : Fault → String} {readings : Readings} {scene : Scene Fault Value}

theorem after_append (turns : List Turn) (turn : Turn) :
    scene.after describe readings (turns ++ [turn]) =
      (scene.after describe readings turns).step describe readings turn := by
  rw [after, List.foldl_append]
  rfl

theorem workers_step_other {thread other : ThreadId} (different : other ≠ thread) :
    (scene.step describe readings (.of thread)).workers other = scene.workers other :=
  Function.update_of_ne different _ _

@[simp] theorem workers_step_same (thread : ThreadId) :
    (scene.step describe readings (.of thread)).workers thread =
      ((scene.workers thread).step describe (readings thread) thread scene.shared).2 :=
  Function.update_self ..

end After

end Scene

end Instrumentation.Workers
