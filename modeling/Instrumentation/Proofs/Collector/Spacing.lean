import Instrumentation.Proofs.Collector.Isolation
import Instrumentation.Proofs.Collector.Timings
import Mathlib.Data.List.Forall2

namespace Instrumentation.Workers

/-! The spans of a trace are properly nested intervals as long as the clock does not run
backwards during the trace. That the readings behind them nest is kept by every step of a
thread; a clock that does not run backwards takes the order of the readings over to what
it shows. That the sample of a call is the one that its metric got is shown of the step that
takes it (`Worker.takeSample_records`) and of whole runs (`noted_samples_are_recorded`). -/

variable {Fault Value : Type} {describe : Fault → String} {clock : Nat → UInt64}
  {thread : ThreadId}

/-! ## What every step keeps -/

structure Spaced (clock : Nat → UInt64) (kept : Kept) : Prop where
  lasted : Lasted clock kept.timing kept.trace.duration kept.trace.outcome
  forest : Forest clock kept.timing.start 0 kept.timing.start kept.timing.finish kept.trace.spans
    kept.spans

inductive Tracks (clock : Nat → UInt64) (frames : List (Frame Fault Value))
    (timings : List Timing) (reads : Nat) : Option OpenTrace → Prop
  | untraced (outside : ∀ frame ∈ frames, frame.IsOutside) : Tracks clock frames timings reads none
  | traced {trace : OpenTrace} {origin : Nat} (start : trace.start = clock origin)
      (grows : Growing clock origin frames trace.depth reads trace.spans timings) :
      Tracks clock frames timings reads (some trace)

def Control.Fits (describe : Fault → String) (clock : Nat → UInt64)
    (frames : List (Frame Fault Value)) (reads : Nat) : Control Fault Value → Prop
  | .runs _ | .nests .. => True
  | .leaves ending sample => ∀ frame ∈ frames.head?,
      (∀ taken ∈ sample, Sampled clock frame.started reads taken) ∧
        (sample = none → Outcome.ofEnding describe ending = .panicked)
  | .keeps kept _ => Spaced clock kept

structure Timely (describe : Fault → String) (clock : Nat → UInt64) (thread : ThreadId)
    (point : Shared × Worker Fault Value) : Prop where
  tracks : Tracks clock point.2.frames point.2.timings point.2.reads
    (point.1.collector.activeOn thread)
  started : ∀ frame ∈ point.2.frames, frame.started ≤ point.2.reads
  fits : point.2.control.Fits describe clock point.2.frames point.2.reads
  kept : ∀ kept ∈ point.2.kept, Spaced clock kept

theorem Tracks.later {frames : List (Frame Fault Value)} {timings : List Timing}
    {reads later : Nat} {entry : Option OpenTrace}
    (tracks : Tracks clock frames timings reads entry) (order : reads ≤ later) :
    Tracks clock frames timings later entry := by
  cases tracks with
  | untraced outside => exact .untraced outside
  | traced start grows => exact .traced start (grows.later order)

theorem Tracks.sampled {frames : List (Frame Fault Value)} {timings : List Timing} {reads : Nat}
    {entry : Option OpenTrace} (tracks : Tracks clock frames timings reads entry)
    {frame : Frame Fault Value} (sample : frame.entry = .sample) :
    Tracks clock (frame :: frames) timings reads entry := by
  cases tracks with
  | untraced outside => exact .untraced (List.forall_mem_cons.mpr ⟨.inl sample, outside⟩)
  | traced start grows => exact .traced start (.sampled sample grows)

namespace Timely

variable {shared : Shared} {worker : Worker Fault Value}

theorem started_within (timely : Timely describe clock thread (shared, worker))
    {entered : Frame Fault Value} (now : entered.started = worker.reads) :
    ∀ frame ∈ entered :: worker.frames, frame.started ≤ worker.reads + 1 := by
  intro frame member
  rcases List.mem_cons.mp member with rfl | member
  · exact now ▸ Nat.le_succ _
  · exact Nat.le_succ_of_le (timely.started frame member)

theorem enterSpan (timely : Timely describe clock thread (shared, worker)) (metric : Metric)
    (detail : Detail) (work : Script Fault Value) (rest : Ending Fault Value → Script Fault Value) :
    Timely describe clock thread
      (worker.enterSpan clock thread shared metric detail work rest) := by
  have tracks := timely.tracks
  rw [Worker.enterSpan, Collector.enterSpan]
  generalize active : shared.collector.activeOn thread = entry at tracks
  cases tracks with
  | untraced outside =>
      refine ⟨?_, timely.started_within rfl, trivial, timely.kept⟩
      rw [active]
      exact .untraced (List.forall_mem_cons.mpr ⟨.inr rfl, outside⟩)
  | traced start grows =>
      refine ⟨?_, timely.started_within rfl, trivial, timely.kept⟩
      rw [Collector.activeOn_setActive]
      refine .traced start (grows.enters rfl (Nat.le_refl _) rfl ?_ _ (Nat.le_succ _))
      exact congrArg (Clock.between · (clock worker.reads)) start

theorem enterRoot (timely : Timely describe clock thread (shared, worker)) (plugin : PluginId)
    (metric : Metric) (detail : Detail) (work : Script Fault Value)
    (rest : Ending Fault Value → Script Fault Value) :
    Timely describe clock thread
      (worker.enterRoot clock thread shared plugin metric detail work rest) := by
  have tracks := timely.tracks
  rw [Worker.enterRoot]
  split
  · exact ⟨tracks.later (Nat.le_succ _),
      fun frame member => Nat.le_succ_of_le (timely.started frame member), trivial, timely.kept⟩
  · next opens =>
      rcases Collector.openTrace_eq_some opens with ⟨untraced, rfl⟩
      rw [untraced] at tracks
      cases tracks with
      | untraced outside =>
          refine ⟨?_, timely.started_within rfl, trivial, timely.kept⟩
          rw [Collector.activeOn_setActive]
          exact .traced rfl (.opened rfl rfl outside (.nothing (Nat.le_succ _)))

theorem takeSample (timely : Timely describe clock thread (shared, worker))
    {frame : Frame Fault Value} {frames : List (Frame Fault Value)}
    (innermost : worker.frames = frame :: frames) (ending : Ending Fault Value) :
    Timely describe clock thread (worker.takeSample clock shared frame ending) := by
  have started := timely.started frame (innermost ▸ .head frames)
  cases ending with
  | error payload =>
      refine ⟨timely.tracks, timely.started, ?_, timely.kept⟩
      exact fun _ _ => ⟨nofun, fun _ => rfl⟩
  | ok result =>
      refine ⟨timely.tracks.later (Nat.le_succ _),
        fun other member => Nat.le_succ_of_le (timely.started other member), ?_, timely.kept⟩
      intro other head
      rw [Worker.takeSample, innermost] at head
      cases head
      refine ⟨?_, nofun⟩
      intro taken same
      cases same
      exact ⟨started, Nat.le_succ _, rfl⟩

theorem leave (timely : Timely describe clock thread (shared, worker))
    {frame : Frame Fault Value} {frames : List (Frame Fault Value)}
    (innermost : worker.frames = frame :: frames) (ending : Ending Fault Value)
    (sample : Option Sample)
    (fits : (Control.leaves ending sample).Fits describe clock worker.frames worker.reads) :
    Timely describe clock thread
      (worker.leave describe clock thread shared frame frames ending sample) := by
  have tracks := timely.tracks
  have started := timely.started
  rw [innermost] at tracks started fits
  rcases fits frame rfl with ⟨sampled, unsampled⟩
  have lasted : Lasted clock { start := frame.started, sample, finish := worker.reads }
      (Clock.between (clock frame.started) (clock worker.reads))
      (Outcome.ofEnding describe ending) :=
    ⟨started frame (.head frames), rfl, sampled, unsampled⟩
  have startedOuter : ∀ other ∈ frames, other.started ≤ worker.reads + 1 :=
    fun other member => Nat.le_succ_of_le (started other (.tail frame member))
  rw [Worker.leave]
  rcases entry : frame.entry with _ | ⟨_ | slot⟩ | _
  · dsimp only [Collector.closeTrace]
    generalize active : shared.collector.activeOn thread = found at tracks
    have closed : (shared.collector.setActive thread none).activeOn thread = none :=
      Collector.activeOn_setActive ..
    cases tracks with
    | untraced outside =>
        refine ⟨?_, startedOuter, trivial, timely.kept⟩
        rw [closed]
        exact .untraced fun other member => outside other (.tail frame member)
    | traced start grows =>
        rcases grows.of_root entry with ⟨rfl, outside, forest⟩
        refine ⟨?_, startedOuter, ⟨lasted, forest⟩, timely.kept⟩
        rw [closed]
        exact .untraced outside
  · refine ⟨?_, fun other member => started other (.tail frame member), trivial, timely.kept⟩
    generalize shared.collector.activeOn thread = found at tracks
    cases tracks with
    | untraced outside => exact .untraced fun other member => outside other (.tail frame member)
    | traced start grows => exact absurd entry grows.entry_ne_untraced
  · refine ⟨?_, startedOuter, trivial, timely.kept⟩
    dsimp only
    rw [Collector.leaveSpan]
    generalize shared.collector.activeOn thread = found at tracks
    cases tracks with
    | untraced outside =>
        rcases outside frame (.head frames) with sampled | untraced
        · rw [entry] at sampled; cases sampled
        · rw [entry] at untraced; cases untraced
    | traced start grows =>
        rw [Collector.activeOn_setActive]
        exact .traced start (grows.leaves entry (Nat.le_succ _) lasted)
  · refine ⟨?_, fun other member => started other (.tail frame member), trivial, timely.kept⟩
    generalize shared.collector.activeOn thread = found at tracks
    cases tracks with
    | untraced outside => exact .untraced fun other member => outside other (.tail frame member)
    | traced start grows => exact .traced start (grows.of_sample entry)

theorem putAttribute (timely : Timely describe clock thread (shared, worker))
    (name value : String) :
    Tracks clock worker.frames worker.timings worker.reads
      ((shared.collector.putAttribute thread name value).2.activeOn thread) := by
  have tracks := timely.tracks
  rw [Collector.putAttribute]
  generalize active : shared.collector.activeOn thread = found at tracks
  cases tracks with
  | untraced outside =>
      rw [active]
      exact .untraced outside
  | traced start grows =>
      dsimp only
      split
      · rw [Collector.activeOn_setActive]
        exact .traced start grows
      · rw [active]
        exact .traced start grows

theorem step (timely : Timely describe clock thread (shared, worker)) :
    Timely describe clock thread (worker.step describe clock thread shared) := by
  have fits := timely.fits
  rw [Worker.step]
  cases doing : worker.control with
  | nests metric detail work rest => exact timely.enterSpan metric detail work rest
  | leaves ending sample =>
      cases innermost : worker.frames with
      | nil => exact timely
      | cons frame frames => exact timely.leave innermost ending sample (doing ▸ fits)
  | keeps kept rest =>
      refine ⟨timely.tracks, timely.started, trivial, ?_⟩
      intro other member
      rcases List.mem_append.mp member with member | member
      · exact timely.kept other member
      · cases List.mem_singleton.mp member
        have spaced : (Control.keeps kept rest).Fits describe clock worker.frames worker.reads :=
          doing ▸ fits
        exact spaced
  | runs script =>
      cases script with
      | ends ending =>
          cases innermost : worker.frames with
          | nil => exact timely
          | cons frame frames => exact timely.takeSample innermost ending
      | waits | asks => exact ⟨timely.tracks, timely.started, trivial, timely.kept⟩
      | puts plugin name value rest =>
          exact ⟨timely.putAttribute name value, timely.started, trivial, timely.kept⟩
      | calls plugin metric call work rest =>
          cases call with
          | rootSpan detail => exact timely.enterRoot plugin metric detail work rest
          | span detail => exact timely.enterSpan metric detail work rest
          | tryRecord | record =>
              refine ⟨?_, timely.started_within rfl, trivial, timely.kept⟩
              exact (timely.tracks.later (Nat.le_succ worker.reads)).sampled rfl

end Timely

theorem mem_evict {capacity : Nat} {completed : List CompletedTrace} {trace : CompletedTrace}
    (member : trace ∈ Collector.evict capacity completed) : trace ∈ completed := by
  induction completed with
  | nil => exact member
  | cons oldest rest induction =>
      rw [Collector.evict] at member
      split at member
      · exact .tail oldest (induction member)
      · exact member

namespace Scene

variable (describe : Fault → String) (readings : Readings) (scene : Scene Fault Value)

theorem timely_after
    (timely : ∀ thread, Timely describe (readings thread) thread (scene.pointOf thread))
    (turns : List Turn) (thread : ThreadId) :
    Timely describe (readings thread) thread
      ((scene.after describe readings turns).pointOf thread) := by
  induction turns using List.reverseRecOn generalizing thread with
  | nil => exact timely thread
  | append_singleton turns turn induction =>
      rw [after_append]
      generalize scene.after describe readings turns = reached at *
      have before := induction thread
      by_cases own : turn = .of thread
      · subst own
        rw [pointOf, workers_step_same]
        exact before.step
      · have ⟨_, active, worker⟩ := reached.step_elsewhere describe readings own
        rw [pointOf, worker]
        exact ⟨active ▸ before.tracks, before.started, before.fits, before.kept⟩

/-- Of all that was kept since, the collector has only traces that some thread came to. -/
theorem mem_completed_after (turns : List Turn) {trace : CompletedTrace}
    (member : trace ∈ (scene.after describe readings turns).collector.completed) :
    trace ∈ scene.collector.completed ∨
      ∃ thread, trace ∈ ((scene.after describe readings turns).workers thread).traces := by
  induction turns using List.reverseRecOn with
  | nil => exact .inl member
  | append_singleton turns turn induction =>
      rw [after_append] at member ⊢
      generalize scene.after describe readings turns = reached at *
      cases turn with
      | drain => cases member
      | of mover =>
          -- No thread loses a trace by a step.
          have later (grown : List CompletedTrace)
              (grows : ((reached.step describe readings (.of mover)).workers mover).traces =
                (reached.workers mover).traces ++ grown)
              (before : trace ∈ reached.collector.completed) :
              trace ∈ scene.collector.completed ∨
                ∃ thread, trace ∈
                  ((reached.step describe readings (.of mover)).workers thread).traces := by
            refine (induction before).imp_right fun ⟨other, came⟩ => ⟨other, ?_⟩
            by_cases own : other = mover
            · subst own
              rw [grows]
              exact List.mem_append_left grown came
            · rwa [workers_step_other own]
          rcases reached.step_completes describe readings mover with
            ⟨completed, same⟩ | ⟨last, completed, grows⟩
          · rw [completed] at member
            exact later [] (same.trans (List.append_nil _).symm) member
          · rw [completed] at member
            rcases List.mem_append.mp member with before | isLast
            · exact later _ grows (mem_evict before)
            · refine .inr ⟨mover, ?_⟩
              rw [grows]
              exact List.mem_append_right _ isLast

end Scene

/-! ## By a clock that does not run backwards -/

def Steady (clock : Nat → UInt64) (first last : Nat) : Prop :=
  ∀ earlier later, first ≤ earlier → earlier ≤ later → later ≤ last →
    (clock earlier).toNat ≤ (clock later).toNat

/-- What was written of a call is just what the clock showed: no time that was taken is cut
off at zero. -/
structure Exact (clock : Nat → UInt64) (timing : Timing) (duration : Nat) (outcome : Outcome) :
    Prop where
  timed : (clock timing.start).toNat + duration = (clock timing.finish).toNat
  sampled : ∀ sample ∈ timing.sample,
    (clock timing.start).toNat + sample.nanoseconds = (clock sample.reading).toNat ∧
      sample.nanoseconds ≤ duration
  unsampled : timing.sample = none → outcome = .panicked

structure ExactSpan (clock : Nat → UInt64) (origin : Nat) (span : SpanRecord) (timing : Timing) :
    Prop where
  offset : (clock origin).toNat + span.offset = (clock timing.start).toNat
  lasted : Exact clock timing span.duration span.outcome

structure Kept.IsExact (clock : Nat → UInt64) (kept : Kept) : Prop where
  trace : Exact clock kept.timing kept.trace.duration kept.trace.outcome
  spans : List.Forall₂ (ExactSpan clock kept.timing.start) kept.trace.spans kept.spans

section Steady

variable {first last : Nat} (steady : Steady clock first last)
include steady

namespace Steady

theorem between_exact {earlier later : Nat} (begins : first ≤ earlier) (order : earlier ≤ later)
    (ends : later ≤ last) :
    (clock earlier).toNat + Clock.between (clock earlier) (clock later) =
      (clock later).toNat := by
  have shown := steady earlier later begins order ends
  rw [Clock.between]
  omega

theorem between_le {middle later : Nat} (begins : first ≤ middle) (order : middle ≤ later)
    (ends : later ≤ last) :
    Clock.between (clock first) (clock middle) ≤ Clock.between (clock first) (clock later) :=
  Nat.sub_le_sub_right (steady middle later begins order ends) _

theorem between_add {middle later : Nat} (begins : first ≤ middle) (order : middle ≤ later)
    (ends : later ≤ last) :
    Clock.between (clock first) (clock middle) + Clock.between (clock middle) (clock later) =
      Clock.between (clock first) (clock later) := by
  have early := steady first middle (Nat.le_refl first) begins (Nat.le_trans order ends)
  have late := steady middle later begins order ends
  simp only [Clock.between]
  omega

end Steady

theorem Lasted.exact {timing : Timing} {duration : Nat} {outcome : Outcome}
    (lasted : Lasted clock timing duration outcome) (begins : first ≤ timing.start)
    (ends : timing.finish ≤ last) : Exact clock timing duration outcome where
  timed := lasted.duration ▸ steady.between_exact begins lasted.order ends
  sampled sample taken := by
    have sampled := lasted.sampled sample taken
    have exact := steady.between_exact begins sampled.begins (Nat.le_trans sampled.ends ends)
    have shown := steady sample.reading timing.finish (Nat.le_trans begins sampled.begins)
      sampled.ends ends
    rw [sampled.nanoseconds, lasted.duration]
    exact ⟨exact, Nat.sub_le_sub_right shown _⟩
  unsampled := lasted.unsampled

namespace Forest

variable {depth since upto : Nat} {spans : List SpanRecord} {timings : List Timing}

/-- What the clock shows nests as the readings do. -/
theorem nests (forest : Forest clock first depth since upto spans timings)
    (begins : first ≤ since) (ends : upto ≤ last) :
    Nests depth (Clock.between (clock first) (clock since))
      (Clock.between (clock first) (clock upto)) spans := by
  induction forest with
  | nothing order => exact .nothing (steady.between_le begins order ends)
  | @tree _ _ _ span timing _ _ _ _ level offset lasted entered within later withinInduction
      laterInduction =>
      have finishes := later.order
      have started : first ≤ timing.start := Nat.le_trans begins entered
      have finish : span.finish = Clock.between (clock first) (clock timing.finish) := by
        rw [SpanRecord.finish, offset, lasted.duration]
        exact steady.between_add started lasted.order (Nat.le_trans finishes ends)
      refine .tree level ?_ ?_ ?_
      · rw [offset]
        exact steady.between_le begins entered
          (Nat.le_trans lasted.order (Nat.le_trans finishes ends))
      · rw [offset, finish]
        exact withinInduction started (Nat.le_trans finishes ends)
      · rw [finish]
        exact laterInduction (Nat.le_trans started lasted.order) ends

theorem exact (forest : Forest clock first depth since upto spans timings)
    (begins : first ≤ since) (ends : upto ≤ last) :
    List.Forall₂ (ExactSpan clock first) spans timings := by
  induction forest with
  | nothing => exact .nil
  | @tree _ _ _ _ timing _ _ _ _ level offset lasted entered within later withinInduction
      laterInduction =>
      have finishes : timing.finish ≤ last := Nat.le_trans later.order ends
      have started : first ≤ timing.start := Nat.le_trans begins entered
      refine .cons ⟨?_, lasted.exact steady started finishes⟩ (List.rel_append ?_ ?_)
      · rw [offset]
        exact steady.between_exact (Nat.le_refl first) started
          (Nat.le_trans lasted.order finishes)
      · exact withinInduction started finishes
      · exact laterInduction (Nat.le_trans started lasted.order) ends

end Forest

end Steady

namespace Spaced

variable {kept : Kept}

theorem nestsProperly (spaced : Spaced clock kept)
    (steady : Steady clock kept.timing.start kept.timing.finish) : kept.trace.NestsProperly := by
  have nests := spaced.forest.nests steady (Nat.le_refl _) (Nat.le_refl _)
  rw [← spaced.lasted.duration, Clock.between, Nat.sub_self] at nests
  exact nests.properly

theorem isExact (spaced : Spaced clock kept)
    (steady : Steady clock kept.timing.start kept.timing.finish) : kept.IsExact clock where
  trace := spaced.lasted.exact steady (Nat.le_refl _) (Nat.le_refl _)
  spans := spaced.forest.exact steady (Nat.le_refl _) (Nat.le_refl _)

end Spaced

/-! ## Main statement -/

/-- Whatever the calls of a thread come to, the spans of every trace that it finishes are
properly nested intervals, if the clock does not run backwards from the start of the trace
to its end. Everything that was written of the calls is exact then, and no sample is longer
than the call that it was taken of. Of all that is kept since the opening, the collector has
only such traces. -/
theorem spans_nest_properly (describe : Fault → String) (readings : Readings)
    (scripts : ThreadId → Script Fault Value) {shared : Shared}
    (untraced : ∀ thread, shared.collector.activeOn thread = none) (turns : List Turn) :
    let scene := (Scene.opening shared scripts).after describe readings turns
    (∀ trace ∈ scene.collector.completed, trace ∈ shared.collector.completed ∨
      ∃ thread, ∃ kept ∈ (scene.workers thread).kept, kept.trace = trace) ∧
      ∀ thread, ∀ kept ∈ (scene.workers thread).kept,
        Steady (readings thread) kept.timing.start kept.timing.finish →
          kept.trace.NestsProperly ∧ kept.IsExact (readings thread) := by
  refine ⟨?_, ?_⟩
  · intro trace member
    refine (Scene.mem_completed_after describe readings _ turns member).imp_right ?_
    exact fun ⟨thread, came⟩ => ⟨thread, List.mem_map.mp came⟩
  · intro thread kept member steady
    have timely : Timely describe (readings thread) thread
        (((Scene.opening shared scripts).after describe readings turns).pointOf thread) := by
      refine Scene.timely_after describe readings _ ?_ turns thread
      refine fun thread => ⟨?_, nofun, trivial, nofun⟩
      exact untraced thread ▸ .untraced nofun
    have spaced := timely.kept kept member
    exact ⟨spaced.nestsProperly steady, spaced.isExact steady⟩

def stumble : Script Unit Unit :=
  let query (description : String) (ending : Ending Unit Unit) : Script Unit Unit :=
    .calls default requests (.span { description }) (.ends ending) .ends
  .calls default requests (.rootSpan { description := "page" })
    (.calls default requests (.rootSpan { description := "part" })
      (query "rows" (.error (.fixed "stop"))) fun _ => query "totals" (.ok (.ok ())))
    .ends

theorem ticking_steady (thread : ThreadId) {first last : Nat} (short : last < 1000) :
    Steady (ticking thread) first last := by
  intro earlier later _ order ends
  rw [ticking, ticking, UInt64.toNat_ofNat', UInt64.toNat_ofNat', Nat.mod_eq_of_lt (by omega),
    Nat.mod_eq_of_lt (by omega)]
  omega

/-- The span within the root span that was run as a span lies within it, and the one that
was entered after the panic begins when it has ended. -/
theorem stumble_nests :
    let scene := (Scene.opening (.anew default) fun _ => stumble).after (fun _ => "") ticking
      (.replicate 14 (.of ⟨0⟩))
    ((scene.workers ⟨0⟩).traces.map fun trace =>
        trace.spans.map fun span => (span.depth, span.offset, span.duration)) =
        [[(1, 20, 30), (2, 30, 10), (1, 60, 20)]] ∧
      ∀ kept ∈ (scene.workers ⟨0⟩).kept,
        kept.trace.NestsProperly ∧ kept.IsExact (ticking ⟨0⟩) := by
  have untraced : ∀ thread, (Shared.anew default).collector.activeOn thread = none :=
    fun _ => rfl
  have ⟨_, nests⟩ := spans_nest_properly (fun _ => "") ticking (fun _ => stumble) untraced
    (.replicate 14 (.of ⟨0⟩))
  refine ⟨by decide +kernel, fun kept member => nests ⟨0⟩ kept member (ticking_steady ⟨0⟩ ?_)⟩
  revert kept
  decide +kernel

end Instrumentation.Workers
