import Instrumentation.Proofs.Collector.Mirror
import Instrumentation.Proofs.Collector.Workers
import Mathlib.Data.List.Basic
import Mathlib.Data.List.Induction

namespace Instrumentation.Workers

/-! Traces are isolated by thread. What a thread gets to see and the traces that it comes
to are those that it would come to alone, whatever the other threads do between its steps;
and the collector has kept just the traces of all of them. The numbers that traces are
told apart by are the one thing in which such runs differ. -/

variable {Fault Value : Type} {describe : Fault → String} {thread : ThreadId}

/-! ## Without the numbers of traces -/

def unnumbered (trace : CompletedTrace) : CompletedTrace :=
  { trace with number := 0 }

def unnumberedOpen (trace : OpenTrace) : OpenTrace :=
  { trace with number := 0 }

def Kept.unnumbered (kept : Kept) : Kept :=
  { kept with trace := Workers.unnumbered kept.trace }

theorem map_unnumbered_keeps {kept others : List Kept} {last other : Kept}
    (same : kept.map Kept.unnumbered = others.map Kept.unnumbered)
    (alike : last.unnumbered = other.unnumbered) :
    (kept ++ [last]).map Kept.unnumbered = (others ++ [other]).map Kept.unnumbered := by
  rw [List.map_append, List.map_append, same, List.map_singleton, List.map_singleton, alike]

inductive Control.Alike : Control Fault Value → Control Fault Value → Prop
  | same (control : Control Fault Value) : Alike control control
  | keeps (kept other : Kept) (rest : Script Fault Value)
      (alike : kept.unnumbered = other.unnumbered) : Alike (.keeps kept rest) (.keeps other rest)

inductive Worker.Alike (worker : Worker Fault Value) : Worker Fault Value → Prop
  | differs (control : Control Fault Value) (kept : List Kept)
      (alike : worker.control.Alike control)
      (same : worker.kept.map Kept.unnumbered = kept.map Kept.unnumbered) :
      Alike worker { worker with control, kept }

structure AlikeOn (thread : ThreadId) (one other : Collector) : Prop where
  limit : one.config.maxTraceAttributes = other.config.maxTraceAttributes
  active : (one.activeOn thread).map unnumberedOpen = (other.activeOn thread).map unnumberedOpen

structure AlikeAt (thread : ThreadId) (one other : Shared × Worker Fault Value) : Prop where
  collector : AlikeOn thread one.1.collector other.1.collector
  worker : one.2.Alike other.2

/-! ## What the collector does for a thread -/

namespace AlikeOn

variable {one other : Collector}

theorem cases_active (alike : AlikeOn thread one other) :
    (one.activeOn thread = none ∧ other.activeOn thread = none) ∨
      ∃ trace twin, one.activeOn thread = some trace ∧ other.activeOn thread = some twin ∧
        unnumberedOpen trace = unnumberedOpen twin := by
  have active := alike.active
  cases here : one.activeOn thread <;> cases there : other.activeOn thread <;>
    rw [here, there] at active
  · exact .inl ⟨rfl, rfl⟩
  · cases active
  · cases active
  · exact .inr ⟨_, _, rfl, rfl, Option.some.inj active⟩

theorem setActive (alike : AlikeOn thread one other) {trace twin : Option OpenTrace}
    (same : trace.map unnumberedOpen = twin.map unnumberedOpen) :
    AlikeOn thread (one.setActive thread trace) (other.setActive thread twin) where
  limit := alike.limit
  active := by simpa using same

theorem openTrace (alike : AlikeOn thread one other) {trace twin : OpenTrace}
    (same : unnumberedOpen trace = unnumberedOpen twin) :
    (one.openTrace thread trace = none ∧ other.openTrace thread twin = none) ∨
      ∃ later next, one.openTrace thread trace = some later ∧
        other.openTrace thread twin = some next ∧ AlikeOn thread later next := by
  rcases alike.cases_active with ⟨here, there⟩ | ⟨_, _, here, there, _⟩
  · refine .inr ⟨one.setActive thread (some trace), other.setActive thread (some twin),
      ?_, ?_, alike.setActive (congrArg some same)⟩
    · rw [Collector.openTrace, here]
    · rw [Collector.openTrace, there]
  · refine .inl ⟨?_, ?_⟩
    · rw [Collector.openTrace, here]
    · rw [Collector.openTrace, there]

theorem enterSpan (alike : AlikeOn thread one other) (metric : String) (detail : Detail)
    (start : UInt64) :
    (one.enterSpan thread metric detail start).1 =
        (other.enterSpan thread metric detail start).1 ∧
      AlikeOn thread (one.enterSpan thread metric detail start).2
        (other.enterSpan thread metric detail start).2 := by
  rw [Collector.enterSpan, Collector.enterSpan]
  rcases alike.cases_active with ⟨here, there⟩ | ⟨trace, twin, here, there, same⟩ <;>
    rw [here, there]
  · exact ⟨rfl, alike⟩
  · have spans : trace.spans = twin.spans := (OpenTrace.mk.inj same).2.2.2.2.2.2.1
    have entered : unnumberedOpen (trace.enterSpan metric detail start) =
        unnumberedOpen (twin.enterSpan metric detail start) :=
      congrArg (OpenTrace.enterSpan · metric detail start) same
    exact ⟨congrArg (some ·.length) spans, alike.setActive (congrArg some entered)⟩

theorem leaveSpan (alike : AlikeOn thread one other) (slot duration : Nat)
    (outcome : Outcome) :
    AlikeOn thread (one.leaveSpan thread slot duration outcome)
      (other.leaveSpan thread slot duration outcome) := by
  rw [Collector.leaveSpan, Collector.leaveSpan]
  rcases alike.cases_active with ⟨here, there⟩ | ⟨trace, twin, here, there, same⟩ <;>
    rw [here, there]
  · exact alike
  · have left : unnumberedOpen (trace.leaveSpan slot duration outcome) =
        unnumberedOpen (twin.leaveSpan slot duration outcome) :=
      congrArg (OpenTrace.leaveSpan · slot duration outcome) same
    exact alike.setActive (congrArg some left)

theorem putAttribute (alike : AlikeOn thread one other) (name value : String) :
    (one.putAttribute thread name value).1 = (other.putAttribute thread name value).1 ∧
      AlikeOn thread (one.putAttribute thread name value).2
        (other.putAttribute thread name value).2 := by
  rw [Collector.putAttribute, Collector.putAttribute]
  rcases alike.cases_active with ⟨here, there⟩ | ⟨trace, twin, here, there, same⟩ <;>
    rw [here, there]
  · exact ⟨rfl, alike⟩
  · have attributes : trace.attributes = twin.attributes := (OpenTrace.mk.inj same).2.2.2.2.2.2.2
    have put : unnumberedOpen (trace.putAttribute name value) =
        unnumberedOpen (twin.putAttribute name value) :=
      congrArg (OpenTrace.putAttribute · name value) same
    dsimp only
    rw [alike.limit, attributes]
    split
    · exact ⟨rfl, alike.setActive (congrArg some put)⟩
    · exact ⟨rfl, alike⟩

theorem rootDetail (alike : AlikeOn thread one other) :
    one.rootDetail thread = other.rootDetail thread := by
  rw [Collector.rootDetail, Collector.rootDetail]
  rcases alike.cases_active with ⟨here, there⟩ | ⟨trace, twin, here, there, same⟩ <;>
    rw [here, there]
  exact congrArg (some ·.detail) same

end AlikeOn

/-! ## One step -/

namespace AlikeAt

variable {shared twin : Shared} {worker other : Worker Fault Value} {clock : Nat → UInt64}

theorem enterSpan (alike : AlikeAt thread (shared, worker) (twin, other)) (metric : Metric)
    (detail : Detail) (work : Script Fault Value) (rest : Ending Fault Value → Script Fault Value) :
    AlikeAt thread (worker.enterSpan clock thread shared metric detail work rest)
      (other.enterSpan clock thread twin metric detail work rest) := by
  rcases alike with ⟨collector, ⟨_, _, _, same⟩⟩
  have ⟨slot, entered⟩ := collector.enterSpan metric.name detail (clock worker.reads)
  refine ⟨entered, ?_⟩
  simp only [Worker.enterSpan, ← slot]
  exact .differs _ _ (.same _) same

theorem enterRoot (alike : AlikeAt thread (shared, worker) (twin, other)) (plugin : PluginId)
    (metric : Metric) (detail : Detail) (work : Script Fault Value)
    (rest : Ending Fault Value → Script Fault Value) :
    AlikeAt thread (worker.enterRoot clock thread shared plugin metric detail work rest)
      (other.enterRoot clock thread twin plugin metric detail work rest) := by
  rcases alike with ⟨collector, ⟨_, _, _, sameKept⟩⟩
  let opened (number : Nat) : OpenTrace :=
    { number, plugin, start := clock worker.reads, metric := metric.name, detail }
  have same : unnumberedOpen (opened shared.traces) = unnumberedOpen (opened twin.traces) := rfl
  have opens := collector.openTrace same
  simp only [opened] at opens
  rcases opens with ⟨here, there⟩ | ⟨later, next, here, there, entered⟩
  · simp only [Worker.enterRoot, here, there]
    exact ⟨collector, .differs _ _ (.same _) sameKept⟩
  · simp only [Worker.enterRoot, here, there]
    exact ⟨entered, .differs _ _ (.same _) sameKept⟩

theorem takeSample (alike : AlikeAt thread (shared, worker) (twin, other))
    (frame : Frame Fault Value) (ending : Ending Fault Value) :
    AlikeAt thread (worker.takeSample clock shared frame ending)
      (other.takeSample clock twin frame ending) := by
  rcases alike with ⟨collector, ⟨_, _, _, same⟩⟩
  cases ending with
  | error payload => exact ⟨collector, .differs _ _ (.same _) same⟩
  | ok result => exact ⟨collector, .differs _ _ (.same _) same⟩

theorem leave (alike : AlikeAt thread (shared, worker) (twin, other))
    (frame : Frame Fault Value) (frames : List (Frame Fault Value))
    (ending : Ending Fault Value) (sample : Option Sample) :
    AlikeAt thread (worker.leave describe clock thread shared frame frames ending sample)
      (other.leave describe clock thread twin frame frames ending sample) := by
  rcases alike with ⟨collector, ⟨_, _, _, same⟩⟩
  rw [Worker.leave, Worker.leave]
  rcases frame.entry with _ | ⟨_ | slot⟩ | _
  · refine ⟨collector.setActive rfl, .differs _ _ ?_ same⟩
    rw [Collector.closeTrace, Collector.closeTrace]
    rcases collector.cases_active with ⟨here, there⟩ | ⟨trace, twin, here, there, alike⟩ <;>
      simp only [here, there]
    · exact .same _
    · have completed (duration : Nat) (outcome : Outcome) :
          unnumbered (trace.complete duration outcome) =
            unnumbered (twin.complete duration outcome) :=
        congrArg (OpenTrace.complete · duration outcome) alike
      apply Control.Alike.keeps
      simp only [Kept.unnumbered, completed]
  · exact ⟨collector, .differs _ _ (.same _) same⟩
  · exact ⟨collector.leaveSpan _ _ _, .differs _ _ (.same _) same⟩
  · exact ⟨collector, .differs _ _ (.same _) same⟩

/-- A step depends on nothing but the thread itself and what is open on it. -/
theorem step (alike : AlikeAt thread (shared, worker) (twin, other)) :
    AlikeAt thread (worker.step describe clock thread shared)
      (other.step describe clock thread twin) := by
  have together := alike
  rcases worker with ⟨now, frames, reads, timings, answers, kept⟩
  rcases alike with ⟨collector, ⟨_, _, controls, same⟩⟩
  cases controls with
  | keeps kept other rest alike =>
      exact ⟨⟨collector.limit, collector.active⟩,
        .differs _ _ (.same _) (map_unnumbered_keeps same alike)⟩
  | same =>
      cases now with
      | nests metric detail work rest => exact together.enterSpan metric detail work rest
      | leaves ending sample =>
          cases frames with
          | nil => exact together
          | cons frame rest => exact together.leave frame rest ending sample
      | keeps kept rest =>
          exact ⟨⟨collector.limit, collector.active⟩,
            .differs _ _ (.same _) (map_unnumbered_keeps same rfl)⟩
      | runs script =>
          cases script with
          | waits => exact ⟨collector, .differs _ _ (.same _) same⟩
          | ends ending =>
              cases frames with
              | nil => exact together
              | cons frame rest => exact together.takeSample frame ending
          | puts plugin name value rest =>
              have ⟨fate, put⟩ := collector.putAttribute name value
              refine ⟨put, ?_⟩
              simp only [Worker.step, ← fate]
              exact .differs _ _ (.same _) same
          | asks plugin rest =>
              refine ⟨collector, ?_⟩
              simp only [Worker.step, ← collector.rootDetail]
              exact .differs _ _ (.same _) same
          | calls plugin metric call work rest =>
              cases call with
              | rootSpan detail => exact together.enterRoot plugin metric detail work rest
              | span detail => exact together.enterSpan metric detail work rest
              | tryRecord | record => exact ⟨collector, .differs _ _ (.same _) same⟩

end AlikeAt

/-! ## What a step does to the others -/

def Touched (thread : ThreadId) (collector later : Collector) : Prop :=
  later = collector ∨ ∃ trace, later = collector.setActive thread trace

namespace Touched

variable (collector : Collector)

theorem enterSpan (metric : String) (detail : Detail) (start : UInt64) :
    Touched thread collector (collector.enterSpan thread metric detail start).2 := by
  rw [Collector.enterSpan]
  split
  · exact .inl rfl
  · exact .inr ⟨_, rfl⟩

theorem leaveSpan (slot duration : Nat) (outcome : Outcome) :
    Touched thread collector (collector.leaveSpan thread slot duration outcome) := by
  rw [Collector.leaveSpan]
  split
  · exact .inl rfl
  · exact .inr ⟨_, rfl⟩

theorem putAttribute (name value : String) :
    Touched thread collector (collector.putAttribute thread name value).2 := by
  rw [Collector.putAttribute]
  split
  · exact .inl rfl
  · split
    · exact .inr ⟨_, rfl⟩
    · exact .inl rfl

end Touched

inductive Step (thread : ThreadId) (shared : Shared) (worker : Worker Fault Value)
    (after : Shared × Worker Fault Value) : Prop
  | touches (touched : Touched thread shared.collector after.1.collector)
      (kept : after.2.kept = worker.kept)
  | keeps (kept : Kept) (pushes : after.1.collector = shared.collector.push kept.trace)
      (keeps : after.2.kept = worker.kept ++ [kept])

section Steps

variable (shared : Shared) (worker : Worker Fault Value) (clock : Nat → UInt64)

theorem step_enterRoot (plugin : PluginId) (metric : Metric) (detail : Detail)
    (work : Script Fault Value) (rest : Ending Fault Value → Script Fault Value) :
    Step thread shared worker
      (worker.enterRoot clock thread shared plugin metric detail work rest) := by
  rw [Worker.enterRoot]
  split
  · exact .touches (.inl rfl) rfl
  · next opens => exact .touches (.inr ⟨_, (Collector.openTrace_eq_some opens).2⟩) rfl

theorem step_takeSample (frame : Frame Fault Value) (ending : Ending Fault Value) :
    Step thread shared worker (worker.takeSample clock shared frame ending) := by
  cases ending with
  | error payload => exact .touches (.inl rfl) rfl
  | ok result => exact .touches (.inl rfl) rfl

theorem step_leave (frame : Frame Fault Value) (frames : List (Frame Fault Value))
    (ending : Ending Fault Value) (sample : Option Sample) :
    Step thread shared worker
      (worker.leave describe clock thread shared frame frames ending sample) := by
  rw [Worker.leave]
  rcases frame.entry with _ | ⟨_ | slot⟩ | _
  · exact .touches (.inr ⟨none, rfl⟩) rfl
  · exact .touches (.inl rfl) rfl
  · exact .touches (.leaveSpan _ _ _ _) rfl
  · exact .touches (.inl rfl) rfl

theorem step_step : Step thread shared worker (worker.step describe clock thread shared) := by
  rw [Worker.step]
  cases worker.control with
  | nests => exact .touches (.enterSpan _ _ _ _) rfl
  | keeps kept rest => exact .keeps kept rfl rfl
  | leaves ending sample =>
      dsimp only
      cases worker.frames with
      | nil => exact .touches (.inl rfl) rfl
      | cons frame frames => exact step_leave shared worker clock frame frames ending sample
  | runs script =>
      cases script with
      | waits | asks => exact .touches (.inl rfl) rfl
      | puts => exact .touches (.putAttribute _ _ _) rfl
      | ends ending =>
          dsimp only
          cases worker.frames with
          | nil => exact .touches (.inl rfl) rfl
          | cons frame frames => exact step_takeSample shared worker clock frame ending
      | calls plugin metric call work rest =>
          cases call with
          | rootSpan detail => exact step_enterRoot shared worker clock plugin metric detail work rest
          | span => exact .touches (.enterSpan _ _ _ _) rfl
          | tryRecord | record => exact .touches (.inl rfl) rfl

end Steps

namespace Scene

variable (describe : Fault → String) (readings : Readings) (scene : Scene Fault Value)

def collector (scene : Scene Fault Value) : Collector :=
  scene.shared.collector

theorem step_of (mover : ThreadId) :
    Step mover scene.shared (scene.workers mover)
      ((scene.step describe readings (.of mover)).shared,
        (scene.step describe readings (.of mover)).workers mover) := by
  rw [workers_step_same]
  exact step_step scene.shared (scene.workers mover) (readings mover)

/-- What other threads do, and a drain, is nothing to a thread. -/
theorem step_elsewhere {turn : Turn} (elsewhere : turn ≠ .of thread) :
    let later := scene.step describe readings turn
    later.collector.config = scene.collector.config ∧
      later.collector.activeOn thread = scene.collector.activeOn thread ∧
      later.workers thread = scene.workers thread := by
  cases turn with
  | drain => exact ⟨rfl, rfl, rfl⟩
  | of mover =>
      have different : thread ≠ mover := by
        rintro rfl
        exact elsewhere rfl
      have apart : (scene.step describe readings (.of mover)).workers thread =
          scene.workers thread := workers_step_other different
      cases scene.step_of describe readings mover with
      | touches touched =>
          rcases touched with same | ⟨trace, same⟩
          · exact ⟨congrArg Collector.config same, congrArg (Collector.activeOn · thread) same, apart⟩
          · refine ⟨(congrArg Collector.config same).trans rfl, ?_, apart⟩
            exact (congrArg (Collector.activeOn · thread) same).trans
              (scene.shared.collector.activeOn_setActive_other different trace)
      | keeps kept same =>
          exact ⟨(congrArg Collector.config same).trans rfl,
            (congrArg (Collector.activeOn · thread) same).trans rfl, apart⟩

def AlikeFor (thread : ThreadId) (one other : Scene Fault Value) : Prop :=
  AlikeAt thread (one.shared, one.workers thread) (other.shared, other.workers thread)

namespace AlikeFor

variable {describe readings} {one other : Scene Fault Value}

theorem together (alike : AlikeFor thread one other) :
    AlikeFor thread (one.step describe readings (.of thread))
      (other.step describe readings (.of thread)) := by
  rw [AlikeFor, workers_step_same, workers_step_same]
  exact AlikeAt.step alike

theorem elsewhere (alike : AlikeFor thread one other) {turn : Turn}
    (elsewhere : turn ≠ .of thread) :
    AlikeFor thread (one.step describe readings turn) other := by
  have ⟨config, active, worker⟩ :=
    one.step_elsewhere describe readings elsewhere
  refine ⟨⟨?_, ?_⟩, ?_⟩
  · exact (congrArg EngineConfig.maxTraceAttributes config).trans alike.collector.limit
  · exact (congrArg (Option.map unnumberedOpen) active).trans alike.collector.active
  · simpa only [worker] using alike.worker

/-- A thread goes the same way with all turns as with only its own. -/
theorem after (alike : AlikeFor thread one other) (turns : List Turn) :
    AlikeFor thread (one.after describe readings turns)
      (other.after describe readings (turns.filter (· = .of thread))) := by
  induction turns generalizing one other with
  | nil => exact alike
  | cons turn turns induction =>
      by_cases own : turn = .of thread
      · subst own
        rw [List.filter_cons_of_pos (by simp)]
        exact induction alike.together
      · rw [List.filter_cons_of_neg (by simpa using own)]
        exact induction (alike.elsewhere own)

end AlikeFor

end Scene

/-! ## What is kept of all threads -/

def Worker.traces (worker : Worker Fault Value) : List CompletedTrace :=
  worker.kept.map Kept.trace

namespace Worker.Alike

variable {worker other : Worker Fault Value}

theorem answers (alike : worker.Alike other) : worker.answers = other.answers := by
  cases alike
  rfl

theorem traces (alike : worker.Alike other) :
    worker.traces.map unnumbered = other.traces.map unnumbered := by
  cases alike with
  | differs _ kept _ same =>
      have traces := congrArg (List.map Kept.trace) same
      rw [List.map_map, List.map_map] at traces
      rw [Worker.traces, Worker.traces, List.map_map, List.map_map]
      exact traces

end Worker.Alike

theorem evict_of_room {capacity : Nat} {completed : List CompletedTrace}
    (room : completed.length < capacity) : Collector.evict capacity completed = completed := by
  cases completed with
  | nil => rfl
  | cons oldest rest => rw [Collector.evict, if_neg (Nat.not_le.mpr room)]

theorem flatMap_perm_of_longer {Member Item : Type} {members : List Member} {member : Member}
    (distinct : members.Nodup) (mem : member ∈ members) {before after : Member → List Item}
    {last : Item} (longer : after member = before member ++ [last])
    (others : ∀ other, other ≠ member → after other = before other) :
    (members.flatMap after).Perm (members.flatMap before ++ [last]) := by
  induction members with
  | nil => cases mem
  | cons first rest induction =>
      have ⟨apart, distinct⟩ := List.nodup_cons.mp distinct
      rw [List.flatMap_cons, List.flatMap_cons]
      rcases List.mem_cons.mp mem with rfl | mem
      · have same : rest.flatMap after = rest.flatMap before :=
          List.flatMap_congr fun other within => others other fun same => apart (same ▸ within)
        rw [longer, same, List.append_assoc, List.append_assoc]
        exact List.perm_append_comm.append_left _
      · have different : first ≠ member := fun same => apart (same ▸ mem)
        rw [others first different, List.append_assoc]
        exact (induction distinct mem).append_left _

namespace Scene

variable (describe : Fault → String) (readings : Readings) (scene : Scene Fault Value)

def tracesOf (scene : Scene Fault Value) (members : List ThreadId) : List CompletedTrace :=
  members.flatMap fun member => (scene.workers member).traces

theorem step_completes (mover : ThreadId) :
    let next := scene.step describe readings (.of mover)
    (next.collector.completed = scene.collector.completed ∧
      (next.workers mover).traces = (scene.workers mover).traces) ∨
    ∃ trace, next.collector.completed = (scene.collector.push trace).completed ∧
      (next.workers mover).traces = (scene.workers mover).traces ++ [trace] := by
  intro next
  cases scene.step_of describe readings mover with
  | touches touched kept =>
      refine .inl ⟨?_, congrArg (List.map Kept.trace) kept⟩
      rcases touched with same | ⟨_, same⟩
      · exact congrArg Collector.completed same
      · exact (congrArg Collector.completed same).trans rfl
  | keeps kept pushes keeps =>
      have appended := congrArg (List.map Kept.trace) keeps
      rw [List.map_append] at appended
      exact .inr ⟨kept.trace, congrArg Collector.completed pushes, appended⟩

theorem traces_step_other {mover other : ThreadId} (different : other ≠ mover) :
    ((scene.step describe readings (.of mover)).workers other).traces =
      (scene.workers other).traces := by
  rw [workers_step_other different]

theorem config_after (turns : List Turn) :
    (scene.after describe readings turns).collector.config = scene.collector.config := by
  induction turns using List.reverseRecOn with
  | nil => rfl
  | append_singleton turns turn induction =>
      rw [after_append]
      refine Eq.trans ?_ induction
      cases turn with
      | drain => rfl
      | of mover =>
          -- Any thread but this one would do to see that the step changes no configuration.
          have elsewhere : Turn.of mover ≠ .of ⟨mover.index + 1⟩ := by
            intro same
            have index : mover.index = mover.index + 1 :=
              congrArg ThreadId.index (Turn.of.inj same)
            omega
          exact (step_elsewhere describe readings _ elsewhere).1

/-- While there is room, and nobody takes any, the collector has what it had and what the
threads have come to since. -/
theorem completed_after {members : List ThreadId} (distinct : members.Nodup)
    (fresh : ∀ thread, (scene.workers thread).kept = []) {turns : List Turn}
    (moved : ∀ thread, .of thread ∈ turns → thread ∈ members) (undrained : .drain ∉ turns)
    (fits : scene.collector.completed.length +
        ((scene.after describe readings turns).tracesOf members).length ≤
      scene.collector.config.maxCompletedTraces.toNat) :
    (scene.after describe readings turns).collector.completed.Perm
      (scene.collector.completed ++ (scene.after describe readings turns).tracesOf members) := by
  induction turns using List.reverseRecOn with
  | nil =>
      have nothing : scene.tracesOf members = [] :=
        List.flatMap_eq_nil_iff.mpr fun member _ => by rw [Worker.traces, fresh]; rfl
      rw [after, List.foldl_nil, nothing, List.append_nil]
  | append_singleton turns turn induction =>
      rw [after_append] at fits ⊢
      have movedBefore : ∀ thread, .of thread ∈ turns → thread ∈ members :=
        fun thread mem => moved thread (List.mem_append_left _ mem)
      have undrainedBefore : .drain ∉ turns :=
        fun mem => undrained (List.mem_append_left _ mem)
      cases turn with
      | drain => exact absurd (List.mem_append_right _ (.head _)) undrained
      | of mover =>
          have mem : mover ∈ members := moved mover (List.mem_append_right _ (.head _))
          have capacity := scene.config_after describe readings turns
          generalize scene.after describe readings turns = reached at *
          have others (other : ThreadId) (different : other ≠ mover) :=
            reached.traces_step_other describe readings different
          rcases reached.step_completes describe readings mover with
            ⟨completed, same⟩ | ⟨trace, completed, longer⟩
          · have sameTraces : (reached.step describe readings (.of mover)).tracesOf members =
                reached.tracesOf members := by
              refine List.flatMap_congr fun other _ => ?_
              by_cases own : other = mover
              · rw [own, same]
              · exact others other own
            rw [sameTraces] at fits ⊢
            rw [completed]
            exact induction movedBefore undrainedBefore fits
          · have grown : ((reached.step describe readings (.of mover)).tracesOf members).Perm
                (reached.tracesOf members ++ [trace]) :=
              flatMap_perm_of_longer distinct mem longer others
            have lengths := grown.length_eq
            rw [List.length_append, List.length_singleton] at lengths
            have earlier := induction movedBefore undrainedBefore (by omega)
            have room : reached.collector.completed.length <
                reached.collector.config.maxCompletedTraces.toNat := by
              rw [capacity, earlier.length_eq, List.length_append]
              omega
            rw [completed, Collector.push, evict_of_room room]
            refine (earlier.append_right _).trans ?_
            rw [List.append_assoc]
            exact grown.symm.append_left _

end Scene

/-! ## Main statement -/

def Shared.anew (collector : Collector) : Shared where
  collector := { config := collector.config, clock := collector.clock }

/-- Threads that run programs on a collector do not notice each other there. A thread comes
to the same answers, the same open trace and the same finished traces as alone, with the
clock showing it the same; and as long as all finished traces find room and nobody takes
any, the collector has come to have just those of all the threads alone. -/
theorem traces_are_isolated_by_thread (describe : Fault → String) (readings : Readings)
    (scripts : ThreadId → Script Fault Value) {shared : Shared}
    (untraced : ∀ thread, shared.collector.activeOn thread = none) (turns : List Turn) :
    let scene := (Scene.opening shared scripts).after describe readings turns
    let alone (thread : ThreadId) :=
      (Scene.opening (.anew shared.collector) scripts).after describe readings
        (turns.filter (· = .of thread))
    let apart (thread : ThreadId) := (alone thread).workers thread
    (∀ turn thread, turn ≠ .of thread →
      (scene.step describe readings turn).collector.activeOn thread =
        scene.collector.activeOn thread) ∧
      (∀ thread,
        (scene.workers thread).Alike (apart thread) ∧
          (scene.workers thread).answers = (apart thread).answers ∧
          (scene.workers thread).traces.map unnumbered = (apart thread).traces.map unnumbered ∧
          (scene.collector.activeOn thread).map unnumberedOpen =
            ((alone thread).collector.activeOn thread).map unnumberedOpen) ∧
      ∀ members : List ThreadId, members.Nodup →
        (∀ thread, .of thread ∈ turns → thread ∈ members) → .drain ∉ turns →
        shared.collector.completed.length +
            (members.flatMap fun thread => (apart thread).traces).length ≤
          shared.collector.config.maxCompletedTraces.toNat →
        (scene.collector.completed.map unnumbered).Perm
          (shared.collector.completed.map unnumbered ++
            members.flatMap fun thread => (apart thread).traces.map unnumbered) := by
  intro scene alone apart
  have alike (thread : ThreadId) : Scene.AlikeFor thread scene (alone thread) := by
    have openings : Scene.AlikeFor thread (.opening shared scripts)
        (.opening (.anew shared.collector) scripts) :=
      ⟨⟨rfl, congrArg (Option.map unnumberedOpen) (untraced thread)⟩,
        .differs _ _ (.same _) rfl⟩
    exact openings.after turns
  have sameTraces (thread : ThreadId) :
      (scene.workers thread).traces.map unnumbered = (apart thread).traces.map unnumbered :=
    (alike thread).worker.traces
  refine ⟨?_, ?_, ?_⟩
  · intro turn thread elsewhere
    exact (scene.step_elsewhere describe readings elsewhere).2.1
  · intro thread
    have worker : (scene.workers thread).Alike (apart thread) := (alike thread).worker
    exact ⟨worker, worker.answers, worker.traces, (alike thread).collector.active⟩
  · intro members distinct moved undrained fits
    have unioned : (scene.tracesOf members).map unnumbered =
        members.flatMap fun thread => (apart thread).traces.map unnumbered := by
      rw [Scene.tracesOf, List.map_flatMap]
      exact List.flatMap_congr fun thread _ => sameTraces thread
    have lengths : (scene.tracesOf members).length =
        (members.flatMap fun thread => (apart thread).traces).length := by
      have same := congrArg List.length unioned
      rwa [← List.map_flatMap, List.length_map, List.length_map] at same
    have kept := (Scene.opening shared scripts).completed_after describe readings distinct
      (fun _ => rfl) moved undrained (by rw [lengths]; exact fits)
    rw [← unioned, ← List.map_append]
    exact kept.map unnumbered

def requests : Metric :=
  ⟨"request", false, ⟨0⟩, ⟨0⟩⟩

def visit (user : String) : Script Unit Unit :=
  .calls default requests (.rootSpan { description := user })
    (.puts default "user" user fun _ => .asks default fun _ => .ends (.ok (.ok ()))) .ends

def visits (thread : ThreadId) : Script Unit Unit :=
  visit (if thread = ⟨0⟩ then "first" else "second")

def visitOf (user : String) : CompletedTrace where
  number := 0
  plugin := default
  duration := 20
  metric := "request"
  description := user
  username := none
  outcome := .completed
  spans := []
  attributes := [("user", user)]

def ticking : Readings :=
  fun _ reading => .ofNat (10 * reading)

def alternating : List Turn :=
  (List.replicate 6 [Turn.of ⟨0⟩, .of ⟨1⟩]).flatten

/-- Two visitors who take turns see only their own traces, and the collector keeps both. -/
theorem visitors_are_isolated :
    let scene := (Scene.opening (.anew default) visits).after (fun _ => "") ticking alternating
    (scene.workers ⟨0⟩).answers =
        [.put .kept, .rootDetail (some { description := "first" })] ∧
      (scene.workers ⟨1⟩).answers =
        [.put .kept, .rootDetail (some { description := "second" })] ∧
      (scene.collector.completed.map unnumbered).Perm [visitOf "first", visitOf "second"] := by
  have untraced : ∀ thread, (Shared.anew default).collector.activeOn thread = none :=
    fun _ => rfl
  have ⟨_, apart, together⟩ :=
    traces_are_isolated_by_thread (fun _ => "") ticking visits untraced alternating
  have visitors : ∀ thread, .of thread ∈ alternating → thread ∈ [⟨0⟩, (⟨1⟩ : ThreadId)] := by
    simp [alternating, List.replicate]
  refine ⟨?_, ?_, ?_⟩
  · exact (apart ⟨0⟩).2.1.trans (by decide +kernel)
  · exact (apart ⟨1⟩).2.1.trans (by decide +kernel)
  · refine (together [⟨0⟩, ⟨1⟩] (by decide) visitors (by decide) (by decide +kernel)).trans ?_
    exact .of_eq (by decide +kernel)

end Instrumentation.Workers
