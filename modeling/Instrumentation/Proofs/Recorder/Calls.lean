import Instrumentation.Proofs.Interception.Calls
import Instrumentation.Proofs.Interception.Endings

namespace Instrumentation

/-! What a call comes to that is handed to a recorder. The recorder notes it and shows what
was said about a root span; then it either is done, or it lets the call proceed, and takes
its sample and notes its outcome once the work has returned. Work that unwinds passes the
recorder by, and what it showed then it goes on showing. -/

variable {Host Fault Value : Type}

/-! ## The recorder -/

namespace Call

def noted (metric : Metric) : Call → EngineCall
  | rootSpan detail => .executeRootSpan metric.name detail.description
  | span detail => .executeSpan metric.name detail.description
  | tryRecord | record => .recordMetricData metric.name

def shownWithin (call : Call) (shown : Option Detail) : Option Detail :=
  match call with
  | rootSpan detail => some detail
  | span _ | tryRecord | record => shown

def shownAfter (call : Call) (shown : Option Detail) : Option Detail :=
  match call with
  | rootSpan _ => none
  | span _ | tryRecord | record => shown

theorem shownAfter_none (call : Call) : call.shownAfter none = none := by
  cases call <;> rfl

end Call

namespace Recorder

def showing (call : Call) (recorder : Recorder) : Recorder :=
  { recorder with rootDetail := call.shownWithin recorder.rootDetail }

def concealing (call : Call) (recorder : Recorder) : Recorder :=
  { recorder with rootDetail := call.shownAfter recorder.rootDetail }

def entered (metric : Metric) (call : Call) (recorder : Recorder) : Recorder :=
  (recorder.note (call.noted metric)).showing call

def skipped (metric : Metric) (call : Call) (recorder : Recorder) : Recorder :=
  (recorder.note (call.noted metric)).concealing call

def left (call : Call) (outcome : Outcome) (recorder : Recorder) : Recorder :=
  (recorder.noteOutcome outcome).concealing call

end Recorder

namespace World

def changing (world : World Host) (recorder : Key Recorder) (change : Recorder → Recorder) :
    World Host :=
  { world with recorders := world.recorders.modify recorder change }

theorem changing_get (world : World Host) (recorder : Key Recorder)
    (change : Recorder → Recorder) :
    (world.changing recorder change).recorders.get recorder =
      change (world.recorders.get recorder) :=
  Table.get_put_same _ _ _

@[simp] theorem changing_changing (world : World Host) (recorder : Key Recorder)
    (first second : Recorder → Recorder) :
    (world.changing recorder first).changing recorder second =
      world.changing recorder (second ∘ first) := by
  simp only [changing, Table.modify, Table.get_put_same, Table.put_put, Function.comp]

def timed (world : World Host) (metric : Metric) (clock : Key Clock) (start : UInt64) :
    World Host :=
  let elapsed := (world.clocks.get clock).elapsedSince start
  { world with stats := world.stats.modify metric.stats (·.record elapsed) }

end World

/-! ## The call -/

namespace Recorder

variable (recorder : Key Recorder) (metric : Metric) (call : Call) {world : World Host}

theorem read_apply (world : World Host) :
    read recorder world = (.ok (world.recorders.get recorder), world) := rfl

def clockIn (world : World Host) : Key Clock :=
  (world.recorders.get recorder).clock

structure LeavesBy (clock : Key Clock) (start : UInt64) (change : Outcome → Recorder → Recorder)
    (afterwards : CallEnding → Program Host Unit) : Prop where
  returned : ∀ outcome world, afterwards (.ok outcome) world =
    (.ok (), (world.timed metric clock start).changing recorder (change outcome))
  unwound : ∀ payload world, afterwards (.error payload) world = (.error payload, world)

theorem run_of_skips (skips : (world.recorders.get recorder).skipsProceed = true) :
    (run recorder metric).enter world = (.ok none, world) := by
  refine (Program.bind_of_ok (read_apply recorder world) _).trans ?_
  rw [if_pos skips]
  rfl

theorem run_of_proceeds (proceeds : (world.recorders.get recorder).skipsProceed = false) :
    ∃ afterwards, (run recorder metric).enter world = (.ok (some afterwards), world) ∧
      LeavesBy recorder metric (clockIn recorder world)
        (world.clocks.get (clockIn recorder world)).reading
        (fun outcome state => state.noteOutcome outcome) afterwards := by
  refine ⟨?_, (Program.bind_of_ok (read_apply recorder world) _).trans ?_, ?_⟩
  rotate_left
  · rw [if_neg (Bool.eq_false_iff.1 proceeds)]
    rfl
  · exact ⟨fun _ _ => rfl, fun _ _ => rfl⟩

/-- A recorder that skips calls shows nothing any more when it is done with a root span. -/
theorem enter_of_skips (skips : (world.recorders.get recorder).skipsProceed = true) :
    (call.onEngine (methods recorder) metric).enter world =
      (.ok none, world.changing recorder (skipped metric call)) := by
  have ran (change : Recorder → Recorder)
      (keeps : ∀ state, (change state).skipsProceed = state.skipsProceed) :
      (run recorder metric).enter (world.changing recorder change) =
        (.ok none, world.changing recorder change) := by
    apply run_of_skips
    rw [World.changing_get, keeps, skips]
  cases call with
  | rootSpan detail =>
      have entering := ran
        (showing (.rootSpan detail) ∘ (·.note (Call.noted metric (.rootSpan detail))))
        fun _ => rfl
      rw [← World.changing_changing] at entering
      refine (Program.bind_of_ok entering _).trans ?_
      exact congrArg (Prod.mk _) ((World.changing_changing ..).trans (World.changing_changing ..))
  | span detail => exact ran _ fun _ => rfl
  | tryRecord | record => exact ran _ fun _ => rfl

theorem enter_of_proceeds (proceeds : (world.recorders.get recorder).skipsProceed = false) :
    ∃ afterwards,
      (call.onEngine (methods recorder) metric).enter world =
        (.ok (some afterwards), world.changing recorder (entered metric call)) ∧
      LeavesBy recorder metric (clockIn recorder world)
        (world.clocks.get (clockIn recorder world)).reading (left call) afterwards := by
  have ran (change : Recorder → Recorder)
      (clock : ∀ state, (change state).clock = state.clock)
      (keeps : ∀ state, (change state).skipsProceed = state.skipsProceed) :
      ∃ afterwards, (run recorder metric).enter (world.changing recorder change) =
          (.ok (some afterwards), world.changing recorder change) ∧
        LeavesBy recorder metric (clockIn recorder world)
          (world.clocks.get (clockIn recorder world)).reading
          (fun outcome state => state.noteOutcome outcome) afterwards := by
    have running := @run_of_proceeds Host recorder metric (world.changing recorder change)
    rw [clockIn, World.changing_get, keeps, clock] at running
    exact running proceeds
  cases call with
  | rootSpan detail =>
      have ⟨afterwards, entering, leaves⟩ := ran
        (showing (.rootSpan detail) ∘ (·.note (Call.noted metric (.rootSpan detail))))
        (fun _ => rfl) fun _ => rfl
      rw [← World.changing_changing] at entering
      refine ⟨?_, (Program.bind_of_ok entering _).trans ?_, ?_⟩
      rotate_left
      · exact congrArg (Prod.mk _) (World.changing_changing ..)
      · constructor
        · intro outcome later
          refine (Program.bind_of_ok (leaves.returned outcome later) _).trans ?_
          exact congrArg (Prod.mk _) (World.changing_changing ..)
        · intro payload later
          exact Program.bind_of_error (leaves.unwound payload later) _
  | span detail => exact ran _ (fun _ => rfl) fun _ => rfl
  | tryRecord | record => exact ran _ (fun _ => rfl) fun _ => rfl

end Recorder

end Instrumentation
