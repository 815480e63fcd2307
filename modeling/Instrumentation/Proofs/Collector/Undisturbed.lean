import Instrumentation.Proofs.Collector.CallTree
import Instrumentation.Proofs.Interception.Endings
import Instrumentation.Proofs.Leads

namespace Instrumentation

/-! What leaves a collector alone. Engines other than the views of a collector, and its
views too when they only take a sample, act around a call without a trace of it in the
collector: they end as the call does, and nothing that a program of calls depends on is
changed by them. -/

variable {Host Value : Type} {collector : Key Collector}

/-- Between the two worlds the collector has stayed the same, and so have the services,
the surroundings and the thread. -/
structure Undisturbed (collector : Key Collector) (before after : World Host) : Prop where
  collector : after.collectors.get collector = before.collectors.get collector
  services : after.services = before.services
  surroundings : after.surroundings = before.surroundings
  thread : after.thread = before.thread

namespace Undisturbed

variable {before between after : World Host}

theorem refl (world : World Host) : Undisturbed collector world world :=
  ⟨rfl, rfl, rfl, rfl⟩

theorem trans (first : Undisturbed collector before between)
    (second : Undisturbed collector between after) : Undisturbed collector before after where
  collector := second.collector.trans first.collector
  services := second.services.trans first.services
  surroundings := second.surroundings.trans first.surroundings
  thread := second.thread.trans first.thread

instance : IsPreorder (World Host) (Undisturbed collector) where
  refl := refl
  trans _ _ _ := trans

end Undisturbed

abbrev Quiet (collector : Key Collector) (good : Except Payload Value → Prop)
    (program : Program Host Value) : Prop :=
  Leads (Undisturbed collector) good program

/-! ## Single steps -/

theorem quiet_record (metric : Metric) (nanoseconds : Nat) :
    Quiet collector Returns (metric.record nanoseconds : Program Host Unit) :=
  .modify fun _ => ⟨rfl, rfl, rfl, rfl⟩

theorem quiet_update (recorder : Key Recorder) (change : Recorder → Recorder) :
    Quiet collector Returns (Recorder.update recorder change : Program Host Unit) :=
  .modify fun _ => ⟨rfl, rfl, rfl, rfl⟩

theorem quiet_emit (event : Event) :
    Quiet collector Returns (emit event : Program Host Unit) :=
  .modify fun _ => ⟨rfl, rfl, rfl, rfl⟩

theorem quiet_write {other : Key Collector} (apart : other ≠ collector) (state : Collector) :
    Quiet collector Returns (Collector.write other state : Program Host Unit) :=
  .modify fun world => ⟨world.collectors.get_put_other state apart.symm, rfl, rfl, rfl⟩

/-! ## Engines that let a call pass by -/

def Resumes (collector : Key Collector) : Option (CallEnding → Program Host Unit) → Prop
  | none => True
  | some afterwards =>
      (∀ outcome, Quiet collector Returns (afterwards (.ok outcome))) ∧
        ∀ payload, Quiet collector (Unwinds payload) (afterwards (.error payload))

def Interception.PassesBy (interception : Interception Host) (collector : Key Collector) :
    Prop :=
  Quiet collector (Gives (Resumes collector)) interception.enter

theorem runIntercepted_of_passesBy {interception : Interception Host}
    (passes : interception.PassesBy collector) (classify : Value → Outcome)
    (work : Program Host Value) (world : World Host) :
    ∃ entered later, Undisturbed collector world entered ∧
      Undisturbed collector (work entered).2 later ∧
      runIntercepted interception classify work world = ((work entered).1, later) := by
  rcases passes.returned world with ⟨afterwards, entered, entering, resumes, kept⟩
  cases afterwards with
  | none =>
      have warned : Undisturbed collector entered entered.warned := ⟨rfl, rfl, rfl, rfl⟩
      exact ⟨entered.warned, (work entered.warned).2, kept.trans warned, .refl _,
        runIntercepted_of_skips classify work entering⟩
  | some afterwards =>
      have ⟨afterOk, afterPanic⟩ := resumes
      refine ⟨entered, (afterwards ((work entered).1.map classify) (work entered).2).2,
        kept, ?_⟩
      rw [runIntercepted_of_proceeds classify work entering]
      rcases work entered with ⟨payload | value, worked⟩
      · rcases (afterPanic payload).unwound worked with ⟨later, unwinds, left⟩
        simp only [Except.map, unwinds]
        exact ⟨left, rfl⟩
      · rcases (afterOk (classify value)).returned worked with ⟨_, later, returns, _, left⟩
        simp only [Except.map, returns]
        exact ⟨left, rfl⟩

/-! ## Views of other collectors, and samples -/

namespace CollectorView

variable {view : CollectorView}

theorem quiet_recordTiming (metric : Metric) (start : UInt64) :
    Quiet collector Returns (view.recordTiming metric start : Program Host Unit) :=
  .bind (.look _) fun _ _ => quiet_record metric _

theorem recordMetricData_passesBy (metric : Metric) :
    (view.recordMetricData metric : Interception Host).PassesBy collector :=
  .bind (.look _) fun _ _ =>
    .pure ⟨fun _ => quiet_recordTiming metric _, fun payload => .throw payload⟩

variable (apart : view.collector ≠ collector)

include apart

theorem quiet_onCollector (step : Collector → Value × Collector) :
    Quiet collector Returns (view.onCollector step : Program Host Value) :=
  .bind (.look _) fun _ _ => .bind (quiet_write apart _) fun _ _ => .pure trivial

theorem quiet_closeSpan (thread : ThreadId) (slot : Option Nat) (duration : Nat)
    (outcome : Outcome) :
    Quiet collector Returns
      (view.closeSpan thread slot duration outcome : Program Host Unit) := by
  cases slot with
  | none => exact .pure trivial
  | some slot =>
      exact quiet_onCollector apart fun state =>
        ((), state.leaveSpan thread slot duration outcome)

theorem quiet_closeRoot (thread : ThreadId) (duration : Nat) (outcome : Outcome) :
    Quiet collector Returns
      (view.closeRoot thread duration outcome : Program Host Unit) := by
  refine .bind (quiet_onCollector apart _) fun closed _ => ?_
  cases closed with
  | none => exact .pure trivial
  | some trace => exact .bind (quiet_emit _) fun _ _ => quiet_onCollector apart _

omit apart in
theorem resumes_afterCall {metric : Metric} {start : UInt64}
    {close : Nat → Outcome → Program Host Unit}
    (quiet : ∀ duration outcome, Quiet collector Returns (close duration outcome)) :
    Resumes collector (some (view.afterCall metric start close)) :=
  ⟨fun _ => .bind (quiet_recordTiming metric start) fun _ _ =>
      .bind (.look _) fun _ _ => quiet _ _,
    fun payload => .bind (.look _) fun _ _ => .bind (quiet _ _) fun _ _ => .throw payload⟩

theorem executeSpan_passesBy (metric : Metric) (detail : Detail) :
    (view.executeSpan metric detail : Interception Host).PassesBy collector :=
  .bind (.look _) fun _ _ => .bind (.look _) fun _ _ =>
    .bind (quiet_onCollector apart _) fun _ _ =>
      .pure (resumes_afterCall (quiet_closeSpan apart _ _))

theorem executeRootSpan_passesBy (metric : Metric) (detail : Detail) :
    (view.executeRootSpan metric detail : Interception Host).PassesBy collector := by
  refine .bind (.look _) fun thread _ => .bind (.look _) fun start _ =>
    .bind (.look id) fun world _ => .bind (.look _) fun state _ => ?_
  split
  · exact executeSpan_passesBy apart metric detail
  · refine .bind (.modify fun _ => ⟨rfl, rfl, rfl, rfl⟩) fun _ _ =>
      .bind (quiet_write apart _) fun _ _ => ?_
    exact .pure (resumes_afterCall (quiet_closeRoot apart _))

theorem quiet_putTraceAttribute (name value : String) :
    Quiet collector (Gives (· = .ok ()))
      (view.putTraceAttribute name value : Program Host (Except Error Unit)) := by
  refine .bind (.look _) fun thread _ =>
    .bind (quiet_onCollector apart _) fun fate _ => ?_
  cases fate with
  | kept => exact .pure rfl
  | overLimit => exact .bind (quiet_emit _) fun _ _ => .pure rfl
  | outsideTrace => exact .bind (quiet_emit _) fun _ _ => .pure rfl

end CollectorView

/-! ## Recorders -/

namespace Recorder

variable (recorder : Key Recorder)

theorem run_passesBy (metric : Metric) :
    (run recorder metric : Interception Host).PassesBy collector := by
  refine .bind (.look _) fun state _ => ?_
  split
  · exact .pure trivial
  · refine .bind (.look _) fun start _ => .pure ⟨fun outcome => ?_, fun payload => .throw payload⟩
    exact .bind (.look _) fun _ _ => .bind (quiet_record metric _) fun _ _ =>
      quiet_update recorder _

theorem executeRootSpan_passesBy (metric : Metric) (detail : Detail) :
    (executeRootSpan recorder metric detail : Interception Host).PassesBy collector := by
  refine .bind (quiet_update recorder _) fun _ _ => .bind (quiet_update recorder _) fun _ _ =>
    .bind (run_passesBy recorder metric) fun afterwards resumes => ?_
  cases afterwards with
  | none => exact .bind (quiet_update recorder _) fun _ _ => .pure trivial
  | some afterwards =>
      exact .pure ⟨fun outcome => .bind (resumes.1 outcome) fun _ _ => quiet_update recorder _,
        fun payload => .bind_unwound (resumes.2 payload)⟩

theorem onEngine_passesBy (call : Call) (metric : Metric) :
    (call.onEngine (methods recorder : EngineMethods Host) metric).PassesBy collector := by
  cases call with
  | rootSpan detail => exact executeRootSpan_passesBy recorder metric detail
  | span | tryRecord | record =>
      exact .bind (quiet_update recorder _) fun _ _ => run_passesBy recorder metric

theorem quiet_putTraceAttribute (name value : String) :
    Quiet collector (Gives (· = .ok ()))
      ((methods recorder : EngineMethods Host).putTraceAttribute name value) :=
  .bind (quiet_update recorder _) fun _ _ => .pure rfl

end Recorder

end Instrumentation
