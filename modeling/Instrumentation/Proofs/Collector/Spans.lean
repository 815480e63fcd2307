import Instrumentation.Proofs.Collector.Underway

namespace Instrumentation

/-! The spans of a trace and its root: what a view does when a call on it is entered and
when the call has ended. -/

variable {Host Fault Value : Type}

/-! ## Spans -/

namespace CollectorView

variable {site : Site} {trace : OpenTrace} {surroundings : Surroundings Host}
  {world : World Host} {view : CollectorView}

theorem executeSpan_enter_apply (view : CollectorView) (metric : Metric) (detail : Detail)
    (world : World Host) :
    (view.executeSpan metric detail).enter world =
      let state := world.collectors.get view.collector
      let start := (world.clocks.get state.clock).reading
      let (slot, entered) := state.enterSpan world.thread metric.name detail start
      (.ok (some (view.afterCall metric start (view.closeSpan world.thread slot))),
        world.setCollector view.collector entered) := rfl

theorem afterCall_of_closes (view : CollectorView) (metric : Metric) (start : UInt64)
    (close : Nat → Outcome → Program Host Unit) (ending : CallEnding) (world : World Host) :
    ∃ sampled, Undisturbed view.collector world sampled ∧
      ∀ later,
        close (view.lasting start sampled) ending.shown sampled = (.ok (), later) →
        view.afterCall metric start close ending world =
          (ending.map fun _ => (), later) := by
  cases ending with
  | ok outcome =>
      rcases (quiet_recordTiming metric start : Quiet view.collector _ _).returned world
        with ⟨_, sampled, returns, _, kept⟩
      refine ⟨sampled, kept, ?_⟩
      intro later closes
      rw [afterCall, Program.bind_of_ok returns]
      exact closes
  | error payload =>
      refine ⟨world, .refl world, ?_⟩
      intro later closes
      have elapsed : view.elapsed start world = (.ok (view.lasting start world), world) := rfl
      rw [afterCall, Program.bind_of_ok elapsed]
      exact Program.bind_of_ok closes _

theorem runIntercepted_of_closes {interception : Interception Host} {metric : Metric}
    {start : UInt64} {close : Nat → Outcome → Program Host Unit} {entered : World Host}
    (entering :
      interception.enter world = (.ok (some (view.afterCall metric start close)), entered))
    (describe : Fault → String) (work : Program Host (Except Fault Value)) :
    ∃ sampled, Undisturbed view.collector (work entered).2 sampled ∧
      ∀ later,
        close (view.lasting start sampled) (.ofEnding describe (work entered).1) sampled =
          (.ok (), later) →
        runIntercepted interception (Outcome.ofResult describe) work world =
          ((work entered).1, later) := by
  rw [runIntercepted_of_proceeds _ work entering]
  rcases work entered with ⟨ending, left⟩
  rcases afterCall_of_closes view metric start close
    (ending.map (Outcome.ofResult describe)) left with ⟨sampled, kept, closes⟩
  refine ⟨sampled, kept, ?_⟩
  intro later closing
  have shown : CallEnding.shown (ending.map (Outcome.ofResult describe)) =
      .ofEnding describe ending := by
    cases ending <;> rfl
  rw [shown] at closes
  simp only [closes later closing]
  cases ending <;> rfl

theorem closeSpan_apply (view : CollectorView) (thread : ThreadId) (slot duration : Nat)
    (outcome : Outcome) (world : World Host) :
    view.closeSpan thread (some slot) duration outcome world =
      (.ok (), world.setCollector view.collector
        ((world.collectors.get view.collector).leaveSpan thread slot duration outcome)) := rfl

def opened (view : CollectorView) (metric : Metric) (detail : Detail) (world : World Host) :
    OpenTrace where
  number := world.traces
  plugin := view.plugin
  start := (world.clocks.get (world.collectors.get view.collector).clock).reading
  metric := metric.name
  detail

theorem executeRootSpan_enter_apply (view : CollectorView) (metric : Metric)
    (detail : Detail) (world : World Host) :
    (view.executeRootSpan metric detail).enter world =
      let trace := view.opened metric detail world
      match (world.collectors.get view.collector).openTrace world.thread trace with
      | none => (view.executeSpan metric detail).enter world
      | some state =>
          (.ok (some (view.afterCall metric trace.start (view.closeRoot world.thread))),
            ({ world with traces := world.traces + 1 }).setCollector view.collector state) := by
  simp only [executeRootSpan, opened, readCollector, readClock, Program.bind_apply,
    Collector.read, Clock.read, Program.get_apply, Program.currentThread_apply,
    Program.pure_apply]
  cases Collector.openTrace _ _ _ <;> rfl

theorem pushCompleted_apply (view : CollectorView) (trace : CompletedTrace)
    (world : World Host) :
    view.pushCompleted trace world =
      let told := .traceCompleted trace.plugin trace.duration trace.spans.length
      (.ok (), ({ world with events := world.events ++ [told] }).setCollector view.collector
        ((world.collectors.get view.collector).push trace)) := rfl

end CollectorView

end Instrumentation
