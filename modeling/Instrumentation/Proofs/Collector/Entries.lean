import Instrumentation.Proofs.Collector.Spans

namespace Instrumentation

/-! What a view does around a call: how the call is entered, the sample that is taken when
its work has returned, and how it is closed. A call through a view is just its work between
these. -/

variable {Host Fault Value : Type}

inductive Entry where
  | root
  | span (slot : Option Nat)
  | sample

namespace CollectorView

variable (view : CollectorView) (metric : Metric) (world : World Host)

def showing : UInt64 :=
  (world.clocks.get (world.collectors.get view.collector).clock).reading

def enterSpan (detail : Detail) : Entry × World Host :=
  let (slot, state) := (world.collectors.get view.collector).enterSpan world.thread metric.name
    detail (view.showing world)
  (.span slot, world.setCollector view.collector state)

def enterCall (call : Call) : Entry × World Host :=
  match call with
  | .rootSpan detail =>
      match (world.collectors.get view.collector).openTrace world.thread
          (view.opened metric detail world) with
      | none => view.enterSpan metric world detail
      | some state =>
          (.root, ({ world with traces := world.traces + 1 }).setCollector view.collector state)
  | .span detail => view.enterSpan metric world detail
  | .tryRecord | .record => (.sample, world)

def close (thread : ThreadId) : Entry → Nat → Outcome → Program Host Unit
  | .root => view.closeRoot thread
  | .span slot => view.closeSpan thread slot
  | .sample => fun _ _ => pure ()

def sampled (start : UInt64) (ending : Except Payload (Except Fault Value)) : World Host :=
  match ending with
  | .error _ => world
  | .ok _ =>
      { world with
        stats := world.stats.modify metric.stats (·.record (view.lasting start world)) }

@[simp] theorem sampled_thread (start : UInt64) (ending : Except Payload (Except Fault Value)) :
    (view.sampled metric world start ending).thread = world.thread := by
  cases ending <;> rfl

@[simp] theorem sampled_showing (start : UInt64) (ending : Except Payload (Except Fault Value)) :
    view.showing (view.sampled metric world start ending) = view.showing world := by
  cases ending <;> rfl

@[simp] theorem sampled_lasting (start : UInt64) (ending : Except Payload (Except Fault Value)) :
    view.lasting start (view.sampled metric world start ending) = view.lasting start world := by
  cases ending <;> rfl

theorem recordMetricData_enter :
    (view.recordMetricData metric).enter world =
      (.ok (some (view.afterCall metric (view.showing world)
        (view.close world.thread .sample))), world) := by
  have resumes (afterwards : CallEnding → Program Host Unit)
      (same : ∀ ending, afterwards ending =
        view.afterCall metric (view.showing world) (view.close world.thread .sample) ending) :
      (Except.ok (some afterwards), world) =
        ((.ok (some (view.afterCall metric (view.showing world)
          (view.close world.thread .sample))), world) : Except Payload _ × World Host) := by
    rw [funext same]
  exact resumes _ fun ending => by cases ending <;> rfl

theorem onEngine_enter (call : Call) :
    (call.onEngine view.methods metric).enter world =
      let (entry, entered) := view.enterCall metric world call
      (.ok (some (view.afterCall metric (view.showing world) (view.close world.thread entry))),
        entered) := by
  cases call with
  | span detail => rfl
  | rootSpan detail =>
      refine (view.executeRootSpan_enter_apply metric detail world).trans ?_
      rw [enterCall]
      dsimp only
      cases (world.collectors.get view.collector).openTrace world.thread
        (view.opened metric detail world) <;> rfl
  | tryRecord | record => exact view.recordMetricData_enter metric world

theorem close_returns (thread : ThreadId) (entry : Entry) (duration : Nat) (outcome : Outcome) :
    (view.close thread entry duration outcome world).1 = .ok () := by
  rcases entry with _ | ⟨_ | slot⟩ | _
  · have closed : view.onCollector (·.closeTrace thread) world =
        (.ok ((world.collectors.get view.collector).activeOn thread), _) :=
      view.onCollector_apply _ world
    rw [close, closeRoot, Program.bind_of_ok closed]
    cases (world.collectors.get view.collector).activeOn thread <;> rfl
  · rfl
  · rfl
  · rfl

theorem afterCall_apply (start : UInt64) (thread : ThreadId) (entry : Entry)
    (describe : Fault → String) (ending : Except Payload (Except Fault Value)) :
    view.afterCall metric start (view.close thread entry)
        (ending.map (Outcome.ofResult describe)) world =
      (ending.map fun _ => (),
        (view.close thread entry (view.lasting start world) (.ofEnding describe ending)
          (view.sampled metric world start ending)).2) := by
  have returns (duration : Nat) (outcome : Outcome) (world : World Host) :
      view.close thread entry duration outcome world =
        (.ok (), (view.close thread entry duration outcome world).2) :=
    Prod.ext (view.close_returns world thread entry duration outcome) rfl
  cases ending with
  | ok result => exact returns (view.lasting start world) (Outcome.ofResult describe result) _
  | error payload =>
      have elapsed : view.elapsed start world = (.ok (view.lasting start world), world) := rfl
      change view.afterCall metric start _ (.error payload) world = _
      rw [afterCall, Program.bind_of_ok elapsed]
      exact Program.bind_of_ok (returns (view.lasting start world) .panicked world) _

/-- A call through a view: it is entered, its work runs, a sample is taken if the work
returned, and it is closed. -/
theorem runIntercepted_call (call : Call) (describe : Fault → String)
    (work : Program Host (Except Fault Value)) :
    runIntercepted (call.onEngine view.methods metric) (call.classify describe) work world =
      let (entry, entered) := view.enterCall metric world call
      let (ending, left) := work entered
      (ending,
        (view.close world.thread entry (view.lasting (view.showing world) left)
          (.ofEnding describe ending)
          (view.sampled metric left (view.showing world) ending)).2) := by
  rcases enters : view.enterCall metric world call with ⟨entry, entered⟩
  have entering := view.onEngine_enter metric world call
  rw [enters] at entering
  rw [runIntercepted_of_proceeds _ _ entering]
  dsimp only
  rcases work entered with ⟨ending, left⟩
  -- What a call that only takes a sample is shown of its work makes no difference.
  have shown : view.afterCall metric (view.showing world) (view.close world.thread entry)
        (ending.map (call.classify describe)) left =
      view.afterCall metric (view.showing world) (view.close world.thread entry)
        (ending.map (Outcome.ofResult describe)) left := by
    cases call with
    | record =>
        cases enters
        cases ending <;> rfl
    | _ => rfl
  simp only [shown, afterCall_apply]
  cases ending <;> rfl

end CollectorView

/-! ## What else there is -/

structure KeepsMetrics (before after : World Host) : Prop where
  stats : after.stats = before.stats
  metrics : ∀ key, (after.collectors.get key).metrics = (before.collectors.get key).metrics
  clock : ∀ key, (after.collectors.get key).clock = (before.collectors.get key).clock

structure OnlyTraced (before after : World Host) : Prop extends KeepsMetrics before after where
  host : after.host = before.host
  thread : after.thread = before.thread
  clocks : after.clocks = before.clocks

namespace OnlyTraced

variable {before between after : World Host}

theorem of_collectors (collectors : after.collectors = before.collectors)
    (stats : after.stats = before.stats) (host : after.host = before.host)
    (thread : after.thread = before.thread) (clocks : after.clocks = before.clocks) :
    OnlyTraced before after where
  stats
  metrics key := by rw [collectors]
  clock key := by rw [collectors]
  host
  thread
  clocks

theorem refl (world : World Host) : OnlyTraced world world :=
  of_collectors rfl rfl rfl rfl rfl

theorem trans (first : OnlyTraced before between) (second : OnlyTraced between after) :
    OnlyTraced before after where
  stats := second.stats.trans first.stats
  metrics key := (second.metrics key).trans (first.metrics key)
  clock key := (second.clock key).trans (first.clock key)
  host := second.host.trans first.host
  thread := second.thread.trans first.thread
  clocks := second.clocks.trans first.clocks

theorem of_setCollector (world : World Host) {key : Key Collector} {state : Collector}
    (metrics : state.metrics = (world.collectors.get key).metrics)
    (clock : state.clock = (world.collectors.get key).clock) :
    OnlyTraced world (world.setCollector key state) where
  host := rfl
  thread := rfl
  clocks := rfl
  stats := rfl
  metrics other := by
    rw [World.setCollector, Table.get_put]
    split
    · next same => rw [same, metrics]
    · rfl
  clock other := by
    rw [World.setCollector, Table.get_put]
    split
    · next same => rw [same, clock]
    · rfl

end OnlyTraced

namespace Collector

variable (collector : Collector) (thread : ThreadId)

theorem enterSpan_keeps (metric : String) (detail : Detail) (start : UInt64) :
    let later := (collector.enterSpan thread metric detail start).2
    later.metrics = collector.metrics ∧ later.clock = collector.clock := by
  rw [enterSpan]
  split <;> exact ⟨rfl, rfl⟩

theorem leaveSpan_keeps (slot duration : Nat) (outcome : Outcome) :
    let later := collector.leaveSpan thread slot duration outcome
    later.metrics = collector.metrics ∧ later.clock = collector.clock := by
  rw [leaveSpan]
  split <;> exact ⟨rfl, rfl⟩

end Collector

namespace CollectorView

variable (view : CollectorView) (metric : Metric) (world : World Host)

theorem enterSpan_onlyTraced (detail : Detail) :
    OnlyTraced world (view.enterSpan metric world detail).2 := by
  have ⟨metrics, clock⟩ := (world.collectors.get view.collector).enterSpan_keeps world.thread
    metric.name detail (view.showing world)
  exact .of_setCollector world metrics clock

theorem enterCall_onlyTraced (call : Call) :
    OnlyTraced world (view.enterCall metric world call).2 := by
  cases call with
  | span detail => exact view.enterSpan_onlyTraced metric world detail
  | tryRecord | record => exact .refl world
  | rootSpan detail =>
      rw [enterCall]
      cases opens : (world.collectors.get view.collector).openTrace world.thread
          (view.opened metric detail world) with
      | none => exact view.enterSpan_onlyTraced metric world detail
      | some state =>
          rcases Collector.openTrace_eq_some opens with ⟨_, rfl⟩
          have counted : OnlyTraced world { world with traces := world.traces + 1 } :=
            .of_collectors rfl rfl rfl rfl rfl
          exact counted.trans (.of_setCollector _ rfl rfl)

theorem pushCompleted_onlyTraced (trace : CompletedTrace) :
    OnlyTraced world (view.pushCompleted trace world).2 := by
  let event := Event.traceCompleted trace.plugin trace.duration trace.spans.length
  have told : OnlyTraced world { world with events := world.events ++ [event] } :=
    .of_collectors rfl rfl rfl rfl rfl
  rw [pushCompleted_apply]
  exact told.trans (.of_setCollector _ rfl rfl)

theorem close_onlyTraced (thread : ThreadId) (entry : Entry) (duration : Nat)
    (outcome : Outcome) : OnlyTraced world (view.close thread entry duration outcome world).2 := by
  rcases entry with _ | ⟨_ | slot⟩ | _
  · let state := world.collectors.get view.collector
    have closed : view.onCollector (·.closeTrace thread) world = (.ok (state.activeOn thread), _) :=
      view.onCollector_apply _ world
    have left : OnlyTraced world (world.setCollector view.collector (state.setActive thread none)) :=
      .of_setCollector world rfl rfl
    rw [close, closeRoot, Program.bind_of_ok closed]
    cases state.activeOn thread with
    | none => exact left
    | some trace =>
        exact left.trans (view.pushCompleted_onlyTraced _ (trace.complete duration outcome))
  · exact .refl world
  · rcases (world.collectors.get view.collector).leaveSpan_keeps thread slot duration outcome
      with ⟨metrics, clock⟩
    exact .of_setCollector world metrics clock
  · exact .refl world

end CollectorView

end Instrumentation
