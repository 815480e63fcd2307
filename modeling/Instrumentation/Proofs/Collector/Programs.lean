import Instrumentation.Proofs.Collector.Assembly
import Instrumentation.Proofs.Collector.Mirror

namespace Instrumentation.Threads

/-! Programs of calls are threads at work. What a program does to a collector is what the
thread that runs it does step by step, in whatever calls it is already; when the program
ends the thread is in the same calls as before. -/

variable {Host Fault Value : Type} {key : Key Collector}

/-! ## The steps of one thread -/

abbrev Activity.Runs (thread : ThreadId) : Collector × Activity → Collector × Activity → Prop :=
  Relation.ReflTransGen fun before after => before.2.Moves before.1 thread after.1 after.2

theorem Activity.Moves.runs {collector later : Collector} {thread : ThreadId}
    {activity next : Activity} (moves : activity.Moves collector thread later next) :
    Activity.Runs thread (collector, activity) (later, next) :=
  .single moves

theorem Activity.Runs.becomes {thread : ThreadId} {before after : Collector × Activity}
    (runs : Activity.Runs thread before after) (threads : ThreadId → Activity)
    (here : threads thread = before.2) :
    Scene.Becomes ⟨before.1, threads⟩
      ⟨after.1, Function.update threads thread after.2⟩ := by
  induction runs with
  | refl =>
      rw [← here, Function.update_eq_self]
  | @tail between after _ moves induction =>
      let reached : Scene := ⟨between.1, Function.update threads thread between.2⟩
      have now : reached.threads thread = between.2 := Function.update_self ..
      have step : reached.Step (reached.after thread after.1 after.2) := by
        apply Scene.Step.moves
        rw [now]
        exact moves
      have same : reached.after thread after.1 after.2 =
          ⟨after.1, Function.update threads thread after.2⟩ := by
        simp [reached, Scene.after]
      rw [same] at step
      exact induction.tail step

/-! ## Programs -/

/-- The thread that runs comes from these calls to those while the world comes to `later`,
whatever calls it is in besides. -/
structure Reaches (key : Key Collector) (world : World Host) (calls : List Frame)
    (later : World Host) (next : List Frame) : Prop where
  thread : later.thread = world.thread
  services : later.services = world.services
  runs : ∀ outer : List Frame, Activity.Runs world.thread
    (world.collectors.get key, { frames := calls ++ outer })
    (later.collectors.get key, { frames := next ++ outer })

namespace Reaches

variable {world between later : World Host} {calls next last : List Frame}

theorem refl (world : World Host) (calls : List Frame) : Reaches key world calls world calls :=
  ⟨rfl, rfl, fun _ => .refl⟩

theorem trans (first : Reaches key world calls between next)
    (second : Reaches key between next later last) : Reaches key world calls later last where
  thread := second.thread.trans first.thread
  services := second.services.trans first.services
  runs outer := by
    have onward := second.runs outer
    rw [first.thread] at onward
    exact (first.runs outer).trans onward

theorem of_undisturbed (kept : Undisturbed key world later) (calls : List Frame) :
    Reaches key world calls later calls where
  thread := kept.thread
  services := kept.services
  runs outer := by rw [kept.collector]

theorem within (reaches : Reaches key world [] later []) (calls : List Frame) :
    Reaches key world calls later calls where
  thread := reaches.thread
  services := reaches.services
  runs outer := reaches.runs (calls ++ outer)

theorem of_written {state : Collector} (thread : between.thread = world.thread)
    (services : between.services = world.services)
    (runs : ∀ outer : List Frame, Activity.Runs world.thread
      (world.collectors.get key, { frames := calls ++ outer })
      (state, { frames := next ++ outer })) :
    Reaches key world calls (between.setCollector key state) next where
  thread := thread
  services := services
  runs outer := by
    have now : (between.setCollector key state).collectors.get key = state :=
      between.collectors.get_put_same key state
    rw [now]
    exact runs outer

end Reaches

/-! ## Calls -/

section Calls

variable {world entered : World Host} {view : CollectorView}

theorem runIntercepted_reaches {interception : Interception Host} {metric : Metric}
    {start : UInt64} {close : Nat → Outcome → Program Host Unit} {frame : Frame}
    (entering :
      interception.enter world = (.ok (some (view.afterCall metric start close)), entered))
    (enters : Reaches view.collector world [] entered [frame])
    (describe : Fault → String) (work : Program Host (Except Fault Value))
    (worked : Reaches view.collector entered [] (work entered).2 [])
    (closes : ∀ duration outcome left, left.thread = world.thread →
      ∃ later, close duration outcome left = (.ok (), later) ∧
        Reaches view.collector left [frame] later []) :
    Reaches view.collector world []
      (runIntercepted interception (Outcome.ofResult describe) work world).2 [] := by
  rcases view.runIntercepted_of_closes entering describe work with ⟨sampled, kept, ends⟩
  have inside : Reaches view.collector world [] sampled [frame] :=
    enters.trans ((worked.within _).trans (.of_undisturbed kept _))
  rcases closes (view.lasting start sampled) (.ofEnding describe (work entered).1) sampled
    inside.thread with ⟨later, closed, left⟩
  rw [ends later closed]
  exact inside.trans left

theorem closeSpan_reaches (nestedRoot : Option Detail) {thread : ThreadId} (slot : Option Nat)
    (duration : Nat) (outcome : Outcome) {left : World Host} (same : left.thread = thread) :
    ∃ later, view.closeSpan thread slot duration outcome left = (.ok (), later) ∧
      Reaches view.collector left [.span nestedRoot slot] later [] := by
  subst same
  cases slot with
  | none =>
      refine ⟨left, rfl, rfl, rfl, ?_⟩
      intro outer
      exact (Activity.Moves.leavesUntraced outer nestedRoot).runs
  | some slot =>
      refine ⟨_, view.closeSpan_apply _ slot duration outcome left, .of_written rfl rfl ?_⟩
      intro outer
      exact (Activity.Moves.leaves outer nestedRoot slot duration outcome).runs

theorem closeRoot_reaches (opening : Opening) {thread : ThreadId} (duration : Nat)
    (outcome : Outcome) {left : World Host} (same : left.thread = thread) :
    ∃ later, view.closeRoot thread duration outcome left = (.ok (), later) ∧
      Reaches view.collector left [.root opening] later [] := by
  subst same
  let state := left.collectors.get view.collector
  let closed := left.setCollector view.collector (state.setActive left.thread none)
  have taken : view.onCollector (·.closeTrace left.thread) left =
      (.ok (state.activeOn left.thread), closed) := rfl
  have closes (outer : List Frame) : Activity.Moves state left.thread
      { frames := .root opening :: outer } (state.setActive left.thread none)
      { frames := outer, next := .afterClose duration outcome (state.activeOn left.thread) } :=
    .closes outer opening duration outcome _ _ rfl
  rw [CollectorView.closeRoot, Program.bind_of_ok taken]
  cases active : state.activeOn left.thread with
  | none =>
      rw [active] at closes
      refine ⟨closed, rfl, .of_written rfl rfl ?_⟩
      intro outer
      exact (closes outer).runs
  | some trace =>
      rw [active] at closes
      have now : closed.collectors.get view.collector = state.setActive left.thread none :=
        left.collectors.get_put_same _ _
      refine ⟨_, view.pushCompleted_apply _ closed, .of_written rfl rfl ?_⟩
      intro outer
      rw [now]
      exact (closes outer).runs.trans (Activity.Moves.keeps outer _).runs

/-- A call that is entered as a span, whether or not it was meant as a root span. -/
theorem span_reaches {interception : Interception Host} {metric : Metric} {detail : Detail}
    (spans : interception.enter world = (view.executeSpan metric detail).enter world)
    (nestedRoot : Option Detail)
    (enters : ∀ (outer : List Frame) (start : UInt64) (slot : Option Nat) (state : Collector),
      (world.collectors.get view.collector).enterSpan world.thread metric.name detail start =
        (slot, state) →
      Activity.Runs world.thread (world.collectors.get view.collector, { frames := outer })
        (state, { frames := .span nestedRoot slot :: outer }))
    (describe : Fault → String) (work : Program Host (Except Fault Value))
    (worked : ∀ entered : World Host, entered.services = world.services →
      Reaches view.collector entered [] (work entered).2 []) :
    Reaches view.collector world []
      (runIntercepted interception (Outcome.ofResult describe) work world).2 [] := by
  rw [CollectorView.executeSpan_enter_apply] at spans
  let start := (world.clocks.get (world.collectors.get view.collector).clock).reading
  rcases entering : (world.collectors.get view.collector).enterSpan world.thread metric.name
    detail start with ⟨slot, state⟩
  simp only [start] at entering
  simp only [entering] at spans
  have entered : Reaches view.collector world [] (world.setCollector view.collector state)
      [.span nestedRoot slot] := by
    apply Reaches.of_written rfl rfl
    intro outer
    exact enters outer _ slot state entering
  apply runIntercepted_reaches spans entered describe work (worked _ rfl)
  intro duration outcome left same
  exact closeSpan_reaches nestedRoot slot duration outcome same

theorem executeSpan_reaches (view : CollectorView) (metric : Metric) (detail : Detail)
    (describe : Fault → String) (work : Program Host (Except Fault Value))
    (worked : ∀ entered : World Host, entered.services = world.services →
      Reaches view.collector entered [] (work entered).2 []) :
    Reaches view.collector world []
      (runIntercepted (view.executeSpan metric detail) (Outcome.ofResult describe) work
        world).2 [] := by
  apply span_reaches rfl none
  · intro outer start slot state entering
    exact (Activity.Moves.enters outer metric.name detail start slot state entering).runs
  · exact worked

theorem executeRootSpan_reaches (view : CollectorView) (metric : Metric) (detail : Detail)
    (describe : Fault → String) (work : Program Host (Except Fault Value))
    (worked : ∀ entered : World Host, entered.services = world.services →
      Reaches view.collector entered [] (work entered).2 []) :
    Reaches view.collector world []
      (runIntercepted (view.executeRootSpan metric detail) (Outcome.ofResult describe) work
        world).2 [] := by
  let opening : Opening := ⟨view.plugin, metric.name, detail⟩
  have enters := view.executeRootSpan_enter_apply metric detail world
  cases opens : (world.collectors.get view.collector).openTrace world.thread
      (view.opened metric detail world) with
  | none =>
      simp only [opens] at enters
      apply span_reaches enters (some detail)
      · intro outer start slot state entering
        have refused := Activity.Moves.refused outer _ _ opening opens
        have nests := Activity.Moves.nests outer metric.name detail start slot state entering
        exact refused.runs.trans nests.runs
      · exact worked
  | some state =>
      simp only [opens] at enters
      let counted : World Host := { world with traces := world.traces + 1 }
      have entered : Reaches view.collector world []
          (counted.setCollector view.collector state) [.root opening] := by
        refine .of_written rfl rfl ?_
        intro outer
        exact (Activity.Moves.opens outer _ _ opening state opens).runs
      apply runIntercepted_reaches enters entered describe work (worked _ rfl)
      intro duration outcome left same
      exact closeRoot_reaches opening duration outcome same

/-- The thread is in the call while the work runs, which the collector does not notice. -/
theorem recordMetricData_reaches (view : CollectorView) (metric : Metric)
    (classify : Value → Outcome) (work : Program Host Value)
    (worked : ∀ entered : World Host, entered.services = world.services →
      Reaches view.collector entered [] (work entered).2 []) :
    Reaches view.collector world []
      (runIntercepted (view.recordMetricData metric) classify work world).2 [] := by
  rcases runIntercepted_of_passesBy (CollectorView.recordMetricData_passesBy metric) classify work
    world with ⟨entered, later, before, behind, ends⟩
  have samples : Reaches view.collector entered [] entered [.sample] :=
    ⟨rfl, rfl, fun outer => (Activity.Moves.samples outer).runs⟩
  have sampled : Reaches view.collector later [.sample] later [] :=
    ⟨rfl, rfl, fun outer => (Activity.Moves.sampled outer).runs⟩
  rw [ends]
  have inside := (worked entered before.services).trans (.of_undisturbed behind [])
  exact (Reaches.of_undisturbed before []).trans
    (samples.trans ((inside.within [.sample]).trans sampled))

theorem putTraceAttribute_reaches (view : CollectorView) (name value : String)
    (world : World Host) :
    ∃ answer later, view.putTraceAttribute name value world = (.ok answer, later) ∧
      Reaches view.collector world [] later [] := by
  let put := (world.collectors.get view.collector).putAttribute world.thread name value
  let written := world.setCollector view.collector put.2
  have stored : Reaches view.collector world [] written [] := by
    apply Reaches.of_written rfl rfl
    intro outer
    exact (Activity.Moves.puts outer name value).runs
  have fate : view.onCollector (·.putAttribute world.thread name value) world =
      (.ok put.1, written) := rfl
  have told (event : Event) : Undisturbed view.collector written
      { written with events := written.events ++ [event] } := ⟨rfl, rfl, rfl, rfl⟩
  rw [CollectorView.putTraceAttribute,
    Program.bind_of_ok (Program.currentThread_apply world), Program.bind_of_ok fate]
  cases put.1 with
  | kept => exact ⟨_, _, rfl, stored⟩
  | overLimit => exact ⟨_, _, rfl, stored.trans (.of_undisturbed (told _) [])⟩
  | outsideTrace => exact ⟨_, _, rfl, stored.trans (.of_undisturbed (told _) [])⟩

end Calls

/-! ## Trees of calls -/

section Trees

variable [HostEngines Host] {world : World Host} {callee : Callee}

theorem onCallee_reaches (key : Key Collector) (known : callee.IsKnown world.services)
    (metric : Metric) (call : Call) (describe : Fault → String)
    (work : Program Host (Except Fault Value))
    (worked : ∀ entered : World Host, entered.services = world.services →
      Reaches key entered [] (work entered).2 []) :
    Reaches key world [] (call.onCallee callee metric describe work world).2 [] := by
  -- Whatever passes by leaves the thread in no call of this collector.
  have passing (interception : Interception Host) (passes : interception.PassesBy key) :
      Reaches key world []
        (runIntercepted interception (call.classify describe) work world).2 [] := by
    rcases runIntercepted_of_passesBy passes (call.classify describe) work world
      with ⟨entered, later, before, behind, ends⟩
    rw [ends]
    exact (Reaches.of_undisturbed before []).trans
      ((worked entered before.services).trans (.of_undisturbed behind []))
  rw [Call.onCallee_apply]
  cases through : callee.engine? world.services with
  | none => exact worked world rfl
  | some engine =>
      by_cases here : ∃ plugin, engine = .view key plugin
      · rcases here with ⟨plugin, rfl⟩
        let view : CollectorView := ⟨key, plugin⟩
        cases call with
        | rootSpan detail =>
            exact executeRootSpan_reaches view metric detail describe work worked
        | span detail => exact executeSpan_reaches view metric detail describe work worked
        | tryRecord => exact recordMetricData_reaches view metric _ work worked
        | record => exact recordMetricData_reaches view metric _ work worked
      · apply passing
        apply Call.onEngine_passesBy (known engine through)
        intro plugin same
        exact (here ⟨plugin, same⟩).elim

theorem callee_putTraceAttribute_reaches (key : Key Collector)
    (known : callee.IsKnown world.services) (name value : String) :
    ∃ answer later, callee.putTraceAttribute name value world = (.ok answer, later) ∧
      Reaches key world [] later [] := by
  cases through : callee.engine? world.services with
  | none =>
      rcases Callee.putTraceAttribute_of_none through key name value with ⟨later, kept, puts⟩
      exact ⟨_, later, puts, .of_undisturbed kept []⟩
  | some engine =>
      rw [(Callee.putTraceAttribute_of_engine through name value).1]
      have passing (quiet : Quiet key (Gives (· = .ok ()))
          ((engine.methods : EngineMethods Host).putTraceAttribute name value)) :
          ∃ answer later,
            (engine.methods : EngineMethods Host).putTraceAttribute name value world =
              (.ok answer, later) ∧ Reaches key world [] later [] := by
        rcases quiet.returned world with ⟨answer, later, puts, _, kept⟩
        exact ⟨answer, later, puts, .of_undisturbed kept []⟩
      cases engine with
      | host => exact (known _ through).elim
      | recorder recorder => exact passing (Recorder.quiet_putTraceAttribute recorder name value)
      | view collector plugin =>
          by_cases here : collector = key
          · subst here
            exact putTraceAttribute_reaches ⟨collector, plugin⟩ name value world
          · exact passing (CollectorView.quiet_putTraceAttribute here name value)

/-- What a tree of calls does to a collector is what a thread does. -/
theorem run_reaches (key : Key Collector) (describe : Fault → String)
    (tree : CallTree Host Fault Value) (known : tree.CallsOnly (Callee.IsKnown world.services)) :
    Reaches key world [] (tree.run describe world).2 [] := by
  induction tree generalizing world with
  | ends ending => exact .refl world []
  | acts change rest induction =>
      let acted := world.inSurroundings (change world.surroundings)
      have moved : Reaches key world [] acted [] := ⟨rfl, rfl, fun _ => .refl⟩
      exact moved.trans (induction (change world.surroundings) (known _))
  | puts callee name value rest induction =>
      rcases known with ⟨knownCallee, knownRest⟩
      rcases callee_putTraceAttribute_reaches key knownCallee name value
        with ⟨answer, later, puts, reaches⟩
      rw [CallTree.run, Program.bind_of_ok puts]
      rw [← reaches.services] at knownRest
      exact reaches.trans (induction answer (knownRest answer))
  | calls callee metric call work rest workInduction restInduction =>
      rcases known with ⟨knownCallee, knownWork, knownRest⟩
      have reaches := onCallee_reaches key knownCallee metric call describe
        (work.run describe) fun entered same => workInduction (same ▸ knownWork)
      rw [← reaches.services] at knownRest
      exact reaches.trans (restInduction _ (knownRest _))

/-- What a tree of calls leaves of a new collector is a scene in which no thread is in any
call. -/
theorem run_scene (describe : Fault → String) (tree : CallTree Host Fault Value)
    (known : tree.CallsOnly (Callee.IsKnown world.services)) {config : EngineConfig}
    {clock : Key Clock} (new : world.collectors.get key = { config, clock }) :
    (Scene.opening config clock).Becomes
      ⟨(tree.run describe world).2.collectors.get key, fun _ => {}⟩ := by
  have runs := (run_reaches key describe tree known).runs []
  have becomes := runs.becomes (fun _ => {}) rfl
  rw [new] at becomes
  simpa [Scene.opening] using becomes

/-- When the tree has ended, whichever way, no thread has a trace left open. -/
theorem run_leaves_untraced (describe : Fault → String) (tree : CallTree Host Fault Value)
    (known : tree.CallsOnly (Callee.IsKnown world.services)) {config : EngineConfig}
    {clock : Key Clock} (new : world.collectors.get key = { config, clock })
    (thread : ThreadId) :
    ((tree.run describe world).2.collectors.get key).activeOn thread = none := by
  have reached := run_scene describe tree known new
  rcases mirrored_of_becomes reached thread with ⟨place, nested, agrees, _⟩
  cases nested
  generalize Collector.activeOn _ thread = entry at agrees ⊢
  cases agrees
  rfl

end Trees

end Instrumentation.Threads
