import Instrumentation.Proofs.Collector.Workers
import Mathlib.Logic.Relation

namespace Instrumentation.Workers

/-! Programs as a whole. A thread that takes its program step by step, and that nobody
interrupts, does to what all share just what the program does that runs at once, as long
as the clock shows it what the program reads there. -/

variable {Host Fault Value : Type} {describe : Fault → String} {clock : Nat → UInt64}
  {thread : ThreadId}

def Script.run (key : Key Collector) (describe : Fault → String) :
    Script Fault Value → Program Host (Except Fault Value)
  | .ends ending => finish ending
  | .waits nanoseconds rest => do
      Clock.moveOn (← Collector.read key).clock nanoseconds
      rest.run key describe
  | .puts plugin name value rest => do
      let view : CollectorView := ⟨key, plugin⟩
      (rest (← view.methods.putTraceAttribute name value)).run key describe
  | .asks plugin rest => do
      let view : CollectorView := ⟨key, plugin⟩
      (rest (← view.methods.rootSpanDetail)).run key describe
  | .calls plugin metric call work rest => do
      let view : CollectorView := ⟨key, plugin⟩
      let ending ← attempt (runIntercepted (call.onEngine view.methods metric)
        (call.classify describe) (work.run key describe))
      (rest ending).run key describe

def Shared.ofWorld (key : Key Collector) (world : World Host) : Shared where
  collector := world.collectors.get key
  stats := world.stats
  traces := world.traces

theorem Shared.ofWorld_setCollector (key : Key Collector) (world : World Host)
    (state : Collector) :
    Shared.ofWorld key (world.setCollector key state) =
      { Shared.ofWorld key world with collector := state } := by
  rw [ofWorld, World.setCollector, Table.get_put_same]
  rfl

def Shows (clock : Nat → UInt64) : Nat → List UInt64 → Prop
  | _, [] => True
  | first, reading :: rest => clock first = reading ∧ Shows clock (first + 1) rest

theorem shows_append {first : Nat} {taken more : List UInt64} :
    Shows clock first (taken ++ more) ↔
      Shows clock first taken ∧ Shows clock (first + taken.length) more := by
  induction taken generalizing first with
  | nil => simp [Shows]
  | cons reading rest induction =>
      have order : first + 1 + rest.length = first + (rest.length + 1) := by omega
      rw [List.cons_append, Shows, induction, Shows, List.length_cons, order, and_assoc]

/-! ## A thread by itself -/

abbrev Goes (describe : Fault → String) (clock : Nat → UInt64) (thread : ThreadId) :
    Shared × Worker Fault Value → Shared × Worker Fault Value → Prop :=
  Relation.ReflTransGen fun before after =>
    before.2.step describe clock thread before.1 = after

structure Comes (describe : Fault → String) (clock : Nat → UInt64) (thread : ThreadId)
    (before after : Shared × Worker Fault Value) (later : Shared) (script : Script Fault Value)
    (frames : List (Frame Fault Value)) (readings : Nat) : Prop where
  goes : Goes describe clock thread before after
  shared : after.1 = later
  control : after.2.control = .runs script
  frames : after.2.frames = frames
  reads : after.2.reads = before.2.reads + readings

namespace Comes

variable {before between after : Shared × Worker Fault Value} {reached later : Shared}
  {script next : Script Fault Value} {frames outer : List (Frame Fault Value)}
  {first readings : Nat}

theorem trans (comes : Comes describe clock thread before between reached script frames first)
    (onward : Comes describe clock thread between after later next outer readings) :
    Comes describe clock thread before after later next outer (first + readings) where
  goes := comes.goes.trans onward.goes
  shared := onward.shared
  control := onward.control
  frames := onward.frames
  reads := by rw [onward.reads, comes.reads, Nat.add_assoc]

theorem head (step : before.2.step describe clock thread before.1 = between)
    (reads : between.2.reads + first = before.2.reads + readings)
    (onward : Comes describe clock thread between after later next outer first) :
    Comes describe clock thread before after later next outer readings where
  goes := .head step onward.goes
  shared := onward.shared
  control := onward.control
  frames := onward.frames
  reads := onward.reads.trans reads

end Comes

/-! ## Entering a call -/

section Enter

variable {view : CollectorView} {metric : Metric} {world : World Host}
  {worker : Worker Fault Value} {work : Script Fault Value}
  {rest : Ending Fault Value → Script Fault Value}

def Inside (describe : Fault → String) (clock : Nat → UInt64) (view : CollectorView)
    (metric : Metric) (world : World Host) (worker : Worker Fault Value)
    (work : Script Fault Value) (rest : Ending Fault Value → Script Fault Value)
    (entered : Entry × World Host) (readings : Nat) : Prop :=
  ∃ after started, clock started = view.showing world ∧
    Comes describe clock world.thread (.ofWorld view.collector world, worker) after
      (.ofWorld view.collector entered.2) work
      ({ entry := entered.1, metric, started, rest } :: worker.frames) readings

theorem inside_of_enterSpan {detail : Detail}
    (step : worker.step describe clock world.thread (.ofWorld view.collector world) =
      worker.enterSpan clock world.thread (.ofWorld view.collector world) metric detail work rest)
    (shows : clock worker.reads = view.showing world) :
    Inside describe clock view metric world worker work rest
      (view.enterSpan metric world detail) 1 := by
  rcases entering : (world.collectors.get view.collector).enterSpan world.thread metric.name
    detail (view.showing world) with ⟨slot, state⟩
  rw [Worker.enterSpan, shows] at step
  simp only [Shared.ofWorld, entering] at step
  rw [CollectorView.enterSpan, entering]
  refine ⟨_, worker.reads, shows, .single step, ?_, rfl, rfl, rfl⟩
  exact (Shared.ofWorld_setCollector view.collector world state).symm

theorem step_rootSpan (describe : Fault → String) {detail : Detail}
    (control : worker.control = .runs (.calls view.plugin metric (.rootSpan detail) work rest))
    (shows : clock worker.reads = view.showing world) :
    worker.step describe clock world.thread (.ofWorld view.collector world) =
      match (world.collectors.get view.collector).openTrace world.thread
          (view.opened metric detail world) with
      | none =>
          (.ofWorld view.collector world,
            { worker with
              control := .nests metric detail work rest, reads := worker.reads + 1 })
      | some state =>
          ({ Shared.ofWorld view.collector world with
              collector := state, traces := world.traces + 1 },
            { worker.within .root metric work rest with timings := [] }) := by
  rw [Worker.step, control]
  simp only [Worker.enterRoot, shows]
  rfl

def openings (view : CollectorView) (metric : Metric) (world : World Host) : Call → List UInt64
  | .rootSpan detail =>
      match (world.collectors.get view.collector).openTrace world.thread
          (view.opened metric detail world) with
      | none => [view.showing world, view.showing world]
      | some _ => [view.showing world]
  | .span _ | .tryRecord | .record => [view.showing world]

theorem inside_of_rootSpan {detail : Detail}
    (control : worker.control = .runs (.calls view.plugin metric (.rootSpan detail) work rest))
    (shows : Shows clock worker.reads (openings view metric world (.rootSpan detail))) :
    Inside describe clock view metric world worker work rest
      (view.enterCall metric world (.rootSpan detail))
      (openings view metric world (.rootSpan detail)).length := by
  rw [CollectorView.enterCall]
  rw [openings] at shows ⊢
  cases opens : (world.collectors.get view.collector).openTrace world.thread
      (view.opened metric detail world) with
  | none =>
      rw [opens] at shows
      rcases shows with ⟨shows, showsAgain, _⟩
      have refused := step_rootSpan describe control shows
      rw [opens] at refused
      let nesting : Worker Fault Value :=
        { worker with control := .nests metric detail work rest, reads := worker.reads + 1 }
      have nests : nesting.step describe clock world.thread (.ofWorld view.collector world) =
        nesting.enterSpan clock world.thread (.ofWorld view.collector world) metric detail work
          rest := rfl
      rcases inside_of_enterSpan nests showsAgain with ⟨after, started, start, comes⟩
      exact ⟨after, started, start, .head refused rfl comes⟩
  | some state =>
      rw [opens] at shows
      rcases shows with ⟨shows, _⟩
      have step := step_rootSpan describe control shows
      rw [opens] at step
      refine ⟨_, worker.reads, shows, .single step, ?_, rfl, rfl, rfl⟩
      exact (Shared.ofWorld_setCollector view.collector
        { world with traces := world.traces + 1 } state).symm

theorem inside_of_calls (describe : Fault → String) {call : Call}
    (control : worker.control = .runs (.calls view.plugin metric call work rest))
    (shows : Shows clock worker.reads (openings view metric world call)) :
    Inside describe clock view metric world worker work rest (view.enterCall metric world call)
      (openings view metric world call).length := by
  cases call with
  | rootSpan detail => exact inside_of_rootSpan control shows
  | span detail =>
      have step : worker.step describe clock world.thread (.ofWorld view.collector world) =
          worker.enterSpan clock world.thread (.ofWorld view.collector world) metric detail
            work rest := by
        rw [Worker.step, control]
      exact inside_of_enterSpan step shows.1
  | tryRecord | record =>
      have step : worker.step describe clock world.thread (.ofWorld view.collector world) =
          (.ofWorld view.collector world, worker.within .sample metric work rest) := by
        rw [Worker.step, control]
      exact ⟨_, worker.reads, shows.1, .single step, rfl, rfl, rfl, rfl⟩

end Enter

/-! ## Leaving a call -/

structure Leaving (clock : Nat → UInt64) (worker : Worker Fault Value)
    (frame : Frame Fault Value) (outer : List (Frame Fault Value)) (ending : Ending Fault Value)
    (sample : Option Sample) (start : UInt64) : Prop where
  control : worker.control = .leaves ending sample
  frames : worker.frames = frame :: outer
  started : clock frame.started = start

section Leave

variable {view : CollectorView} {world : World Host} {worker : Worker Fault Value}
  {frame : Frame Fault Value} {outer : List (Frame Fault Value)} {ending : Ending Fault Value}
  {sample : Option Sample} {start : UInt64}

def closings (shown : UInt64) : Entry → List UInt64
  | .root | .span (some _) => [shown]
  | .span none | .sample => []

namespace Leaving

theorem leaves (leaving : Leaving clock worker frame outer ending sample start)
    (describe : Fault → String) (thread : ThreadId) (shared : Shared) :
    worker.step describe clock thread shared =
      worker.leave describe clock thread shared frame outer ending sample := by
  rw [Worker.step, leaving.control, leaving.frames]

theorem duration (leaving : Leaving clock worker frame outer ending sample start)
    (shown : clock worker.reads = view.showing world) :
    Clock.between (clock frame.started) (clock worker.reads) = view.lasting start world := by
  rw [leaving.started, shown]
  rfl

theorem root_comes (leaving : Leaving clock worker frame outer ending sample start)
    (entry : frame.entry = .root) (shown : clock worker.reads = view.showing world) :
    ∃ after, Comes describe clock world.thread (.ofWorld view.collector world, worker) after
      (.ofWorld view.collector (view.closeRoot world.thread (view.lasting start world)
        (.ofEnding describe ending) world).2) (frame.rest ending) outer 1 := by
  let completed (trace : OpenTrace) : CompletedTrace :=
    trace.complete (view.lasting start world) (.ofEnding describe ending)
  let closed := world.setCollector view.collector
    ((world.collectors.get view.collector).setActive world.thread none)
  have taken : view.onCollector (·.closeTrace world.thread) world =
      (.ok ((world.collectors.get view.collector).activeOn world.thread), closed) := rfl
  have left : Shared.ofWorld view.collector closed =
      { Shared.ofWorld view.collector world with
        collector := (world.collectors.get view.collector).setActive world.thread none } :=
    Shared.ofWorld_setCollector view.collector world _
  rw [CollectorView.closeRoot, Program.bind_of_ok taken]
  have step := leaving.leaves describe world.thread (.ofWorld view.collector world)
  simp only [Worker.leave, entry, Collector.closeTrace, Shared.ofWorld,
    leaving.duration shown] at step
  cases active : (world.collectors.get view.collector).activeOn world.thread with
  | none =>
      rw [active] at step
      exact ⟨_, .single step, left.symm, rfl, rfl, rfl⟩
  | some trace =>
      rw [active] at step
      have kept := view.pushCompleted_apply (completed trace) closed
      refine ⟨_, .tail (.single step) rfl, ?_, rfl, rfl, rfl⟩
      dsimp only
      rw [kept, Shared.ofWorld_setCollector]
      exact congrArg (fun shared : Shared =>
        { shared with collector := shared.collector.push (completed trace) }) left.symm

/-- A thread that leaves a call does what the view does when it closes it. -/
theorem comes (leaving : Leaving clock worker frame outer ending sample start)
    (shows : Shows clock worker.reads (closings (view.showing world) frame.entry)) :
    ∃ after, Comes describe clock world.thread (.ofWorld view.collector world, worker) after
      (.ofWorld view.collector (view.close world.thread frame.entry (view.lasting start world)
        (.ofEnding describe ending) world).2) (frame.rest ending) outer
      (closings (view.showing world) frame.entry).length := by
  have step := leaving.leaves describe world.thread (.ofWorld view.collector world)
  rcases entry : frame.entry with _ | ⟨_ | slot⟩ | _ <;> rw [entry] at shows
  · exact leaving.root_comes entry shows.1
  · simp only [Worker.leave, entry] at step
    exact ⟨_, .single step, rfl, rfl, rfl, rfl⟩
  · simp only [Worker.leave, entry, leaving.duration shows.1] at step
    refine ⟨_, .single step, ?_, rfl, rfl, rfl⟩
    exact (Shared.ofWorld_setCollector view.collector world _).symm
  · simp only [Worker.leave, entry] at step
    exact ⟨_, .single step, rfl, rfl, rfl, rfl⟩

end Leaving

def samplings (shown : UInt64) : Ending Fault Value → List UInt64
  | .ok _ => [shown]
  | .error _ => []

/-- When the work of a call has ended, a thread takes the sample that the view takes. -/
theorem leaving_of_ends (describe : Fault → String)
    (control : worker.control = .runs (.ends ending))
    (frames : worker.frames = frame :: outer) (started : clock frame.started = start)
    (shows : Shows clock worker.reads (samplings (view.showing world) ending)) :
    ∃ next sample,
      worker.step describe clock world.thread (.ofWorld view.collector world) =
          (.ofWorld view.collector (view.sampled frame.metric world start ending), next) ∧
        Leaving clock next frame outer ending sample start ∧
        next.reads = worker.reads + (samplings (view.showing world) ending).length := by
  have step : worker.step describe clock world.thread (.ofWorld view.collector world) =
      worker.takeSample clock (.ofWorld view.collector world) frame ending := by
    rw [Worker.step, control, frames]
  cases ending with
  | error payload => exact ⟨_, none, step, ⟨rfl, frames, started⟩, rfl⟩
  | ok result =>
      have lasted : Clock.between (clock frame.started) (clock worker.reads) =
          view.lasting start world := by
        rw [started, shows.1]
        rfl
      simp only [Worker.takeSample, lasted] at step
      exact ⟨_, _, step, ⟨rfl, frames, started⟩, rfl⟩

/-- What a thread does from the end of the work of a call until it is out of the call. -/
theorem comes_of_ends (describe : Fault → String) (control : worker.control = .runs (.ends ending))
    (frames : worker.frames = frame :: outer) (started : clock frame.started = start)
    (shows : Shows clock worker.reads
      (samplings (view.showing world) ending ++ closings (view.showing world) frame.entry)) :
    ∃ after, Comes describe clock world.thread (.ofWorld view.collector world, worker) after
      (.ofWorld view.collector (view.close world.thread frame.entry (view.lasting start world)
        (.ofEnding describe ending) (view.sampled frame.metric world start ending)).2)
      (frame.rest ending) outer
      (samplings (view.showing world) ending ++
        closings (view.showing world) frame.entry).length := by
  rw [shows_append] at shows
  rcases shows with ⟨samples, closes⟩
  rcases leaving_of_ends describe control frames started samples with
    ⟨next, sample, takes, leaving, reads⟩
  let sampled := view.sampled frame.metric world start ending
  have shown : view.showing sampled = view.showing world := view.sampled_showing ..
  rw [← reads, ← shown] at closes
  rcases leaving.comes closes with ⟨after, leaves⟩
  rw [view.sampled_thread, view.sampled_lasting, shown] at leaves
  refine ⟨after, .head takes ?_ leaves⟩
  rw [reads, List.length_append, Nat.add_assoc]

end Leave

/-! ## A program as a whole -/

namespace Script

/-- A thread by itself does the steps of the program just as the program does them at once:
the same comes of all that is shared, and the program ends in the same way. -/
def IsFollowed (key : Key Collector) (describe : Fault → String) (script : Script Fault Value)
    (world : World Host) : Prop :=
  ∃ taken, (script.run key describe world).2.thread = world.thread ∧
    ∀ (clock : Nat → UInt64) (worker : Worker Fault Value),
      worker.control = .runs script → Shows clock worker.reads taken →
      ∃ after, Comes describe clock world.thread (.ofWorld key world, worker) after
        (.ofWorld key (script.run key describe world).2)
        (.ends (script.run key describe world).1) worker.frames taken.length

theorem isFollowed_calls {key : Key Collector} {plugin : PluginId} {metric : Metric} {call : Call}
    {work : Script Fault Value} {rest : Ending Fault Value → Script Fault Value}
    {world : World Host}
    (workFollowed : ∀ entered : World Host, work.IsFollowed key describe entered)
    (restFollowed : ∀ (ending : Ending Fault Value) (later : World Host),
      (rest ending).IsFollowed key describe later) :
    (calls plugin metric call work rest).IsFollowed key describe world := by
  let view : CollectorView := ⟨key, plugin⟩
  let start := view.showing world
  rcases enters : view.enterCall metric world call with ⟨entry, entered⟩
  rcases workFollowed entered with ⟨takenWithin, workThread, worked⟩
  rcases ran : work.run key describe entered with ⟨ending, left⟩
  rw [ran] at workThread worked
  have entering := view.enterCall_onlyTraced metric world call
  rw [enters] at entering
  have leftThread : left.thread = world.thread := workThread.trans entering.thread
  let sampled := view.sampled metric left start ending
  let later := (view.close world.thread entry (view.lasting start left)
    (.ofEnding describe ending) sampled).2
  rcases restFollowed ending later with ⟨takenAfter, restThread, onward⟩
  have whole : (calls plugin metric call work rest).run key describe world =
      (rest ending).run key describe later := by
    have intercepted := view.runIntercepted_call metric world call describe
      (work.run key describe)
    rw [enters] at intercepted
    simp only [ran] at intercepted
    rw [run, Program.bind_apply, Program.attempt_apply, intercepted]
  have laterThread : later.thread = world.thread :=
    (view.close_onlyTraced sampled world.thread entry _ _).thread.trans
      ((view.sampled_thread ..).trans leftThread)
  let leavings := samplings (view.showing left) ending ++ closings (view.showing left) entry
  refine ⟨openings view metric world call ++ (takenWithin ++ (leavings ++ takenAfter)), ?_, ?_⟩
  · rw [whole, restThread, laterThread]
  · intro clock worker control shows
    rw [shows_append, shows_append, shows_append] at shows
    rcases shows with ⟨opens, within, leaves, after⟩
    rcases inside_of_calls describe control opens with ⟨⟨_, inside⟩, started, begins, into⟩
    rw [enters] at into
    obtain rfl := into.shared
    rw [← into.reads] at within leaves after
    rcases worked clock inside into.control within with ⟨⟨_, done⟩, does⟩
    rw [entering.thread] at does
    obtain rfl := does.shared
    rw [← does.reads] at leaves after
    rcases comes_of_ends describe does.control (does.frames.trans into.frames) begins leaves with
      ⟨⟨_, back⟩, out⟩
    rw [leftThread] at out
    obtain rfl := out.shared
    rw [← out.reads] at after
    rcases onward clock back out.control after with ⟨last, goesOn⟩
    rw [laterThread, out.frames] at goesOn
    rw [whole, List.length_append, List.length_append, List.length_append]
    exact ⟨last, into.trans (does.trans (out.trans goesOn))⟩

theorem isFollowed_step {key : Key Collector} {script next : Script Fault Value}
    {world later : World Host}
    (whole : script.run key describe world = next.run key describe later)
    (thread : later.thread = world.thread)
    (step : ∀ (clock : Nat → UInt64) (worker : Worker Fault Value),
      worker.control = .runs script →
      ∃ after, worker.step describe clock world.thread (.ofWorld key world) =
          (.ofWorld key later, after) ∧
        after.control = .runs next ∧ after.frames = worker.frames ∧ after.reads = worker.reads)
    (followed : next.IsFollowed key describe later) : script.IsFollowed key describe world := by
  rcases followed with ⟨taken, sameThread, onward⟩
  refine ⟨taken, ?_, ?_⟩
  · rw [whole, sameThread, thread]
  · intro clock worker control shows
    rcases step clock worker control with ⟨after, step, control, frames, reads⟩
    rw [← reads] at shows
    rcases onward clock after control shows with ⟨end_, going⟩
    rw [thread, frames] at going
    rw [whole]
    exact ⟨end_, .head step (congrArg (· + _) reads) going⟩

theorem isFollowed_puts {key : Key Collector} {plugin : PluginId} {name value : String}
    {rest : Except Error Unit → Script Fault Value} {world : World Host}
    (restFollowed : ∀ later : World Host, (rest (.ok ())).IsFollowed key describe later) :
    (puts plugin name value rest).IsFollowed key describe world := by
  let view : CollectorView := ⟨key, plugin⟩
  let put := (world.collectors.get key).putAttribute world.thread name value
  let written := world.setCollector key put.2
  -- What the host is told of the attribute is nothing that threads share.
  have puts : ∃ later, view.putTraceAttribute name value world = (.ok (.ok ()), later) ∧
      later.thread = world.thread ∧ Shared.ofWorld key later = Shared.ofWorld key written := by
    have fate : view.onCollector (·.putAttribute world.thread name value) world =
        (.ok put.1, written) := rfl
    rw [CollectorView.putTraceAttribute,
      Program.bind_of_ok (Program.currentThread_apply world), Program.bind_of_ok fate]
    cases put.1 with
    | kept => exact ⟨_, rfl, rfl, rfl⟩
    | overLimit => exact ⟨_, rfl, rfl, rfl⟩
    | outsideTrace => exact ⟨_, rfl, rfl, rfl⟩
  rcases puts with ⟨later, puts, thread, shared⟩
  have whole : (Script.puts plugin name value rest).run key describe world =
      (rest (.ok ())).run key describe later := by
    rw [run]
    exact Program.bind_of_ok puts _
  refine isFollowed_step whole thread ?_ (restFollowed later)
  intro clock worker control
  let next : Worker Fault Value :=
    { worker with
      control := .runs (rest (.ok ()))
      answers := worker.answers ++ [.put put.1] }
  refine ⟨next, ?_, rfl, rfl, rfl⟩
  rw [Worker.step, control, shared, Shared.ofWorld_setCollector]
  rfl

theorem isFollowed (key : Key Collector) (describe : Fault → String) (script : Script Fault Value)
    (world : World Host) : script.IsFollowed key describe world := by
  induction script generalizing world with
  | ends ending =>
      refine ⟨[], rfl, ?_⟩
      intro clock worker control _
      exact ⟨_, .refl, rfl, control, rfl, rfl⟩
  | waits nanoseconds rest induction =>
      let waited : World Host :=
        { world with
          clocks := world.clocks.modify (world.collectors.get key).clock (·.advance nanoseconds) }
      have whole : (waits nanoseconds rest).run key describe world =
          rest.run key describe waited := rfl
      refine isFollowed_step whole rfl ?_ (induction waited)
      intro clock worker control
      refine ⟨{ worker with control := .runs rest }, ?_, rfl, rfl, rfl⟩
      rw [Worker.step, control]
      rfl
  | puts plugin name value rest induction => exact isFollowed_puts (induction (.ok ()))
  | asks plugin rest induction =>
      let detail := (world.collectors.get key).rootDetail world.thread
      have whole : (asks plugin rest).run key describe world =
          (rest (.ok detail)).run key describe world := rfl
      refine isFollowed_step whole rfl ?_ (induction (.ok detail) world)
      intro clock worker control
      let next : Worker Fault Value :=
        { worker with
          control := .runs (rest (.ok detail))
          answers := worker.answers ++ [.rootDetail detail] }
      refine ⟨next, ?_, rfl, rfl, rfl⟩
      rw [Worker.step, control]
      rfl
  | calls plugin metric call work rest workInduction restInduction =>
      exact isFollowed_calls workInduction restInduction

end Script

theorem Goes.turns {before after : Shared × Worker Fault Value}
    (goes : Goes describe clock thread before after) {readings : Readings}
    (shown : readings thread = clock) {scene : Scene Fault Value}
    (here : scene.pointOf thread = before) :
    ∃ count, (scene.after describe readings (.replicate count (.of thread))).pointOf thread =
      after := by
  induction goes using Relation.ReflTransGen.head_induction_on generalizing scene with
  | refl => exact ⟨0, here⟩
  | @head _ between step _ induction =>
      have next : (scene.step describe readings (.of thread)).pointOf thread = between := by
        rw [Scene.pointOf, Scene.workers_step_same, ← step, ← here, ← shown]
        rfl
      rcases induction next with ⟨count, reached⟩
      exact ⟨count + 1, reached⟩

/-- A thread that nobody interrupts comes, turn by turn, to what its program comes to, as
long as the clock shows it what the program reads. -/
theorem run_is_turns (key : Key Collector) (describe : Fault → String)
    (scripts : ThreadId → Script Fault Value) (world : World Host) :
    let run := (scripts world.thread).run key describe world
    ∃ taken, ∀ readings : Readings, Shows (readings world.thread) 0 taken →
      ∃ count,
        let scene := (Scene.opening (.ofWorld key world) scripts).after describe readings
          (.replicate count (.of world.thread))
        scene.shared = .ofWorld key run.2 ∧
          (scene.workers world.thread).control = .runs (.ends run.1) ∧
          (scene.workers world.thread).frames = [] := by
  intro run
  rcases Script.isFollowed key describe (scripts world.thread) world with ⟨taken, _, follows⟩
  refine ⟨taken, ?_⟩
  intro readings shows
  rcases follows (readings world.thread) { control := .runs (scripts world.thread) } rfl shows
    with ⟨after, comes⟩
  let opening := Scene.opening (.ofWorld key world) scripts
  have here : opening.pointOf world.thread = _ := rfl
  rcases comes.goes.turns rfl here with ⟨count, rfl⟩
  exact ⟨count, comes.shared, comes.control, comes.frames⟩

end Instrumentation.Workers
