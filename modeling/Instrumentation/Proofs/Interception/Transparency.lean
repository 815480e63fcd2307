import Instrumentation.Proofs.Interception.Calls
import Instrumentation.Proofs.Interception.Endings
import Instrumentation.Proofs.Interception.Observation

namespace Instrumentation

/-! Intercepted calls are transparent: whatever an engine does, the work of a call is
entered at most once, and the caller gets its value or is unwound through. -/

variable {Host Value Fault : Type}

/-! ## Histories -/

/-- The possible histories of an intercepted call, each with the result of the call
and the world that it left. -/
inductive History (classify : Value → Outcome) :
    List (Moment Host Value) → Except Payload Value → World Host → Prop
  | unwoundBefore (payload : Payload) (later : World Host) :
      History classify [.engineEnded (.error payload) later] (.error payload) later
  | ranDirectly (world later : World Host) (ending : Except Payload Value) :
      History classify
        [.engineEnded (.ok ()) world, .entered world.warned, .ended ending] ending later
  | proceeded (world later : World Host) (ending : Except Payload Value)
      (engineEnding : Except Payload Unit) :
      History classify
        [.entered world, .ended ending, .handedBack (ending.map classify),
          .engineEnded engineEnding later] (afterEngine ending engineEnding) later

namespace Interception

variable {interception : Interception Host} {world entered : World Host}

theorem observed_enter_of_unwinds (Value : Type) {payload : Payload}
    (unwinds : interception.enter world = (.error payload, entered)) :
    (interception.observed Value).enter (world.noting []) =
      (.error payload, entered.noting [.engineEnded (.error payload) entered]) := by
  simp [observed, Program.bind_apply, Program.map_apply, unwinds, Except.map]

theorem observed_enter_of_skips (Value : Type)
    (skips : interception.enter world = (.ok none, entered)) :
    (interception.observed Value).enter (world.noting []) =
      (.ok none, entered.noting [.engineEnded (.ok ()) entered]) := by
  simp [observed, Program.bind_apply, Program.map_apply, skips, Except.map]

theorem observed_enter_of_proceeds (Value : Type) {afterwards : CallEnding → Program Host Unit}
    (proceeds : interception.enter world = (.ok (some afterwards), entered)) :
    (interception.observed Value).enter (world.noting []) =
      (.ok (some fun ending => do
          Program.note (.handedBack ending)
          observedEnd (afterwards ending)), entered.noting []) := by
  simp [observed, Program.bind_apply, proceeds]

end Interception

/-- An observed call went through one of these histories, and the call itself, without
notes, has the same end. -/
theorem observe_history (interception : Interception Host) (classify : Value → Outcome)
    (work : Program Host Value) (world : World Host) :
    let run := observe interception classify work world
    History classify run.moments run.result run.world ∧
      runIntercepted interception classify work world = run.ending := by
  -- How the engine begins decides which history it is.
  rcases entering : interception.enter world with ⟨payload | _ | afterwards, entered⟩
  · have unwinds := Interception.observed_enter_of_unwinds Value entering
    simp only [observe, Observation.ending, runIntercepted_of_unwinds classify _ entering,
      runIntercepted_of_unwinds classify _ unwinds]
    exact ⟨.unwoundBefore payload entered, rfl⟩
  · have skips := Interception.observed_enter_of_skips Value entering
    have warned : (entered.noting [(.engineEnded (.ok ()) entered : Moment Host Value)]).warned =
      entered.warned.noting [.engineEnded (.ok ()) entered] := rfl
    simp only [observe, Observation.ending, runIntercepted_of_skips classify _ entering,
      runIntercepted_of_skips classify _ skips, warned, Program.observed_apply]
    exact ⟨.ranDirectly entered _ _, rfl⟩
  · have proceeds := Interception.observed_enter_of_proceeds Value entering
    simp only [observe, Observation.ending, runIntercepted_of_proceeds classify _ entering,
      runIntercepted_of_proceeds classify _ proceeds, Program.observed_apply,
      Program.bind_apply, Program.note_apply, Interception.observedEnd_apply]
    exact ⟨.proceeded entered _ _ _, rfl⟩

/-! ## Transparency -/

namespace Observation

def runs (run : Observation Host Value) : List (Except Payload Value) :=
  run.moments.filterMap fun
    | .ended ending => some ending
    | _ => none

def entries (run : Observation Host Value) : Nat :=
  run.moments.countP fun
    | .entered _ => true
    | _ => false

def EngineEnds (run : Observation Host Value) (ending : Except Payload Unit)
    (later : World Host) : Prop :=
  .engineEnded ending later ∈ run.moments

def EngineReturns (run : Observation Host Value) : Prop :=
  ∃ later, run.EngineEnds (.ok ()) later

def HandsBack (run : Observation Host Value) (ending : CallEnding) : Prop :=
  .handedBack ending ∈ run.moments

/-- The work was entered when the engine had returned, with nothing but the warning
between the two. -/
def RunsDirectly (run : Observation Host Value) : Prop :=
  ∃ world, [.engineEnded (.ok ()) world, .entered world.warned] <:+: run.moments

structure Transparent (classify : Value → Outcome) (run : Observation Host Value) :
    Prop where
  enteredAtMostOnce : run.entries ≤ 1
  enteredIfReturned : run.EngineReturns → run.entries = 1
  /-- A result is the value of the only run of the work. -/
  givesValue : ∀ value, run.result = .ok value → run.runs = [.ok value]
  showsOutcome : ∀ outcome, run.HandsBack (.ok outcome) →
    ∃ value, run.runs = [.ok value] ∧ outcome = classify value
  showsPanic : ∀ payload, run.HandsBack (.error payload) → run.runs = [.error payload]
  directIff : run.RunsDirectly ↔ run.EngineReturns ∧ ∀ ending, ¬ run.HandsBack ending
  /-- Unless the work is run directly, nothing comes after the engine, no warning
  either. -/
  endsWithEngine : ¬ run.RunsDirectly → ∃ ending, run.EngineEnds ending run.world
  /-- An engine that is unwound through unwinds the call. -/
  enginePanics : ∀ payload later, run.EngineEnds (.error payload) later →
    run.result = .error payload
  /-- So does work that is run directly; a panic that the engine swallowed is raised
  again. -/
  workPanics : ∀ payload, run.runs = [.error payload] → run.EngineReturns →
    (run.RunsDirectly ∧ run.result = .error payload) ∨
      (¬ run.RunsDirectly ∧ run.result = .error swallowedPanic)

theorem transparent_of_history {classify : Value → Outcome} {result : Except Payload Value}
    {later : World Host} {moments : List (Moment Host Value)}
    (history : History classify moments result later) :
    Transparent classify ⟨result, later, moments⟩ := by
  cases history with
  | unwoundBefore payload =>
      constructor <;>
        simp [entries, runs, EngineReturns, EngineEnds, HandsBack, RunsDirectly,
          List.infix_cons_iff]
  | ranDirectly world =>
      constructor <;>
        simp [entries, runs, EngineReturns, EngineEnds, HandsBack, RunsDirectly,
          List.infix_cons_iff]
  | proceeded world _ ending engineEnding =>
      have passed : ¬ (Observation.mk (afterEngine ending engineEnding) later
          [.entered world, .ended ending, .handedBack (ending.map classify),
            .engineEnded engineEnding later]).RunsDirectly := by
        simp [RunsDirectly, List.infix_cons_iff]
      cases ending <;> cases engineEnding <;> constructor <;>
        simp_all [entries, runs, EngineReturns, EngineEnds, HandsBack,
          afterEngine, afterReturn, Except.map]

end Observation

namespace PluginServices

variable [HostEngines Host] {world : World Host} {services : Key PluginServices}
  {engine : Engine}

theorem intercept_of_bound (bound : (world.services.get services).engine = some engine)
    (interception : EngineMethods Host → Interception Host) (classify : Value → Outcome)
    (work : Program Host Value) :
    intercept services interception classify work world =
      (observe (interception engine.methods) classify work world).ending := by
  rw [intercept_apply, bound]
  exact (observe_history (interception engine.methods) classify work world).2

end PluginServices

/-! ## Main statement -/

/-- Every intercepted call is transparent, and so are the four calls on bound services:
each is such a call through its method of the engine. A call whose work gives a result
shows the engine the outcome of the result, and a call whose work cannot fail shows it
as completed. -/
theorem intercepted_calls_transparent [HostEngines Host] :
    (∀ (interception : Interception Host) (classify : Value → Outcome)
      (work : Program Host Value) (world : World Host),
      (observe interception classify work world).Transparent classify ∧
        runIntercepted interception classify work world =
          (observe interception classify work world).ending) ∧
    ∀ (world : World Host) (services : Key PluginServices) (engine : Engine)
      (metric : Metric) (detail : Detail) (describe : Fault → String),
      (world.services.get services).engine = some engine →
      (∀ work : Program Host (Except Fault Value),
        PluginServices.executeRootSpan services metric detail describe work world =
          (observe (engine.methods.executeRootSpan metric detail)
            (Outcome.ofResult describe) work world).ending ∧
        PluginServices.executeSpan services metric detail describe work world =
          (observe (engine.methods.executeSpan metric detail)
            (Outcome.ofResult describe) work world).ending ∧
        PluginServices.tryRecordMetricData services metric describe work world =
          (observe (engine.methods.recordMetricData metric)
            (Outcome.ofResult describe) work world).ending) ∧
      ∀ work : Program Host Value,
        PluginServices.recordMetricData services metric work world =
          (observe (engine.methods.recordMetricData metric)
            (fun _ => .completed) work world).ending := by
  refine ⟨?_, ?_⟩
  · intro interception classify work world
    have ⟨history, same⟩ := observe_history interception classify work world
    exact ⟨Observation.transparent_of_history history, same⟩
  · intro world services engine metric detail describe bound
    refine ⟨fun work => ⟨?_, ?_, ?_⟩, fun work => ?_⟩
    · exact PluginServices.intercept_of_bound bound (·.executeRootSpan metric detail) _ work
    · exact PluginServices.intercept_of_bound bound (·.executeSpan metric detail) _ work
    · exact PluginServices.intercept_of_bound bound (·.recordMetricData metric) _ work
    · exact PluginServices.intercept_of_bound bound (·.recordMetricData metric) _ work

def swallowingWorld : World Unit :=
  let bound : PluginServices :=
    { plugin := default, clock := ⟨0⟩, binding := true, engine := some (.host ⟨0⟩) }
  { services := ⟨[bound]⟩, host := (),
    probes := ⟨[{ clock := ⟨0⟩, stats := ⟨0⟩, catches := true }]⟩ }

/-- A panic that the engine of the services swallows comes back to the caller. -/
theorem recordMetricData_swallowed :
    (swallowingWorld.services.get ⟨0⟩).engine = some (.host ⟨0⟩) ∧
      PluginServices.recordMetricData ⟨0⟩ ⟨"query", false, ⟨0⟩, ⟨0⟩⟩
          (throw (.text "lost") : Program Unit Nat) swallowingWorld =
        (observe (Probe.forward ⟨0⟩) (fun _ => .completed)
          (throw (.text "lost") : Program Unit Nat) swallowingWorld).ending ∧
      (PluginServices.recordMetricData ⟨0⟩ ⟨"query", false, ⟨0⟩, ⟨0⟩⟩
        (throw (.text "lost") : Program Unit Nat) swallowingWorld).1 =
          .error swallowedPanic := by
  refine ⟨rfl, ?_, ?_⟩
  · exact (intercepted_calls_transparent.2 swallowingWorld ⟨0⟩ _
      ⟨"query", false, ⟨0⟩, ⟨0⟩⟩ { description := "" } (id : String → String) rfl).2 _
  · rfl

end Instrumentation
