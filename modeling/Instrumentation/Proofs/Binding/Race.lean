import Instrumentation.Services.Binding
import Mathlib.Logic.Relation

namespace Instrumentation

/-! Attempts to bind services that run against one another. Nothing is assumed about
when they start or in which order they move on: they may be made on any threads, and an
attempt may be made while the factory of another one is running, by that factory too. -/

abbrev CreationEnding := Except Payload (Except Error Engine)

abbrev BindEnding := Except Payload (Except Error Unit)

namespace Binding

/-! ## Attempts -/

/-- How far an attempt has come. Its next step is the one named. -/
inductive Stage where
  | claiming
  | creating
  | publishing (engine : Engine)
  /-- Dropping the guard, which gives the right to bind back if it is armed. -/
  | leaving (armed : Bool) (ending : BindEnding)
  | ended (ending : BindEnding)

structure Attempt where
  stage : Stage := .claiming
  factoryCalls : Nat := 0
  creation : Option CreationEnding := none

namespace Attempt

def Inside (attempt : Attempt) : Prop :=
  match attempt.stage with
  | .claiming | .ended _ => False
  | .creating | .publishing _ | .leaving _ _ => True

def created (attempt : Attempt) (plugin : PluginId) (creation : CreationEnding) : Attempt :=
  { attempt with
    creation := some creation
    stage :=
      match creation with
      | .ok (.ok engine) => .publishing engine
      | .ok (.error cause) =>
          .leaving true (.ok (.error (PluginServices.constructionError plugin cause)))
      | .error payload => .leaving true (.error payload) }

/-- The atomic steps of an attempt, with what they do to the services. -/
inductive Moves (services : PluginServices) : Attempt → PluginServices → Attempt → Prop
  | refused (attempt : Attempt) (claiming : attempt.stage = .claiming)
      (claimed : services.claim = none) :
      Moves services attempt services
        { attempt with stage := .ended (.ok (.error (PluginServices.refusal services.plugin))) }
  | claims (attempt : Attempt) (next : PluginServices) (claiming : attempt.stage = .claiming)
      (claims : services.claim = some next) :
      Moves services attempt next
        { attempt with stage := .creating, factoryCalls := attempt.factoryCalls + 1 }
  | creates (attempt : Attempt) (creation : CreationEnding)
      (creating : attempt.stage = .creating) :
      Moves services attempt services (attempt.created services.plugin creation)
  | publishes (attempt : Attempt) (engine : Engine) (next : PluginServices)
      (publishing : attempt.stage = .publishing engine)
      (publishes : services.publish engine = some next) :
      Moves services attempt next { attempt with stage := .leaving false (.ok (.ok ())) }
  | slotWritten (attempt : Attempt) (engine : Engine)
      (publishing : attempt.stage = .publishing engine)
      (written : services.publish engine = none) :
      Moves services attempt services
        { attempt with
          stage := .leaving true (.ok (.error (PluginServices.slotWritten services.plugin))) }
  | leaves (attempt : Attempt) (armed : Bool) (ending : BindEnding)
      (leaving : attempt.stage = .leaving armed ending) :
      Moves services attempt (if armed then services.release else services)
        { attempt with stage := .ended ending }

end Attempt

/-! ## Races -/

structure Race where
  services : PluginServices
  attempts : List Attempt := []

namespace Race

inductive Step (race : Race) : Race → Prop
  | begins : Step race { race with attempts := race.attempts ++ [{}] }
  | moves (index : Nat) (attempt next : Attempt) (services : PluginServices)
      (there : race.attempts[index]? = some attempt)
      (moves : attempt.Moves race.services services next) :
      Step race { services, attempts := race.attempts.set index next }

theorem Step.at_index {race next : Race} (step : race.Step next) {index : Nat}
    {attempt moved : Attempt} (there : race.attempts[index]? = some attempt)
    (later : next.attempts[index]? = some moved) :
    moved = attempt ∨ attempt.Moves race.services next.services moved := by
  have within : index < race.attempts.length := (List.getElem?_eq_some_iff.mp there).1
  cases step with
  | begins =>
      rw [List.getElem?_append_left within, there] at later
      exact .inl (Option.some.inj later).symm
  | moves other found next services foundThere moves =>
      by_cases same : index = other
      · subst other
        rw [List.getElem?_set_self within] at later
        cases later
        cases there.symm.trans foundThere
        exact .inr moves
      · rw [List.getElem?_set_ne (Ne.symm same), there] at later
        exact .inl (Option.some.inj later).symm

abbrev Becomes : Race → Race → Prop :=
  Relation.ReflTransGen Step

def fresh (plugin : PluginId) (clock : Key Clock) : Race where
  services := { plugin, clock }

end Race

theorem Attempt.Moves.among {services next : PluginServices} {attempt moved : Attempt}
    (moves : attempt.Moves services next moved) (before behind : List Attempt) :
    Race.Step ⟨services, before ++ attempt :: behind⟩ ⟨next, before ++ moved :: behind⟩ := by
  have there : (before ++ attempt :: behind)[before.length]? = some attempt := by simp
  have placed : (before ++ attempt :: behind).set before.length moved =
      before ++ moved :: behind := by simp
  have step : Race.Step ⟨services, before ++ attempt :: behind⟩ ⟨next, _⟩ :=
    .moves before.length attempt moved next there moves
  rw [placed] at step
  exact step

end Binding

end Instrumentation
