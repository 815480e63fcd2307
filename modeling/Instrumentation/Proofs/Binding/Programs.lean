import Instrumentation.Proofs.Binding.Runs

namespace Instrumentation.Binding

/-! Binds are attempts. What a bind does to the services is what one attempt does, step
by step; the factory may make any number of attempts of its own meanwhile. -/

variable {Host Value : Type} {key : Key PluginServices}

def Attempt.HasEnded (attempt : Attempt) : Prop :=
  ∃ ending, attempt.stage = .ended ending

/-- All that the program does to the services is attempts to bind them, which have ended
when it ends. -/
def OnlyAttempts (key : Key PluginServices) (program : Program Host Value) : Prop :=
  ∀ (world : World Host) (earlier : List Attempt), ∃ made : List Attempt,
    (∀ attempt ∈ made, attempt.HasEnded) ∧
      Race.Becomes ⟨world.services.get key, earlier⟩
        ⟨(program world).2.services.get key, earlier ++ made⟩

theorem Attempt.Moves.same_plugin {services next : PluginServices} {attempt moved : Attempt}
    (moves : attempt.Moves services next moved) : next.plugin = services.plugin := by
  cases moves with
  | refused | creates | slotWritten => rfl
  | claims _ _ claims => rw [(PluginServices.claim_eq_some claims).2]
  | publishes engine _ _ publishes => rw [(PluginServices.publish_eq_some publishes).2]
  | leaves armed => cases armed <;> rfl

theorem Race.Becomes.same_plugin {race later : Race} (becomes : race.Becomes later) :
    later.services.plugin = race.services.plugin := by
  induction becomes with
  | refl => rfl
  | tail _ step induction =>
      cases step with
      | begins => exact induction
      | moves _ _ _ _ _ moves => exact moves.same_plugin.trans induction

theorem created_becomes (key : Key PluginServices) (creation : CreationEnding)
    (left : World Host) (earlier made : List Attempt) :
    let plugin := (left.services.get key).plugin
    let ended := PluginServices.afterCreation key plugin creation left
    let creating : Attempt := { stage := .creating, factoryCalls := 1 }
    ∃ attempt : Attempt, attempt.stage = .ended ended.1 ∧
      Race.Becomes ⟨left.services.get key, earlier ++ creating :: made⟩
        ⟨ended.2.services.get key, earlier ++ attempt :: made⟩ := by
  rcases Attempt.created_runs key creation left with ⟨attempt, ended, runs⟩
  exact ⟨attempt, ended, runs.becomes earlier made⟩

/-- A bind is an attempt among those that its factory makes. -/
theorem bind_is_attempt (create : Creation Host)
    (attempts : ∀ plugin, OnlyAttempts key (create plugin)) (world : World Host)
    (earlier : List Attempt) :
    ∃ (attempt : Attempt) (made : List Attempt),
      attempt.stage = .ended (PluginServices.bind key create world).1 ∧
      (∀ attempt ∈ made, attempt.HasEnded) ∧
      Race.Becomes ⟨world.services.get key, earlier⟩
        ⟨(PluginServices.bind key create world).2.services.get key,
          earlier ++ attempt :: made⟩ := by
  have begun : Race.Step ⟨world.services.get key, earlier⟩
      ⟨world.services.get key, earlier ++ [({} : Attempt)]⟩ := .begins
  cases claims : (world.services.get key).claim with
  | none =>
      have refused := Attempt.Moves.refused {} rfl claims
      rw [PluginServices.bind_of_refused claims]
      exact ⟨_, [], rfl, List.forall_mem_nil _, .head begun (.single (refused.among earlier []))⟩
  | some claimed =>
      have claiming := (Attempt.Moves.claims {} claimed rfl claims).among earlier []
      let creating : Attempt := { stage := .creating, factoryCalls := 1 }
      rcases attempts claimed.plugin (world.setServices key claimed) (earlier ++ [creating])
        with ⟨made, ended, path⟩
      rcases creates : create claimed.plugin (world.setServices key claimed) with ⟨creation, left⟩
      rw [creates, World.get_setServices, List.append_assoc] at path
      rcases created_becomes key creation left earlier made with ⟨attempt, finished, last⟩
      -- The factory cannot have changed whose services these are.
      rw [path.same_plugin] at finished last
      rw [PluginServices.bind_of_claimed claims creates]
      exact ⟨attempt, made, finished, ended, .head begun (.head claiming (path.trans last))⟩

theorem onlyAttempts_bind (create : Creation Host)
    (attempts : ∀ plugin, OnlyAttempts key (create plugin)) :
    OnlyAttempts key (PluginServices.bind key create) := by
  intro world earlier
  rcases bind_is_attempt create attempts world earlier with ⟨attempt, made, finished, ended, path⟩
  refine ⟨attempt :: made, ?_, path⟩
  intro other member
  rcases List.mem_cons.mp member with rfl | member
  · exact ⟨_, finished⟩
  · exact ended other member

end Instrumentation.Binding
