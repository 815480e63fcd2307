import Instrumentation.Proofs.Binding.Endings
import Instrumentation.Proofs.Binding.Race

namespace Instrumentation.Binding

/-! What is left of an attempt once its factory has answered, step by step. -/

variable {Host : Type}

inductive Stores (services : Table PluginServices) (key : Key PluginServices) :
    PluginServices → Table PluginServices → Prop
  | nothing : Stores services key (services.get key) services
  | written (next : PluginServices) : Stores services key next (services.put key next)

namespace Stores

variable {services later : Table PluginServices} {key : Key PluginServices}
  {next : PluginServices}

theorem get_same (stores : Stores services key next later) : later.get key = next := by
  cases stores with
  | nothing => rfl
  | written => exact services.get_put_same key next

theorem get_other (stores : Stores services key next later) {other : Key PluginServices}
    (different : other ≠ key) : later.get other = services.get other := by
  cases stores with
  | nothing => rfl
  | written => exact services.get_put_other next different

theorem size_le (stores : Stores services key next later) : services.size ≤ later.size := by
  cases stores with
  | nothing => exact Nat.le_refl _
  | written => exact services.size_le_put key next

end Stores

namespace Attempt

def MovesWith (key : Key PluginServices) (creation : CreationEnding)
    (before after : Table PluginServices × Attempt) : Prop :=
  ∃ next, before.2.Moves (before.1.get key) next after.2 ∧
    after.2.creation = some creation ∧ Stores before.1 key next after.1

abbrev Runs (key : Key PluginServices) (creation : CreationEnding) :
    Table PluginServices × Attempt → Table PluginServices × Attempt → Prop :=
  Relation.ReflTransGen (MovesWith key creation)

variable {key : Key PluginServices} {creation : CreationEnding}

theorem MovesWith.read {services : Table PluginServices} {attempt moved : Attempt}
    (moves : attempt.Moves (services.get key) (services.get key) moved)
    (answered : moved.creation = some creation) :
    MovesWith key creation (services, attempt) (services, moved) :=
  ⟨services.get key, moves, answered, .nothing⟩

theorem MovesWith.write {services : Table PluginServices} {attempt moved : Attempt}
    {next : PluginServices} (moves : attempt.Moves (services.get key) next moved)
    (answered : moved.creation = some creation) :
    MovesWith key creation (services, attempt) (services.put key next, moved) :=
  ⟨next, moves, answered, .written next⟩

/-- The rest of a bind is a run of its attempt. The guard gives the right back in all
cases but that of a publication. -/
theorem created_runs (key : Key PluginServices) (creation : CreationEnding)
    (left : World Host) :
    let plugin := (left.services.get key).plugin
    let ended := PluginServices.afterCreation key plugin creation left
    let creating : Attempt := { stage := .creating, factoryCalls := 1 }
    ∃ attempt : Attempt, attempt.stage = .ended ended.1 ∧
      Runs key creation (left.services, creating) (ended.2.services, attempt) := by
  intro plugin ended creating
  have creates : MovesWith key creation (left.services, creating)
      (left.services, creating.created plugin creation) :=
    .read (.creates creating creation rfl) rfl
  refine ⟨{ creating.created plugin creation with stage := .ended ended.1 }, rfl,
    .head creates ?_⟩
  rcases creation with payload | cause | engine
  · exact .single (.write (.leaves _ true _ rfl) rfl)
  · exact .single (.write (.leaves _ true _ rfl) rfl)
  · let publishing := creating.created plugin (.ok (.ok engine))
    cases publishes : (left.services.get key).publish engine with
    | none =>
        have written := Moves.slotWritten publishing engine rfl publishes
        have finished : ended = (.ok (.error (PluginServices.slotWritten plugin)),
            left.setServices key (left.services.get key).release) := by
          simp only [ended, PluginServices.afterCreation, publishes]
        rw [finished]
        exact .head (.read written rfl) (.single (.write (.leaves _ true _ rfl) rfl))
    | some published =>
        have stored := Moves.publishes publishing engine published rfl publishes
        have finished : ended = (.ok (.ok ()), (left.setServices key published).telling
            (.bound plugin)) := by
          simp only [ended, PluginServices.afterCreation, publishes]
        rw [finished]
        exact .head (.write stored rfl) (.single (.read (.leaves _ false _ rfl) rfl))

theorem Runs.becomes {before after : Table PluginServices × Attempt}
    (runs : Runs key creation before after) (earlier later : List Attempt) :
    Race.Becomes ⟨before.1.get key, earlier ++ before.2 :: later⟩
      ⟨after.1.get key, earlier ++ after.2 :: later⟩ := by
  induction runs with
  | refl => exact .refl
  | tail _ moves induction =>
      rcases moves with ⟨next, moves, _, stores⟩
      rw [stores.get_same]
      exact induction.tail (moves.among earlier later)

end Attempt

end Instrumentation.Binding
