import Instrumentation.Proofs.Binding.Governed
import Instrumentation.Proofs.Binding.Programs

namespace Instrumentation.Binding

/-! What attempts come to. Services that were ever tried to be bound are bound, unless a
factory failed or an attempt is still going on; and when none goes on, one engine was
made for services that are bound and none for others. -/

namespace Attempt

def Failed (attempt : Attempt) : Prop :=
  ∃ creation, attempt.creation = some creation ∧ ∀ engine, creation ≠ .ok (.ok engine)

def madeEngine (attempt : Attempt) : Bool :=
  match attempt.creation with
  | some (.ok (.ok _)) => true
  | some (.ok (.error _)) | some (.error _) | none => false

end Attempt

theorem Fails.not_made {plugin : PluginId} {creation : CreationEnding} {ending : BindEnding}
    (fails : Fails plugin creation ending) (engine : Engine) : creation ≠ .ok (.ok engine) := by
  cases fails <;> nofun

namespace Plays

variable {plugin : PluginId} {role : Role} {attempt : Attempt}

theorem made_of_won {engine : Engine} (plays : Plays plugin (.winner engine) attempt) :
    attempt.madeEngine = true := by
  cases plays <;> rfl

theorem not_made_of_idle (plays : Plays plugin .idle attempt) : attempt.madeEngine = false := by
  cases plays with
  | waiting | refused => rfl
  | failed creation ending fails => cases fails <;> rfl

theorem not_ended_of_holder (plays : Plays plugin .holder attempt) : ¬ attempt.HasEnded := by
  rintro ⟨ending, ended⟩
  cases plays <;> cases ended

end Plays

namespace Race

def enginesMade (race : Race) : Nat :=
  race.attempts.countP Attempt.madeEngine

def Excused (race : Race) : Prop :=
  ∃ attempt ∈ race.attempts, attempt.Failed ∨ ¬ attempt.HasEnded

variable {race next : Race} {plugin : PluginId}

theorem excused_at {index : Nat} {attempt : Attempt}
    (there : race.attempts[index]? = some attempt)
    (excuse : attempt.Failed ∨ ¬ attempt.HasEnded) : race.Excused :=
  ⟨attempt, List.mem_of_getElem? there, excuse⟩

/-- Whatever step was the last one: an attempt that is refused has met another one, or an
engine. -/
theorem tried_of_step {right : Right} (governed : Governed plugin race right)
    (step : race.Step next) : next.services.engine.isSome ∨ next.Excused := by
  cases step with
  | begins =>
      have there : (race.attempts ++ [({} : Attempt)])[race.attempts.length]? =
          some ({} : Attempt) := by simp
      refine .inr (excused_at there (.inr ?_))
      rintro ⟨ending, ended⟩
      cases ended
  | moves index attempt moved services there moves =>
      have plays := governed.plays index attempt there
      have moving : (race.attempts.set index moved)[index]? = some moved :=
        List.getElem?_set_self (List.getElem?_eq_some_iff.mp there).1
      cases moves with
      | refused claiming claimed =>
          cases right with
          | free =>
              rw [PluginServices.claim, governed.binding] at claimed
              cases claimed
          | held holder =>
              have present := governed.present holder rfl
              have holds := List.getElem?_eq_getElem present
              have inside := governed.plays holder _ holds
              rw [Right.roleOf_held_self] at inside
              have different : index ≠ holder := by
                rintro rfl
                rw [(plays.of_claiming claiming).2, Right.roleOf_held_self] at plays
                cases plays
              rw [← List.getElem?_set_ne different] at holds
              exact .inr (excused_at holds (.inr inside.not_ended_of_holder))
          | spent holder engine =>
              rw [governed.engine]
              exact .inl rfl
      | claims | slotWritten =>
          refine .inr (excused_at moving (.inr ?_))
          rintro ⟨ending, ended⟩
          cases ended
      | creates creation =>
          refine .inr (excused_at moving (.inr ?_))
          rintro ⟨ending, ended⟩
          rcases creation with payload | cause | engine <;> cases ended
      | publishes engine _ publishing publishes =>
          rcases PluginServices.publish_eq_some publishes with ⟨_, rfl⟩
          exact .inl rfl
      | leaves armed ending leaving =>
          cases armed with
          | true =>
              rcases plays.of_armed leaving with ⟨_, creation, fails, rfl⟩
              exact .inr (excused_at moving (.inl ⟨creation, rfl, fails.not_made⟩))
          | false =>
              rcases plays.of_disarmed leaving with ⟨_, engine, role, _⟩
              have bound : race.services.engine.isSome := by
                rw [governed.engine, Right.eq_spent role]
                rfl
              exact .inl bound

theorem tried_of_becomes {clock : Key Clock} (becomes : (fresh plugin clock).Becomes race)
    (tried : race.attempts ≠ []) : race.services.engine.isSome ∨ race.Excused := by
  cases becomes with
  | refl => exact absurd rfl tried
  | tail earlier step =>
      rcases Governed.of_becomes earlier with ⟨right, governed⟩
      exact tried_of_step governed step

theorem attempts_of_bound {right : Right} (governed : Governed plugin race right)
    (bound : race.services.isBound = true) : race.attempts ≠ [] := by
  intro none
  cases right with
  | free | held => rw [PluginServices.isBound, governed.engine] at bound; cases bound
  | spent holder engine =>
      have present := governed.present holder rfl
      rw [none] at present
      exact Nat.not_lt_zero holder present

theorem countP_of_only {attempts : List Attempt} {wanted : Attempt → Bool} {index : Nat}
    {attempt : Attempt} (there : attempts[index]? = some attempt) (holds : wanted attempt = true)
    (others : ∀ (place : Nat) (other : Attempt), attempts[place]? = some other → place ≠ index →
      wanted other = false) : attempts.countP wanted = 1 := by
  rcases List.getElem?_eq_some_iff.mp there with ⟨within, rfl⟩
  have before : (attempts.take index).countP wanted = 0 := by
    apply List.countP_eq_zero.mpr
    intro other member
    rcases List.mem_take_iff_getElem.mp member with ⟨place, bound, rfl⟩
    simp [others place _ (List.getElem?_eq_getElem _) (by omega)]
  have behind : (attempts.drop (index + 1)).countP wanted = 0 := by
    apply List.countP_eq_zero.mpr
    intro other member
    rcases List.mem_drop_iff_getElem.mp member with ⟨place, bound, rfl⟩
    simp [others (index + 1 + place) _ (List.getElem?_eq_getElem _) (by omega)]
  have split : attempts = attempts.take index ++ attempts[index] :: attempts.drop (index + 1) := by
    simp
  rw [split, List.countP_append, before, List.countP_cons_of_pos holds, behind]

/-- When all attempts have ended, only one that published its engine had one made. -/
theorem enginesMade_of_ended {right : Right} (governed : Governed plugin race right)
    (ended : ∀ attempt ∈ race.attempts, attempt.HasEnded) :
    race.enginesMade = if race.services.isBound then 1 else 0 := by
  rw [PluginServices.isBound, governed.engine]
  have idle (index : Nat) (attempt : Attempt) (there : race.attempts[index]? = some attempt)
      (role : right.roleOf index = .idle) : attempt.madeEngine = false := by
    have plays := governed.plays index attempt there
    rw [role] at plays
    exact plays.not_made_of_idle
  cases right with
  | free =>
      apply List.countP_eq_zero.mpr
      intro attempt member
      rcases List.mem_iff_getElem?.mp member with ⟨index, there⟩
      exact Bool.not_eq_true _ ▸ idle index attempt there rfl
  | held holder =>
      have there := List.getElem?_eq_getElem (governed.present holder rfl)
      have plays := governed.plays holder _ there
      rw [Right.roleOf_held_self] at plays
      exact absurd (ended _ (List.mem_of_getElem? there)) plays.not_ended_of_holder
  | spent holder engine =>
      have there := List.getElem?_eq_getElem (governed.present holder rfl)
      have plays := governed.plays holder _ there
      rw [Right.roleOf_spent_self] at plays
      apply countP_of_only there plays.made_of_won
      intro index attempt found different
      exact idle index attempt found (if_neg different)

end Race

end Instrumentation.Binding
