import Instrumentation.Proofs.Binding.Governed
import Mathlib.Logic.ExistsUnique

namespace Instrumentation.Binding

/-! Binding happens once. In every race that attempts can come to, the services are
bound at most once and for ever, no engine is built in vain, and services that are not
bound can still be. -/

namespace Race

def InsideAt (race : Race) (index : Nat) : Prop :=
  ∃ attempt, race.attempts[index]? = some attempt ∧ attempt.Inside

def CreatingAt (race : Race) (index : Nat) : Prop :=
  ∃ attempt, race.attempts[index]? = some attempt ∧ attempt.stage = .creating

def CreatedAt (race : Race) (index : Nat) (engine : Engine) : Prop :=
  ∃ attempt, race.attempts[index]? = some attempt ∧ attempt.creation = some (.ok (.ok engine))

def EndedAt (race : Race) (index : Nat) (ending : BindEnding) : Prop :=
  ∃ attempt, race.attempts[index]? = some attempt ∧ attempt.stage = .ended ending

structure OneShot (race : Race) : Prop where
  bindingIff : race.services.binding = true ↔
    race.services.engine.isSome ∨ ∃! index, race.InsideAt index
  oneInside : ∀ first second, race.InsideAt first → race.InsideAt second → first = second
  oneCreating : ∀ first second, race.CreatingAt first → race.CreatingAt second →
    first = second
  oneEngine : ∀ first second one other, race.CreatedAt first one →
    race.CreatedAt second other → first = second
  /-- An engine that was made is published, or is about to be by the attempt that had
  it made. -/
  noneInVain : ∀ index engine, race.CreatedAt index engine →
    race.services.engine = some engine ∨
      race.services.engine = none ∧
        ∃ attempt, race.attempts[index]? = some attempt ∧ attempt.stage = .publishing engine
  oneSuccess : ∀ first second, race.EndedAt first (.ok (.ok ())) →
    race.EndedAt second (.ok (.ok ())) → first = second
  neverInternal : ∀ (index : Nat) (error : Error), race.EndedAt index (.ok (.error error)) →
    error.kind ≠ .internal
  refusedCallsNone : ∀ (index : Nat) (attempt : Attempt) (error : Error),
    race.attempts[index]? = some attempt →
    attempt.stage = .ended (.ok (.error error)) → error.kind = .alreadyBound →
    attempt.factoryCalls = 0 ∧ attempt.creation = none

structure Advances (race next : Race) : Prop where
  /-- An attempt that ends where it would have claimed was refused, and changed
  nothing. -/
  refusedChangesNothing : ∀ (index : Nat) (attempt : Attempt) ending,
    race.attempts[index]? = some attempt →
    attempt.stage = .claiming → next.EndedAt index ending →
    (∃ error, ending = .ok (.error error) ∧ error.kind = .alreadyBound) ∧
      next.services = race.services
  /-- An attempt that fails or is unwound through leaves the services free. -/
  failedLeavesFree : ∀ index ending, race.InsideAt index → next.EndedAt index ending →
    ending ≠ .ok (.ok ()) →
    next.services.binding = false ∧ next.services.engine = none

end Race

namespace Plays

variable {plugin : PluginId} {role : Role} {attempt : Attempt}

theorem role_of_inside (plays : Plays plugin role attempt) (inside : attempt.Inside) :
    role ≠ .idle := by
  rintro rfl
  cases plays <;> exact inside

theorem inside_of_holder (plays : Plays plugin .holder attempt) : attempt.Inside := by
  cases plays <;> trivial

theorem of_created {engine : Engine} (plays : Plays plugin role attempt)
    (created : attempt.creation = some (.ok (.ok engine))) :
    (role = .holder ∧ attempt.stage = .publishing engine) ∨ role = .winner engine := by
  cases plays <;> cases created
  · next fails => cases fails
  · exact .inl ⟨rfl, rfl⟩
  · next fails => cases fails
  · exact .inr rfl
  · exact .inr rfl

theorem of_success (plays : Plays plugin role attempt)
    (ended : attempt.stage = .ended (.ok (.ok ()))) : ∃ engine, role = .winner engine := by
  cases plays <;> cases ended
  · next fails => cases fails
  · next engine => exact ⟨engine, rfl⟩

theorem of_error {error : Error} (plays : Plays plugin role attempt)
    (ended : attempt.stage = .ended (.ok (.error error))) :
    (error = PluginServices.refusal plugin ∧ attempt.factoryCalls = 0 ∧
        attempt.creation = none) ∨
      ∃ cause, error = PluginServices.constructionError plugin cause := by
  cases plays <;> cases ended
  · exact .inl ⟨rfl, rfl, rfl⟩
  · next fails =>
      cases fails with
      | failed cause => exact .inr ⟨cause, rfl⟩

end Plays

namespace Governed

variable {plugin : PluginId} {race next : Race} {right : Right}

theorem holder_of_role (governed : Governed plugin race right) {index : Nat}
    {attempt : Attempt} (there : race.attempts[index]? = some attempt)
    (busy : ∀ role, Plays plugin role attempt → role ≠ .idle) :
    right.holder? = some index := by
  by_cases holds : right.holder? = some index
  · exact holds
  · exact absurd (Right.roleOf_of_ne holds) (busy _ (governed.plays index attempt there))

theorem holder_of_inside (governed : Governed plugin race right) {index : Nat}
    (inside : race.InsideAt index) : right.holder? = some index := by
  rcases inside with ⟨attempt, there, inside⟩
  exact governed.holder_of_role there fun _ plays => plays.role_of_inside inside

theorem holder_of_success (governed : Governed plugin race right) {index : Nat}
    (success : race.EndedAt index (.ok (.ok ()))) : right.holder? = some index := by
  rcases success with ⟨attempt, there, ended⟩
  refine governed.holder_of_role there fun role plays => ?_
  rcases plays.of_success ended with ⟨engine, rfl⟩
  nofun

theorem holder_of_created (governed : Governed plugin race right) {index : Nat}
    {engine : Engine} (created : race.CreatedAt index engine) :
    right.holder? = some index := by
  rcases created with ⟨attempt, there, creation⟩
  refine governed.holder_of_role there fun role plays => ?_
  rcases plays.of_created creation with ⟨rfl, _⟩ | rfl <;> nofun

theorem insideAt_of_creatingAt {index : Nat} (creating : race.CreatingAt index) :
    race.InsideAt index := by
  rcases creating with ⟨attempt, there, creating⟩
  refine ⟨attempt, there, ?_⟩
  rw [Attempt.Inside, creating]
  trivial

theorem same_holder {first second : Nat} (one : right.holder? = some first)
    (other : right.holder? = some second) : first = second :=
  Option.some.inj (one.symm.trans other)

theorem binding_iff (governed : Governed plugin race right) :
    race.services.binding = true ↔
      race.services.engine.isSome ∨ ∃! index, race.InsideAt index := by
  rw [governed.binding, governed.engine]
  constructor
  · intro taken
    cases right with
    | free => cases taken
    | spent => exact .inl rfl
    | held holder =>
        have within := governed.present holder rfl
        have plays := governed.plays holder _ (List.getElem?_eq_getElem within)
        rw [Right.roleOf_held_self] at plays
        refine .inr ⟨holder, ⟨_, List.getElem?_eq_getElem within, plays.inside_of_holder⟩, ?_⟩
        intro other inside
        exact same_holder (governed.holder_of_inside inside) rfl
  · rintro (published | ⟨index, inside, _⟩)
    · cases right with
      | free | held => cases published
      | spent => rfl
    · have holds := governed.holder_of_inside inside
      cases right with
      | free => cases holds
      | held | spent => rfl

theorem created_engine (governed : Governed plugin race right) {index : Nat}
    {engine : Engine} (created : race.CreatedAt index engine) :
    race.services.engine = some engine ∨
      race.services.engine = none ∧
        ∃ attempt, race.attempts[index]? = some attempt ∧ attempt.stage = .publishing engine := by
  rcases created with ⟨attempt, there, creation⟩
  rw [governed.engine]
  rcases (governed.plays index attempt there).of_created creation with ⟨holds, publishing⟩ | wins
  · rw [Right.eq_held holds]
    exact .inr ⟨rfl, attempt, there, publishing⟩
  · rw [Right.eq_spent wins]
    exact .inl rfl

theorem oneShot (governed : Governed plugin race right) : race.OneShot where
  bindingIff := governed.binding_iff
  oneInside _ _ one other :=
    same_holder (governed.holder_of_inside one) (governed.holder_of_inside other)
  oneCreating _ _ one other :=
    same_holder (governed.holder_of_inside (insideAt_of_creatingAt one))
      (governed.holder_of_inside (insideAt_of_creatingAt other))
  oneEngine _ _ _ _ one other :=
    same_holder (governed.holder_of_created one) (governed.holder_of_created other)
  noneInVain _ _ := governed.created_engine
  oneSuccess _ _ one other :=
    same_holder (governed.holder_of_success one) (governed.holder_of_success other)
  neverInternal := by
    rintro index error ⟨attempt, there, ended⟩
    rcases (governed.plays index attempt there).of_error ended with ⟨rfl, _⟩ | ⟨cause, rfl⟩ <;>
      nofun
  refusedCallsNone := by
    intro index attempt error there ended kind
    rcases (governed.plays index attempt there).of_error ended with ⟨_, none⟩ | ⟨cause, rfl⟩
    · exact none
    · cases kind

/-! ## Steps -/

theorem refused_changes_nothing (step : race.Step next) {index : Nat} {attempt : Attempt}
    {ending : BindEnding} (there : race.attempts[index]? = some attempt)
    (claiming : attempt.stage = .claiming) (ended : next.EndedAt index ending) :
    (∃ error, ending = .ok (.error error) ∧ error.kind = .alreadyBound) ∧
      next.services = race.services := by
  rcases ended with ⟨moved, later, ended⟩
  have at_index := step.at_index there later
  rcases next with ⟨services, attempts⟩
  rcases at_index with rfl | moves
  · cases claiming.symm.trans ended
  · cases moves with
    | refused =>
        cases ended
        exact ⟨⟨_, rfl, rfl⟩, rfl⟩
    | claims => cases ended
    | creates creation creating => cases claiming.symm.trans creating
    | publishes engine next publishing => cases claiming.symm.trans publishing
    | slotWritten engine publishing => cases claiming.symm.trans publishing
    | leaves armed ending leaving => cases claiming.symm.trans leaving

theorem failed_leaves_free (governed : Governed plugin race right) (step : race.Step next)
    {index : Nat} {ending : BindEnding} (inside : race.InsideAt index)
    (ended : next.EndedAt index ending) (failed : ending ≠ .ok (.ok ())) :
    next.services.binding = false ∧ next.services.engine = none := by
  rcases inside with ⟨attempt, there, inside⟩
  rcases ended with ⟨moved, later, ended⟩
  have plays := governed.plays index attempt there
  have at_index := step.at_index there later
  rcases next with ⟨services, attempts⟩
  rcases at_index with rfl | moves
  · rw [Attempt.Inside, ended] at inside
    exact inside.elim
  · cases moves with
    | refused claiming =>
        rw [Attempt.Inside, claiming] at inside
        exact inside.elim
    | claims | publishes | slotWritten => cases ended
    | creates creation => rcases creation with payload | cause | engine <;> cases ended
    | leaves armed left leaving =>
        cases ended
        cases armed with
        | true =>
            rcases Right.eq_held (plays.of_armed leaving).1 with rfl
            exact ⟨rfl, governed.engine⟩
        | false => exact absurd (plays.of_disarmed leaving).1 failed

theorem advances (governed : Governed plugin race right) (step : race.Step next) :
    race.Advances next where
  refusedChangesNothing _ _ _ := refused_changes_nothing step
  failedLeavesFree _ _ := governed.failed_leaves_free step

/-! ## Runs -/

theorem spent_stays {holder : Nat} {engine : Engine}
    (governed : Governed plugin race (.spent holder engine)) (becomes : race.Becomes next) :
    Governed plugin next (.spent holder engine) := by
  induction becomes with
  | refl => exact governed
  | tail _ step induction =>
      rcases induction.step step with ⟨_, later, passes, governed⟩
      cases passes with
      | stays => exact governed

theorem engine_stays (governed : Governed plugin race right) (becomes : race.Becomes next)
    {engine : Engine} (published : race.services.engine = some engine) :
    next.services.engine = some engine ∧ next.services.binding = true := by
  rw [governed.engine] at published
  cases right with
  | free | held => cases published
  | spent holder =>
      cases published
      have later := governed.spent_stays becomes
      exact ⟨later.engine, later.binding⟩

/-- Services that no attempt has claimed are bound by the next attempt if its factory
makes an engine. -/
theorem free_can_be_bound (governed : Governed plugin race right)
    (unclaimed : race.services.binding = false) (engine : Engine) :
    ∃ later, race.Becomes later ∧ later.services.engine = some engine ∧
      later.EndedAt race.attempts.length (.ok (.ok ())) := by
  rcases right.eq_free (governed.binding.symm.trans unclaimed) with rfl
  have unpublished := governed.engine
  rcases race with ⟨services, attempts⟩
  let claimed : PluginServices := { services with binding := true }
  let bound : PluginServices := { claimed with engine := some engine }
  have claims : services.claim = some claimed := by
    rw [PluginServices.claim, unclaimed]
    rfl
  have publishes : claimed.publish engine = some bound := by
    rw [PluginServices.publish, show claimed.engine = none from unpublished]
  -- The stages of the attempt that begins now, with the services between them.
  let creating : Attempt := { stage := .creating, factoryCalls := 1 }
  let publishing : Attempt := { creating with
    stage := .publishing engine, creation := some (.ok (.ok engine)) }
  let leaving : Attempt := { publishing with stage := .leaving false (.ok (.ok ())) }
  let won : Attempt := { publishing with stage := .ended (.ok (.ok ())) }
  have first : Attempt.Moves services {} claimed creating := .claims {} claimed rfl claims
  have second : Attempt.Moves claimed creating claimed publishing :=
    .creates creating (.ok (.ok engine)) rfl
  have third : Attempt.Moves claimed publishing bound leaving :=
    .publishes publishing engine bound rfl publishes
  have fourth : Attempt.Moves bound leaving bound won :=
    .leaves leaving false (.ok (.ok ())) rfl
  refine ⟨⟨bound, attempts ++ [won]⟩, ?_, rfl, won, by simp, rfl⟩
  calc Race.Becomes ⟨services, attempts⟩ ⟨services, attempts ++ [({} : Attempt)]⟩ :=
        .single .begins
    _ |>.Becomes ⟨claimed, attempts ++ [creating]⟩ := .single (first.among attempts [])
    _ |>.Becomes ⟨claimed, attempts ++ [publishing]⟩ := .single (second.among attempts [])
    _ |>.Becomes ⟨bound, attempts ++ [leaving]⟩ := .single (third.among attempts [])
    _ |>.Becomes ⟨bound, attempts ++ [won]⟩ := .single (fourth.among attempts [])

end Governed

/-! ## Main statement -/

theorem binding_is_one_shot (plugin : PluginId) (clock : Key Clock) (race : Race)
    (becomes : (Race.fresh plugin clock).Becomes race) :
    race.OneShot ∧
      (∀ next, race.Step next → race.Advances next) ∧
      (∀ engine, race.services.engine = some engine → ∀ later, race.Becomes later →
        later.services.engine = some engine ∧ later.services.binding = true) ∧
      (race.services.binding = false → ∀ engine, ∃ later, race.Becomes later ∧
        later.services.engine = some engine ∧
        later.EndedAt race.attempts.length (.ok (.ok ()))) := by
  rcases Governed.of_becomes becomes with ⟨right, governed⟩
  exact ⟨governed.oneShot, fun _ => governed.advances,
    fun _ published _ becomes => governed.engine_stays becomes published,
    fun unclaimed => governed.free_can_be_bound unclaimed⟩

/-- An attempt that is made while the factory of another one runs is refused. -/
theorem reentrant_attempt_is_refused :
    let claimed : PluginServices := { plugin := default, clock := ⟨0⟩, binding := true }
    let creating : Attempt := { stage := .creating, factoryCalls := 1 }
    let refused : Attempt := { stage := .ended (.ok (.error (PluginServices.refusal default))) }
    (Race.fresh default ⟨0⟩).Becomes ⟨claimed, [creating, refused]⟩ ∧
      Race.OneShot ⟨claimed, [creating, refused]⟩ := by
  intro claimed creating refused
  have claims : Attempt.Moves { claimed with binding := false } {} claimed creating :=
    .claims {} claimed rfl rfl
  have refuses : Attempt.Moves claimed {} claimed refused := .refused {} rfl rfl
  have becomes : (Race.fresh default ⟨0⟩).Becomes ⟨claimed, [creating, refused]⟩ :=
    .head .begins (.head (claims.among [] []) (.head .begins
      (.single (refuses.among [creating] []))))
  exact ⟨becomes, (binding_is_one_shot default ⟨0⟩ _ becomes).1⟩

end Instrumentation.Binding
