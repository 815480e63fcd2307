import Instrumentation.Proofs.Binding.Race

namespace Instrumentation.Binding

/-! One attempt at a time has the right to bind. Who has it decides the state of the
services, and what every attempt may be up to; each step of a race keeps it so. -/

/-- Who has the right to bind: no one, an attempt that is at it, or for ever the attempt
that published an engine. -/
inductive Right where
  | free
  | held (holder : Nat)
  | spent (holder : Nat) (engine : Engine)

inductive Role where
  | idle
  | holder
  | winner (engine : Engine)

namespace Right

def isTaken : Right → Bool
  | free => false
  | held _ | spent _ _ => true

def engine? : Right → Option Engine
  | free | held _ => none
  | spent _ engine => some engine

def holder? : Right → Option Nat
  | free => none
  | held holder | spent holder _ => some holder

def roleOf (right : Right) (index : Nat) : Role :=
  match right with
  | free => .idle
  | held holder => if index = holder then .holder else .idle
  | spent holder engine => if index = holder then .winner engine else .idle

variable {right : Right} {index : Nat}

@[simp] theorem roleOf_held_self : (held index).roleOf index = .holder := by
  simp [roleOf]

@[simp] theorem roleOf_spent_self (engine : Engine) :
    (spent index engine).roleOf index = .winner engine := by
  simp [roleOf]

theorem eq_free (right : Right) (untaken : right.isTaken = false) : right = free := by
  cases right <;> cases untaken
  rfl

theorem eq_held (holds : right.roleOf index = .holder) : right = held index := by
  cases right with
  | free => cases holds
  | held holder =>
      rw [roleOf] at holds
      split at holds
      · next same => rw [same]
      · cases holds
  | spent holder engine =>
      rw [roleOf] at holds
      split at holds <;> cases holds

theorem eq_spent {engine : Engine} (wins : right.roleOf index = .winner engine) :
    right = spent index engine := by
  cases right with
  | free => cases wins
  | held holder =>
      rw [roleOf] at wins
      split at wins <;> cases wins
  | spent holder published =>
      rw [roleOf] at wins
      split at wins
      · next same =>
          cases wins
          rw [same]
      · cases wins

theorem roleOf_of_ne (other : right.holder? ≠ some index) : right.roleOf index = .idle := by
  cases right with
  | free => rfl
  | held holder => exact if_neg fun same => other (congrArg some same.symm)
  | spent holder engine => exact if_neg fun same => other (congrArg some same.symm)

end Right

inductive Fails (plugin : PluginId) : CreationEnding → BindEnding → Prop
  | failed (cause : Error) :
      Fails plugin (.ok (.error cause))
        (.ok (.error (PluginServices.constructionError plugin cause)))
  | unwound (payload : Payload) : Fails plugin (.error payload) (.error payload)

inductive Plays (plugin : PluginId) : Role → Attempt → Prop
  | waiting : Plays plugin .idle { stage := .claiming }
  | refused :
      Plays plugin .idle { stage := .ended (.ok (.error (PluginServices.refusal plugin))) }
  | failed (creation : CreationEnding) (ending : BindEnding)
      (fails : Fails plugin creation ending) :
      Plays plugin .idle
        { stage := .ended ending, factoryCalls := 1, creation := some creation }
  | creating : Plays plugin .holder { stage := .creating, factoryCalls := 1 }
  | publishing (engine : Engine) :
      Plays plugin .holder
        { stage := .publishing engine, factoryCalls := 1, creation := some (.ok (.ok engine)) }
  | failing (creation : CreationEnding) (ending : BindEnding)
      (fails : Fails plugin creation ending) :
      Plays plugin .holder
        { stage := .leaving true ending, factoryCalls := 1, creation := some creation }
  | published (engine : Engine) :
      Plays plugin (.winner engine)
        { stage := .leaving false (.ok (.ok ())), factoryCalls := 1
          creation := some (.ok (.ok engine)) }
  | won (engine : Engine) :
      Plays plugin (.winner engine)
        { stage := .ended (.ok (.ok ())), factoryCalls := 1
          creation := some (.ok (.ok engine)) }

namespace Plays

variable {plugin : PluginId} {role : Role} {attempt : Attempt}

theorem of_claiming (plays : Plays plugin role attempt)
    (claiming : attempt.stage = .claiming) : role = .idle ∧ attempt = {} := by
  cases plays <;> cases claiming
  exact ⟨rfl, rfl⟩

theorem of_creating (plays : Plays plugin role attempt)
    (creating : attempt.stage = .creating) :
    role = .holder ∧ attempt = { stage := .creating, factoryCalls := 1 } := by
  cases plays <;> cases creating
  exact ⟨rfl, rfl⟩

theorem of_publishing {engine : Engine} (plays : Plays plugin role attempt)
    (publishing : attempt.stage = .publishing engine) :
    role = .holder ∧ attempt =
      { stage := .publishing engine, factoryCalls := 1, creation := some (.ok (.ok engine)) } := by
  cases plays <;> cases publishing
  exact ⟨rfl, rfl⟩

theorem of_armed {ending : BindEnding} (plays : Plays plugin role attempt)
    (leaving : attempt.stage = .leaving true ending) :
    role = .holder ∧ ∃ creation, Fails plugin creation ending ∧ attempt =
      { stage := .leaving true ending, factoryCalls := 1, creation := some creation } := by
  cases plays <;> cases leaving
  next creation fails => exact ⟨rfl, creation, fails, rfl⟩

theorem of_disarmed {ending : BindEnding} (plays : Plays plugin role attempt)
    (leaving : attempt.stage = .leaving false ending) :
    ending = .ok (.ok ()) ∧ ∃ engine, role = .winner engine ∧ attempt =
      { stage := .leaving false (.ok (.ok ())), factoryCalls := 1
        creation := some (.ok (.ok engine)) } := by
  cases plays <;> cases leaving
  next engine => exact ⟨rfl, engine, rfl, rfl⟩

end Plays

inductive Right.Passes (index : Nat) : Right → Right → Prop
  | stays (right : Right) : Passes index right right
  | taken : Passes index .free (.held index)
  | given : Passes index (.held index) .free
  | spent (engine : Engine) : Passes index (.held index) (.spent index engine)

namespace Right.Passes

variable {index : Nat} {right later : Right}

theorem roleOf_other (passes : Passes index right later) {other : Nat}
    (different : other ≠ index) : later.roleOf other = right.roleOf other := by
  cases passes with
  | stays => rfl
  | taken => exact if_neg different
  | given => exact (if_neg different).symm
  | spent => exact (if_neg different).trans (if_neg different).symm

theorem holder_cases (passes : Passes index right later) {holder : Nat}
    (holds : later.holder? = some holder) :
    holder = index ∨ right.holder? = some holder := by
  cases passes with
  | stays => exact .inr holds
  | given => cases holds
  | taken | spent => exact .inl (Option.some.inj holds).symm

end Right.Passes

/-- The services are as the right to bind says, and every attempt plays its role. -/
structure Governed (plugin : PluginId) (race : Race) (right : Right) : Prop where
  servesPlugin : race.services.plugin = plugin
  binding : race.services.binding = right.isTaken
  engine : race.services.engine = right.engine?
  present : ∀ holder, right.holder? = some holder → holder < race.attempts.length
  plays : ∀ index attempt, race.attempts[index]? = some attempt →
    Plays plugin (right.roleOf index) attempt

namespace Governed

variable {plugin : PluginId} {race next : Race} {right : Right}

theorem fresh (plugin : PluginId) (clock : Key Clock) :
    Governed plugin (Race.fresh plugin clock) .free where
  servesPlugin := rfl
  binding := rfl
  engine := rfl
  present := nofun
  plays := by
    intro index attempt there
    cases (List.mem_of_getElem? there : attempt ∈ [])

theorem begins (governed : Governed plugin race right) :
    Governed plugin { race with attempts := race.attempts ++ [{}] } right where
  servesPlugin := governed.servesPlugin
  binding := governed.binding
  engine := governed.engine
  present := by
    intro holder holds
    have within := governed.present holder holds
    rw [List.length_append]
    exact Nat.lt_add_right _ within
  plays := by
    intro index attempt there
    by_cases within : index < race.attempts.length
    · rw [List.getElem?_append_left within] at there
      exact governed.plays index attempt there
    · -- Beyond the others there is only the new attempt, and no holder stands there.
      have idle : right.roleOf index = .idle :=
        Right.roleOf_of_ne fun holds => within (governed.present index holds)
      have new : attempt ∈ [({} : Attempt)] := by
        rw [List.getElem?_append_right (Nat.le_of_not_lt within)] at there
        exact List.mem_of_getElem? there
      rw [idle, List.mem_singleton.mp new]
      exact .waiting

theorem moved (governed : Governed plugin race right) {index : Nat} {attempt : Attempt}
    (there : race.attempts[index]? = some attempt) {later : Right}
    (passes : right.Passes index later) {services : PluginServices} {moved : Attempt}
    (servesPlugin : services.plugin = plugin) (binding : services.binding = later.isTaken)
    (engine : services.engine = later.engine?)
    (plays : Plays plugin (later.roleOf index) moved) :
    Governed plugin { services, attempts := race.attempts.set index moved } later where
  servesPlugin := servesPlugin
  binding := binding
  engine := engine
  present := by
    intro holder holds
    rw [List.length_set]
    rcases passes.holder_cases holds with rfl | held
    · exact (List.getElem?_eq_some_iff.mp there).1
    · exact governed.present holder held
  plays := by
    intro other found foundThere
    by_cases same : other = index
    · subst other
      rw [List.getElem?_set_self (List.getElem?_eq_some_iff.mp there).1] at foundThere
      cases foundThere
      exact plays
    · rw [List.getElem?_set_ne (Ne.symm same)] at foundThere
      rw [passes.roleOf_other same]
      exact governed.plays other found foundThere

theorem step (governed : Governed plugin race right) (step : race.Step next) :
    ∃ index later, right.Passes index later ∧ Governed plugin next later := by
  cases step with
  | begins => exact ⟨0, right, .stays right, governed.begins⟩
  | moves index attempt moved services there moves =>
      have plays := governed.plays index attempt there
      refine ⟨index, ?_⟩
      -- The stage of the attempt tells its role, and the role tells who has the right.
      cases moves with
      | refused claiming claimed =>
          rcases plays.of_claiming claiming with ⟨role, rfl⟩
          refine ⟨right, .stays right, governed.moved there (.stays right)
            governed.servesPlugin governed.binding governed.engine ?_⟩
          rw [role, governed.servesPlugin]
          exact .refused
      | claims _ claiming claims =>
          rcases plays.of_claiming claiming with ⟨_, rfl⟩
          rcases PluginServices.claim_eq_some claims with ⟨unclaimed, rfl⟩
          obtain rfl : right = .free := right.eq_free (governed.binding.symm.trans unclaimed)
          refine ⟨.held index, .taken, governed.moved there .taken
            governed.servesPlugin rfl governed.engine ?_⟩
          rw [Right.roleOf_held_self]
          exact .creating
      | creates creation creating =>
          rcases plays.of_creating creating with ⟨role, rfl⟩
          refine ⟨right, .stays right, governed.moved there (.stays right)
            governed.servesPlugin governed.binding governed.engine ?_⟩
          rw [role, governed.servesPlugin]
          rcases creation with payload | cause | engine
          · exact .failing _ _ (.unwound payload)
          · exact .failing _ _ (.failed cause)
          · exact .publishing engine
      | publishes engine _ publishing publishes =>
          rcases plays.of_publishing publishing with ⟨role, rfl⟩
          rcases PluginServices.publish_eq_some publishes with ⟨_, rfl⟩
          rcases Right.eq_held role with rfl
          refine ⟨.spent index engine, .spent engine, governed.moved there (.spent engine)
            governed.servesPlugin governed.binding rfl ?_⟩
          rw [Right.roleOf_spent_self]
          exact .published engine
      | slotWritten engine publishing written =>
          rcases plays.of_publishing publishing with ⟨role, _⟩
          rcases Right.eq_held role with rfl
          -- No engine is published while an attempt holds the right.
          exact absurd governed.engine (PluginServices.publish_eq_none written)
      | leaves armed ending leaving =>
          cases armed with
          | true =>
              rcases plays.of_armed leaving with ⟨role, creation, fails, rfl⟩
              rcases Right.eq_held role with rfl
              refine ⟨.free, .given, governed.moved there .given
                governed.servesPlugin rfl governed.engine ?_⟩
              exact .failed creation ending fails
          | false =>
              rcases plays.of_disarmed leaving with ⟨rfl, engine, role, rfl⟩
              refine ⟨right, .stays right, governed.moved there (.stays right)
                governed.servesPlugin governed.binding governed.engine ?_⟩
              rw [role]
              exact .won engine

theorem of_becomes {clock : Key Clock} (becomes : (Race.fresh plugin clock).Becomes race) :
    ∃ right, Governed plugin race right := by
  induction becomes with
  | refl => exact ⟨.free, fresh plugin clock⟩
  | tail _ step induction =>
      rcases induction with ⟨right, governed⟩
      rcases governed.step step with ⟨_, later, _, governed⟩
      exact ⟨later, governed⟩

end Governed

end Instrumentation.Binding
