import Instrumentation.Proofs.Binding.Governed
import Instrumentation.Proofs.Registry.Stacks

namespace Instrumentation

/-! The calls that a thread is in, one within another. Which instances they have the right to
bind, what each of them may rely on by its place on the stack, and which changes to services
leave all of that as it is. -/

namespace Binding

def Role.Fits (services : PluginServices) : Role → Prop
  | .idle => True
  | .holder => services.binding = true ∧ services.engine = none
  | .winner engine => services.binding = true ∧ services.engine = some engine

theorem Role.Fits.unbound {role : Role} {services : PluginServices} (fits : role.Fits services)
    (unbound : services.engine = none) : role = .idle ∨ role = .holder := by
  cases role with
  | idle => exact .inl rfl
  | holder => exact .inr rfl
  | winner engine => cases fits.2.symm.trans unbound

namespace Plays

variable {plugin : PluginId} {role : Role} {attempt : Attempt}

theorem of_ended_ok (plays : Plays plugin role attempt)
    (ended : attempt.stage = .ended (.ok (.ok ()))) :
    ∃ engine, role = .winner engine ∧ attempt.creation = some (.ok (.ok engine)) := by
  cases plays with
  | won engine => exact ⟨engine, rfl, rfl⟩
  | failed creation ending fails => cases fails <;> cases ended
  | waiting | refused | creating | publishing | failing | published => cases ended

/-- An attempt has only ended with an engine from its factory if it published that. -/
theorem of_made (plays : Plays plugin role attempt) {ending : BindEnding}
    (ended : attempt.stage = .ended ending) {engine : Engine}
    (made : attempt.creation = some (.ok (.ok engine))) :
    role = .winner engine ∧ ending = .ok (.ok ()) := by
  cases plays with
  | won engine =>
      cases made
      cases ended
      exact ⟨rfl, rfl⟩
  | failed creation ending fails => cases fails <;> cases made
  | waiting | refused | creating => cases made
  | publishing | failing | published => cases ended

end Plays

end Binding

namespace Callers

open Binding

variable {shared later : Shared} {services : Table PluginServices} {stack below : List Frame}
  {key : Key PluginServices} {attempt moved : Attempt} {visit next : Visit}

/-! ## The binds on a stack -/

def Frame.held? : Frame → Option (Key PluginServices)
  | .visit _ => none
  | .bind key attempt =>
      match attempt.stage with
      | .claiming | .ended _ => none
      | .creating | .publishing _ | .leaving _ _ => some key

def held (stack : List Frame) : List (Key PluginServices) :=
  stack.filterMap Frame.held?

theorem mem_held_iff :
    key ∈ held stack ↔ ∃ attempt, .bind key attempt ∈ stack ∧ attempt.Inside := by
  rw [held, List.mem_filterMap]
  constructor
  · rintro ⟨frame, member, holds⟩
    cases frame with
    | visit visit => cases holds
    | bind other attempt =>
        cases stage : attempt.stage <;> simp only [Frame.held?, stage] at holds <;> cases holds <;>
          exact ⟨attempt, member, by simp [Attempt.Inside, stage]⟩
  · rintro ⟨attempt, member, inside⟩
    refine ⟨.bind key attempt, member, ?_⟩
    cases stage : attempt.stage <;> simp [Attempt.Inside, stage] at inside <;>
      simp [Frame.held?, stage]

theorem held_of_idle {plugin : PluginId} (plays : Plays plugin .idle attempt)
    (key : Key PluginServices) (stack : List Frame) :
    held (.bind key attempt :: stack) = held stack := by
  cases plays <;> rfl

theorem held_of_holder {plugin : PluginId} (plays : Plays plugin .holder attempt)
    (key : Key PluginServices) (stack : List Frame) :
    held (.bind key attempt :: stack) = key :: held stack := by
  cases plays <;> rfl

/-- Calls stand on a stack in the order in which they were made: a call on a registry above a
factory or nothing, and a bind also above the call on a registry that waits for it. -/
inductive Shaped : List Frame → Prop
  | nil : Shaped []
  | visit (visit : Visit) (stack : List Frame) (free : IsFree stack) (shaped : Shaped stack) :
      Shaped (.visit visit :: stack)
  | bind (key : Key PluginServices) (attempt : Attempt) (stack : List Frame) (free : IsFree stack)
      (shaped : Shaped stack) : Shaped (.bind key attempt :: stack)
  | waitedFor (key : Key PluginServices) (attempt : Attempt) (visit : Visit) (stack : List Frame)
      (shaped : Shaped (.visit visit :: stack)) :
      Shaped (.bind key attempt :: .visit visit :: stack)

/-- Unless a bind at the top is just taking or giving back the right, the binds on a stack
have it. -/
theorem Shaped.inside (shaped : Shaped stack)
    (calm : ∀ key attempt rest, stack = .bind key attempt :: rest → attempt.stage = .creating)
    (member : .bind key attempt ∈ stack) : attempt.Inside := by
  have creating {attempt : Attempt} (creating : attempt.stage = .creating) : attempt.Inside := by
    rw [Attempt.Inside, creating]
    trivial
  induction shaped with
  | nil => cases member
  | visit visit stack free shaped induction =>
      rcases List.mem_cons.1 member with same | member
      · cases same
      · refine induction (fun other made rest same => ?_) member
        rw [same] at free
        exact free
  | bind other made stack free shaped induction =>
      rcases List.mem_cons.1 member with same | member
      · cases same
        exact creating (calm key attempt stack rfl)
      · refine induction (fun other made rest same => ?_) member
        rw [same] at free
        exact free
  | waitedFor other made visit stack shaped induction =>
      rcases List.mem_cons.1 member with same | member
      · cases same
        exact creating (calm key attempt _ rfl)
      · exact induction (fun _ _ _ same => nomatch same) member

/-! ## What frames know -/

def IsOrWillBe (services : Table PluginServices) (below : List Frame)
    (key : Key PluginServices) : Prop :=
  (services.get key).isBound = true ∨ key ∈ held below

/-- How far a call may have come that found an instance together with a factory: it goes on
to its bind and to no other, and ends well only if that is secured. -/
inductive Stage.Heads (key : Key PluginServices) (secured : Prop) : Stage → Prop
  | entering : Heads key secured .entering
  | takingIn (plugin : PluginId) : Heads key secured (.takingIn plugin)
  | binding : Heads key secured (.binding [key])
  | awaiting : Heads key secured (.awaiting key [])
  | bound (secure : secured) : Heads key secured (.binding [])
  | returned (secure : secured) : Heads key secured (.ended (.ok (.ok ())))
  | failed (error : Error) : Heads key secured (.ended (.ok (.error error)))
  | unwound (payload : Payload) : Heads key secured (.ended (.error payload))

theorem Stage.Heads.mono {stage : Stage} {secured still : Prop} (heads : stage.Heads key secured)
    (stays : secured → still) : stage.Heads key still := by
  cases heads with
  | entering => exact .entering
  | takingIn plugin => exact .takingIn plugin
  | binding => exact .binding
  | awaiting => exact .awaiting
  | bound secure => exact .bound (stays secure)
  | returned secure => exact .returned (stays secure)
  | failed error => exact .failed error
  | unwound payload => exact .unwound payload

def Stage.NeedsFactory : Stage → Prop
  | .binding _ | .awaiting _ _ => True
  | .entering | .takingIn _ | .takingBack _ | .ended _ => False

structure Visit.Secure (services : Table PluginServices) (below : List Frame) (visit : Visit) :
    Prop where
  knows : visit.stage.NeedsFactory → ∃ key factory, visit.found = some ⟨key, some factory⟩
  heads : ∀ key factory, visit.found = some ⟨key, some factory⟩ →
    visit.stage.Heads key (IsOrWillBe services below key)
  made : ∀ engine, visit.creation = some (.ok (.ok engine)) →
    (visit.stage = .binding [] ∨ visit.stage = .ended (.ok (.ok ()))) ∧
      ∃ found, visit.found = some found ∧ (services.get found.services).engine = some engine

structure Stands (services : Table PluginServices) (below : List Frame)
    (key : Key PluginServices) (attempt : Attempt) : Prop where
  plays : ∃ plugin role, Plays plugin role attempt ∧ role.Fits (services.get key)
  refused : ∀ error, attempt.stage = .ended (.ok (.error error)) →
    error.kind = .alreadyBound → IsOrWillBe services below key

def Stand (services : Table PluginServices) : List Frame → Prop
  | [] => True
  | .bind key attempt :: below => Stands services below key attempt ∧ Stand services below
  | .visit visit :: below =>
      (∀ registry id, visit.request = .get registry id → visit.Secure services below) ∧
        Stand services below

structure Governs (services : Table PluginServices) (stack : List Frame) : Prop where
  flagged : ∀ key, (services.get key).binding = true ↔ IsOrWillBe services stack key
  distinct : (held stack).Nodup
  stand : Stand services stack
  shaped : Shaped stack

/-! ## What steps spare -/

def Spares (services later : Table PluginServices) (stack : List Frame) : Prop :=
  ∀ key, later.get key = services.get key ∨
    (services.get key).engine = none ∧ key ∉ held stack

section Spares

variable {later : Table PluginServices} {frame : Frame}

theorem mem_held_cons (member : key ∈ held stack) (frame : Frame) :
    key ∈ held (frame :: stack) := by
  rw [held, List.filterMap_cons]
  split
  · exact member
  · exact List.mem_cons_of_mem _ member

theorem mem_held_bind {other : Key PluginServices} (different : other ≠ key) (attempt : Attempt)
    (below : List Frame) : other ∈ held (.bind key attempt :: below) ↔ other ∈ held below := by
  have top : ∀ taken, (Frame.bind key attempt).held? = some taken → taken = key := by
    intro taken holds
    rw [Frame.held?] at holds
    split at holds <;> cases holds <;> rfl
  rw [held, List.filterMap_cons]
  split
  · rfl
  · next taken holds =>
      rw [top taken holds, List.mem_cons]
      exact ⟨fun member => member.resolve_left different, .inr⟩

namespace Spares

theorem tail (spares : Spares services later (frame :: stack)) : Spares services later stack :=
  fun key => (spares key).imp_right fun ⟨unbound, apart⟩ =>
    ⟨unbound, fun member => apart (mem_held_cons member frame)⟩

theorem engine (spares : Spares services later stack) {engine : Engine}
    (bound : (services.get key).engine = some engine) : (later.get key).engine = some engine := by
  rcases spares key with same | ⟨unbound, _⟩
  · rw [same]
    exact bound
  · cases bound.symm.trans unbound

theorem isOrWillBe (spares : Spares services later stack) (secure : IsOrWillBe services below key) :
    IsOrWillBe later below key := by
  rcases secure with bound | member
  · rcases Option.isSome_iff_exists.1 bound with ⟨engine, bound⟩
    exact .inl (Option.isSome_iff_exists.2 ⟨engine, spares.engine bound⟩)
  · exact .inr member

theorem secure (spares : Spares services later stack) (secure : visit.Secure services below) :
    visit.Secure later below where
  knows := secure.knows
  heads key factory found := (secure.heads key factory found).mono spares.isOrWillBe
  made engine created := by
    have ⟨stage, found, finds, bound⟩ := secure.made engine created
    exact ⟨stage, found, finds, spares.engine bound⟩

theorem stands (spares : Spares services later (.bind key attempt :: below))
    (stands : Stands services below key attempt) : Stands later below key attempt where
  plays := by
    rcases stands.plays with ⟨plugin, role, plays, fits⟩
    refine ⟨plugin, role, plays, ?_⟩
    rcases spares key with same | ⟨unbound, apart⟩
    · rw [same]
      exact fits
    · rcases fits.unbound unbound with rfl | rfl
      · trivial
      · rw [held_of_holder plays] at apart
        exact absurd List.mem_cons_self apart
  refused error ended kind := spares.isOrWillBe (stands.refused error ended kind)

theorem stand (spares : Spares services later stack) (stand : Stand services stack) :
    Stand later stack := by
  induction stack with
  | nil => trivial
  | cons frame below induction =>
      cases frame with
      | visit visit =>
          exact ⟨fun registry id asks => spares.secure (stand.1 registry id asks),
            induction spares.tail stand.2⟩
      | bind key attempt => exact ⟨spares.stands stand.1, induction spares.tail stand.2⟩

theorem add (flagged : ∀ key ∈ held stack, (services.get key).binding = true)
    (new : PluginServices) : Spares services (services.add new) stack := by
  intro key
  rcases Nat.lt_or_ge key.index services.size with within | beyond
  · exact .inl (services.get_add_other new within)
  · have absent : services.get key = default := services.get_beyond beyond
    refine .inr ⟨congrArg PluginServices.engine absent, fun member => ?_⟩
    have flag := flagged key member
    rw [absent] at flag
    cases flag

end Spares

end Spares

end Callers

end Instrumentation
