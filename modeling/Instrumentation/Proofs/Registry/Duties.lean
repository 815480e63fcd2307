import Instrumentation.Proofs.Binding.Tried
import Instrumentation.Proofs.Registry.Filed

namespace Instrumentation.Visits

open Binding

/-! What a visit has still to do, and how each of its steps changes that. -/

namespace Stage

def isAccepted : Stage → Bool
  | binding _ | attempting _ _ _ | takingBack _ => true
  | entering | takingIn _ | ended _ => false

def SuitsGet : Stage → Prop
  | binding pending => pending.length ≤ 1
  | attempting _ _ pending => pending = []
  | takingBack _ => False
  | entering | takingIn _ | ended _ => True

def SuitsStart : Stage → Prop
  | takingIn _ => False
  | entering | binding _ | attempting _ _ _ | takingBack _ | ended _ => True

end Stage

namespace Visit

def waiting (visit : Visit) : List (Key PluginServices) :=
  match visit.stage with
  | .binding pending | .attempting _ _ pending => pending
  | .entering | .takingIn _ | .takingBack _ | .ended _ => []

def Holds (visit : Visit) (key : Key PluginServices) (index : Nat) : Prop :=
  ∃ pending, visit.stage = .attempting key index pending

def leads? (visit : Visit) : Option (Key Factory) :=
  match visit.request with
  | .get _ => none
  | .start factory => if visit.stage.isAccepted then some factory else none

def IsShaped (visit : Visit) : Prop :=
  match visit.request with
  | .get _ => visit.stage.SuitsGet
  | .start _ => visit.stage.SuitsStart

/-- The instance will be bound by this visit, unless its start is taken back. -/
def Owes (visit : Visit) (key : Key PluginServices) : Prop :=
  match visit.stage with
  | .binding pending | .attempting _ _ pending => key ∈ pending
  | .takingBack _ => True
  | .entering | .takingIn _ | .ended _ => False

variable {visit next : Visit} {shared later : Shared} {key : Key PluginServices}
  {index : Nat}

theorem leads?_of_get {id : String} (asks : visit.request = .get id) : visit.leads? = none := by
  rw [leads?, asks]

theorem leads?_of_ended {ending : Except Error Unit} (ended : visit.stage = .ended ending) :
    visit.leads? = none := by
  rw [leads?, ended]
  cases visit.request <;> rfl

theorem leads?_of_accepted {factory : Key Factory} (asks : visit.request = .start factory)
    (accepted : visit.stage.isAccepted = true) : visit.leads? = some factory := by
  rw [leads?, asks]
  exact if_pos accepted

theorem leads?_congr (request : next.request = visit.request)
    (stage : next.stage.isAccepted = visit.stage.isAccepted) : next.leads? = visit.leads? := by
  rw [leads?, leads?, request, stage]

theorem isShaped_of_ended {ending : Except Error Unit} (ended : visit.stage = .ended ending) :
    visit.IsShaped := by
  rw [IsShaped, ended]
  cases visit.request <;> trivial

theorem isShaped_finds (visit : Visit) (key : Key PluginServices)
    (factory : Option (Key Factory)) : (visit.finds key factory).IsShaped := by
  rcases visit with ⟨_ | _, found, stage⟩ <;> cases factory
  · trivial
  · exact Nat.le_refl 1
  · trivial
  · trivial

theorem leads?_finds {plugin : PluginId} (takingIn : visit.stage = .takingIn plugin)
    (shaped : visit.IsShaped) (key : Key PluginServices) (factory : Option (Key Factory)) :
    (visit.finds key factory).leads? = none := by
  rw [IsShaped, takingIn] at shaped
  cases asks : visit.request with
  | get id =>
      have asksToo : (visit.finds key factory).request = .get id := asks
      exact leads?_of_get asksToo
  | start => rw [asks] at shaped; cases shaped

theorem waiting_finds (visit : Visit) (key : Key PluginServices)
    (factory : Option (Key Factory)) :
    (visit.finds key factory).waiting = if factory.isSome then [key] else [] := by
  cases factory <;> rfl

namespace Moves

theorem filed (moves : visit.Moves shared later next) (filed : shared.Filed)
    (asked : ∀ key ∈ visit.waiting, key ∈ shared.registry.services.values) : later.Filed := by
  cases moves with
  | rejected | finds | misses | findsLate | refused | skips | passes | fails | returns =>
      exact filed
  | takesIn plugin _ missing => exact filed.takesIn missing
  | accepted factory pending registry _ _ records =>
      rcases Registry.recordFactory_eq_some records with ⟨_, _, rfl⟩
      exact filed.of_frame rfl rfl rfl (Nat.le_refl _) fun _ _ => rfl
  | attempts key pending binding =>
      have member : key ∈ visit.waiting := by
        rw [waiting, binding]
        exact .head pending
      refine filed.advances rfl (asked key member) (Nat.le_refl _) ?_ ?_
      · rw [Shared.race_advance_same]
        exact .begins
      · intro other different
        rw [Shared.race_advance_other _ _ _ _ different]
        rfl
  | goesOn key index pending attempt moved next services attempting there moves _ stores =>
      have attempted : shared.attempts key ≠ [] := by
        intro none
        rw [none] at there
        cases there
      have step : (shared.race key).Step
          { services := next, attempts := (shared.attempts key).set index moved } :=
        .moves index attempt moved next there moves
      refine filed.advances rfl (filed.attempted key attempted) stores.size_le ?_ ?_
      · rw [Shared.race_advance_same, stores.get_same]
        exact step
      · intro other different
        rw [Shared.race_advance_other _ _ _ _ different, stores.get_other different]
        rfl
  | takesBack factory =>
      exact filed.of_frame (Registry.forgetFactory_services _ _) (Registry.forgetFactory_clock _ _)
        rfl (Nat.le_refl _) fun _ _ => rfl

theorem registered (moves : visit.Moves shared later next)
    (member : key ∈ shared.registry.services.values) :
    key ∈ later.registry.services.values := by
  cases moves with
  | rejected | finds | misses | findsLate | refused | skips | attempts | goesOn | passes
  | fails | returns => exact member
  | takesIn plugin _ missing => exact (Dict.mem_values_insert missing).mpr (.inr member)
  | accepted factory pending registry _ _ records =>
      rcases Registry.recordFactory_eq_some records with ⟨_, _, rfl⟩
      exact member
  | takesBack factory =>
      rw [Registry.forgetFactory_services]
      exact member

theorem waiting (moves : visit.Moves shared later next)
    (asked : ∀ key ∈ visit.waiting, key ∈ shared.registry.services.values)
    (member : key ∈ next.waiting) : key ∈ later.registry.services.values := by
  cases moves with
  | rejected | misses | refused | takesBack | returns => cases member
  | finds _ _ found _ _ _ finds | findsLate _ found _ finds =>
      rw [waiting_finds] at member
      split at member
      · rw [List.mem_singleton.mp member]
        exact Dict.mem_values_of_find? finds
      · cases member
  | takesIn plugin _ missing =>
      rw [waiting_finds] at member
      split at member
      · exact (Dict.mem_values_insert missing).mpr (.inl (List.mem_singleton.mp member))
      · cases member
  | accepted factory pending registry _ _ records =>
      rcases Registry.recordFactory_eq_some records with ⟨_, rfl, rfl⟩
      exact member
  | skips other pending binding | attempts other pending binding =>
      apply asked
      rw [Visit.waiting, binding]
      exact .tail other member
  | goesOn => exact asked key member
  | passes other index pending attempt result attempting =>
      apply asked
      rw [Visit.waiting, attempting]
      exact member
  | fails other index pending attempt error =>
      cases request : visit.request <;>
        rw [Visit.waiting, request] at member <;> cases member

inductive Leading (visit next : Visit) (registry later : Registry) : Prop
  | follows (same : later.factory = registry.factory)
      (leads : next.leads? = visit.leads? ∨ next.leads? = none)
  | begins (factory : Key Factory) (free : registry.factory = none)
      (leads : next.leads? = some factory) (recorded : later.factory = some factory)
  | ends (factory : Key Factory) (led : visit.leads? = some factory)
      (leads : next.leads? = none) (taken : later = registry.forgetFactory factory)

theorem leading (moves : visit.Moves shared later next) (shaped : visit.IsShaped) :
    Leading visit next shared.registry later.registry := by
  cases moves with
  | rejected | refused | returns => exact .follows rfl (.inr (leads?_of_ended rfl))
  | finds _ _ _ asks | misses _ _ asks => exact .follows rfl (.inr (leads?_of_get asks))
  | findsLate _ _ takingIn | takesIn _ takingIn =>
      exact .follows rfl (.inr (leads?_finds takingIn shaped _ _))
  | accepted factory _ _ asks _ records =>
      rcases Registry.recordFactory_eq_some records with ⟨free, _, rfl⟩
      exact .begins factory free (leads?_of_accepted asks rfl) rfl
  | skips _ _ stage | attempts _ _ stage | passes _ _ _ _ _ stage =>
      refine .follows rfl (.inl (leads?_congr rfl ?_))
      rw [stage]
      rfl
  | goesOn => exact .follows rfl (.inl rfl)
  | fails _ _ _ _ error attempting =>
      cases asks : visit.request with
      | get => exact .follows rfl (.inr (leads?_of_get rfl))
      | start =>
          refine .follows rfl (.inl (leads?_congr asks.symm ?_))
          rw [attempting]
          rfl
  | takesBack factory error asks takingBack =>
      have led : visit.leads? = some factory := by
        apply leads?_of_accepted asks
        rw [takingBack]
        rfl
      exact .ends factory led (leads?_of_ended rfl) rfl

theorem shaped (moves : visit.Moves shared later next) (shaped : visit.IsShaped) :
    next.IsShaped := by
  cases moves with
  | rejected | refused | takesBack | returns => exact isShaped_of_ended rfl
  | finds | findsLate | takesIn => exact isShaped_finds _ _ _
  | misses _ _ asks | accepted _ _ _ asks =>
      rw [IsShaped, asks]
      trivial
  | skips key pending stage =>
      rw [IsShaped, stage] at shaped
      rw [IsShaped]
      cases asks : visit.request with
      | get =>
          rw [asks] at shaped
          exact Nat.le_of_succ_le shaped
      | start => trivial
  | attempts key pending stage =>
      rw [IsShaped, stage] at shaped
      rw [IsShaped]
      cases asks : visit.request with
      | get =>
          rw [asks] at shaped
          exact List.length_eq_zero_iff.mp (Nat.le_zero.mp (Nat.le_of_succ_le_succ shaped))
      | start => trivial
  | goesOn => exact shaped
  | passes key index pending _ _ stage =>
      rw [IsShaped, stage] at shaped
      rw [IsShaped]
      cases asks : visit.request with
      | get =>
          rw [asks] at shaped
          obtain rfl : pending = [] := shaped
          exact Nat.zero_le 1
      | start => trivial
  | fails =>
      rw [IsShaped]
      cases visit.request <;> trivial

/-! ### Attempts and instances owed -/

theorem holds (moves : visit.Moves shared later next) (holds : visit.Holds key index) :
    next.Holds key index ∨
      ∃ attempt, (shared.attempts key)[index]? = some attempt ∧ attempt.HasEnded := by
  rcases holds with ⟨pending, holds⟩
  cases moves with
  | goesOn => exact .inl ⟨pending, holds⟩
  | passes _ _ _ attempt _ attempting there ended
  | fails _ _ _ attempt _ attempting there ended =>
      cases attempting.symm.trans holds
      exact .inr ⟨attempt, there, _, ended⟩
  | rejected _ _ _ stage | finds _ _ _ _ stage | misses _ _ _ stage | findsLate _ _ stage
  | takesIn _ stage | refused _ _ stage | accepted _ _ _ _ stage | skips _ _ stage
  | attempts _ _ stage | takesBack _ _ _ stage | returns stage => cases stage.symm.trans holds

/-- A visit works at no attempt but its own. -/
theorem attempts_cases (moves : visit.Moves shared later next) {attempt : Attempt}
    (there : (later.attempts key)[index]? = some attempt) :
    (shared.attempts key)[index]? = some attempt ∨ next.Holds key index := by
  cases moves with
  | rejected | finds | misses | findsLate | takesIn | refused | accepted | skips | passes
  | fails | takesBack | returns => exact .inl there
  | attempts other pending =>
      by_cases same : key = other
      · subst other
        rw [Shared.attempts_advance_same] at there
        by_cases within : index < (shared.attempts key).length
        · rw [List.getElem?_append_left within] at there
          exact .inl there
        · have bound := (List.getElem?_eq_some_iff.mp there).1
          rw [List.length_append, List.length_singleton] at bound
          obtain rfl : index = (shared.attempts key).length := by omega
          exact .inr ⟨pending, rfl⟩
      · rw [Shared.attempts_advance_other _ _ _ _ same] at there
        exact .inl there
  | goesOn other place pending _ _ _ _ attempting =>
      by_cases same : key = other ∧ index = place
      · rcases same with ⟨rfl, rfl⟩
        exact .inr ⟨pending, attempting⟩
      · left
        by_cases here : key = other
        · subst other
          have different : place ≠ index := fun equal => same ⟨rfl, equal.symm⟩
          rwa [Shared.attempts_advance_same, List.getElem?_set_ne different] at there
        · rwa [Shared.attempts_advance_other _ _ _ _ here] at there

theorem returned (moves : visit.Moves shared later next)
    (returned : ∀ key, ∀ attempt ∈ shared.attempts key, ∀ payload,
      attempt.creation ≠ some (.error payload)) :
    ∀ key, ∀ attempt ∈ later.attempts key, ∀ payload,
      attempt.creation ≠ some (.error payload) := by
  cases moves with
  | rejected | finds | misses | findsLate | takesIn | refused | accepted | skips | passes
  | fails | takesBack | returns => exact returned
  | attempts other =>
      intro key attempt member
      by_cases same : key = other
      · subst other
        rw [Shared.attempts_advance_same] at member
        rcases List.mem_append.mp member with earlier | new
        · exact returned key attempt earlier
        · rw [List.mem_singleton.mp new]
          nofun
      · rw [Shared.attempts_advance_other _ _ _ _ same] at member
        exact returned key attempt member
  | goesOn other _ _ _ moved _ _ _ _ _ returns =>
      intro key attempt member
      by_cases same : key = other
      · subst other
        rw [Shared.attempts_advance_same] at member
        rcases List.mem_or_eq_of_mem_set member with earlier | rfl
        · exact returned key attempt earlier
        · exact returns
      · rw [Shared.attempts_advance_other _ _ _ _ same] at member
        exact returned key attempt member

theorem attempted (moves : visit.Moves shared later next) (tried : shared.attempts key ≠ []) :
    later.attempts key ≠ [] := by
  cases moves with
  | rejected | finds | misses | findsLate | takesIn | refused | accepted | skips | passes
  | fails | takesBack | returns => exact tried
  | attempts other | goesOn other =>
      by_cases same : key = other
      · subst other
        rw [Shared.attempts_advance_same]
        simp [tried]
      · rwa [Shared.attempts_advance_other _ _ _ _ same]

theorem owes (moves : visit.Moves shared later next) (shaped : visit.IsShaped)
    (filed : shared.Filed)
    (asked : ∀ key ∈ visit.waiting, key ∈ shared.registry.services.values)
    (led : ∀ factory, visit.leads? = some factory → shared.registry.factory = some factory)
    (owes : visit.Owes key) :
    next.Owes key ∨ later.attempts key ≠ [] ∨ later.registry.factory = none := by
  cases moves with
  | rejected _ _ _ stage | finds _ _ _ _ stage | misses _ _ _ stage | findsLate _ _ stage
  | takesIn _ stage | refused _ _ stage | accepted _ _ _ _ stage =>
      rw [Owes, stage] at owes
      cases owes
  | returns stage =>
      rw [Owes, stage] at owes
      cases owes
  | goesOn => exact .inl owes
  | skips other pending stage bound =>
      rw [Owes, stage] at owes
      rcases List.mem_cons.mp owes with rfl | waits
      · have member : key ∈ visit.waiting := by
          rw [Visit.waiting, stage]
          exact .head pending
        rcases filed.governed (asked key member) with ⟨right, governed⟩
        exact .inr (.inl (Race.attempts_of_bound governed bound))
      · exact .inl waits
  | attempts other pending stage =>
      rw [Owes, stage] at owes
      rcases List.mem_cons.mp owes with rfl | waits
      · rw [Shared.attempts_advance_same]
        exact .inr (.inl (by simp))
      · exact .inl waits
  | passes _ _ _ _ _ stage =>
      rw [Owes, stage] at owes
      exact .inl owes
  | fails _ _ _ _ _ stage =>
      rw [Owes, stage] at owes
      rw [IsShaped, stage] at shaped
      rw [Owes]
      cases asks : visit.request with
      | get =>
          rw [asks] at shaped
          obtain rfl : _ = [] := shaped
          cases owes
      | start => exact .inl trivial
  | takesBack factory error asks takingBack =>
      have accepted : visit.leads? = some factory := by
        apply leads?_of_accepted asks
        rw [takingBack]
        rfl
      have forgotten : (shared.registry.forgetFactory factory).factory = none := by
        rw [Registry.forgetFactory, if_pos (led factory accepted)]
      exact .inr (.inr forgotten)

/-- What is owed after a step was owed before, or the visit that makes it takes it on. -/
theorem owed_cases (moves : visit.Moves shared later next)
    (started : later.registry.factory.isSome) (member : key ∈ later.registry.services.values) :
    (shared.registry.factory.isSome ∧ key ∈ shared.registry.services.values) ∨
      next.Owes key := by
  cases moves with
  | rejected | finds | misses | findsLate | refused | skips | attempts | goesOn | passes
  | fails | returns => exact .inl ⟨started, member⟩
  | takesIn plugin _ missing =>
      rcases (Dict.mem_values_insert missing).mp member with rfl | member
      · rcases Option.isSome_iff_exists.mp started with ⟨factory, recorded⟩
        replace recorded : shared.registry.factory = some factory := recorded
        rw [recorded]
        exact .inr (.head [])
      · exact .inl ⟨started, member⟩
  | accepted factory pending registry _ _ records =>
      rcases Registry.recordFactory_eq_some records with ⟨_, rfl, rfl⟩
      exact .inr member
  | takesBack factory =>
      rw [Registry.forgetFactory] at started member
      split at started
      · cases started
      · next other =>
          rw [if_neg other] at member
          exact .inl ⟨started, member⟩

end Moves

end Visit

end Instrumentation.Visits
