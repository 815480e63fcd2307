import Instrumentation.Proofs.Binding.Endings
import Instrumentation.Proofs.Leads
import Instrumentation.Registry.Operations

namespace Instrumentation

/-! What programs may do about a registry and to services. They have no other means than
the functions of the library: services that were claimed stay as they are, others may be
bound, instances may be added to the registry, and a start that was accepted is not
taken back by anyone but itself. -/

variable {Host Value : Type}

/-! ## Services -/

def PluginServices.IsSettled (services : PluginServices) : Prop :=
  services.binding = services.isBound

inductive Settles (made : Engine → Prop) (before : PluginServices) : PluginServices → Prop
  | same : Settles made before before
  | bound (unclaimed : before.binding = false) (engine : Engine) (isMade : made engine) :
      Settles made before { before with binding := true, engine := some engine }

namespace Settles

variable {made : Engine → Prop} {before between after : PluginServices}

theorem trans (first : Settles made before between) (second : Settles made between after) :
    Settles made before after := by
  cases second with
  | same => exact first
  | bound unclaimed engine isMade =>
      cases first with
      | same => exact .bound unclaimed engine isMade
      | bound => cases unclaimed

theorem eq_of_claimed (settles : Settles made before after) (claimed : before.binding = true) :
    after = before := by
  cases settles with
  | same => rfl
  | bound unclaimed => cases claimed.symm.trans unclaimed

theorem isSettled (settles : Settles made before after) (settled : before.IsSettled) :
    after.IsSettled := by
  cases settles with
  | same => exact settled
  | bound => rfl

end Settles

/-! ## Orderly programs -/

def World.registered (world : World Host) (registry : Key Registry) :
    List (Key PluginServices) :=
  (world.registries.get registry).services.values

structure Orderly (registry : Key Registry) (made : Engine → Prop)
    (before after : World Host) : Prop where
  started : ∀ factory, (before.registries.get registry).factory = some factory →
    (after.registries.get registry).factory = some factory
  registered : ∀ key ∈ before.registered registry, key ∈ after.registered registry
  size : before.services.size ≤ after.services.size
  settles : ∀ key : Key PluginServices, key.index < before.services.size →
    Settles made (before.services.get key) (after.services.get key)
  fresh : ∀ key ∈ after.registered registry, key ∈ before.registered registry ∨
    before.services.size ≤ key.index ∧ key.index < after.services.size ∧
      (after.services.get key).IsSettled

namespace Orderly

variable {registry : Key Registry} {made : Engine → Prop} {before between after : World Host}

theorem refl (world : World Host) : Orderly registry made world world where
  started _ same := same
  registered _ member := member
  size := Nat.le_refl _
  settles _ _ := .same
  fresh _ member := .inl member

theorem trans (first : Orderly registry made before between)
    (second : Orderly registry made between after) : Orderly registry made before after where
  started factory same := second.started factory (first.started factory same)
  registered key member := second.registered key (first.registered key member)
  size := Nat.le_trans first.size second.size
  settles key within :=
    (first.settles key within).trans (second.settles key (Nat.lt_of_lt_of_le within first.size))
  fresh key member := by
    rcases second.fresh key member with earlier | ⟨new, within, settled⟩
    · rcases first.fresh key earlier with earlier | ⟨new, within, settled⟩
      · exact .inl earlier
      · exact .inr ⟨new, Nat.lt_of_lt_of_le within second.size,
          (second.settles key within).isSettled settled⟩
    · exact .inr ⟨Nat.le_trans first.size new, within, settled⟩

instance : IsPreorder (World Host) (Orderly registry made) where
  refl := refl
  trans _ _ _ := trans

theorem andKept (orderly : Orderly registry made before between)
    (services : after.services = between.services)
    (registered : after.registered registry = between.registered registry)
    (started : ∀ factory, (before.registries.get registry).factory = some factory →
      (after.registries.get registry).factory = some factory) :
    Orderly registry made before after where
  started := started
  registered key member := registered ▸ orderly.registered key member
  size := services ▸ orderly.size
  settles key within := services ▸ orderly.settles key within
  fresh key member := by
    rw [services]
    exact orderly.fresh key (registered ▸ member)

theorem of_same (services : after.services = before.services)
    (registries : after.registries = before.registries) : Orderly registry made before after := by
  refine (refl before).andKept services ?_ ?_
  · rw [World.registered, registries]
    rfl
  · intro factory same
    rw [registries]
    exact same

theorem of_taken {key : Key PluginServices} {taken final : PluginServices}
    (orderly : Orderly registry made (before.setServices key taken) between)
    (settles : Settles made (before.services.get key) final)
    (registries : after.registries = between.registries)
    (services : after.services = between.services.put key final) :
    Orderly registry made before after where
  started factory same := by
    rw [registries]
    exact orderly.started factory same
  registered other member := by
    rw [World.registered, registries]
    exact orderly.registered other member
  size := by
    rw [services]
    calc before.services.size
      _ ≤ (before.services.put key taken).size := before.services.size_le_put key taken
      _ ≤ between.services.size := orderly.size
      _ ≤ (between.services.put key final).size := between.services.size_le_put key final
  settles other within := by
    rw [services]
    by_cases same : other = key
    · subst other
      rw [Table.get_put_same]
      exact settles
    · have unchanged : (before.setServices key taken).services.get other =
          before.services.get other := Table.get_put_other _ _ same
      rw [Table.get_put_other _ _ same, ← unchanged]
      exact orderly.settles other
        (Nat.lt_of_lt_of_le within (before.services.size_le_put key taken))
  fresh other member := by
    rw [World.registered, registries] at member
    rcases orderly.fresh other member with earlier | ⟨new, within, settled⟩
    · exact .inl earlier
    · -- Services that were taken are not new, so they are not among those added.
      have taken_lt : key.index < (before.setServices key taken).services.size :=
        before.services.lt_size_put key taken
      have different : other ≠ key := by
        rintro rfl
        exact Nat.lt_irrefl _ (Nat.lt_of_lt_of_le taken_lt new)
      rw [services, Table.get_put_other _ _ different]
      exact .inr ⟨Nat.le_trans (before.services.size_le_put key taken) new,
        Nat.lt_of_lt_of_le within (between.services.size_le_put key final), settled⟩

end Orderly

/-! ## Binding is orderly -/

def Makes (made : Engine → Prop) (ending : Except Payload (Except Error Engine)) : Prop :=
  ∀ engine, ending = .ok (.ok engine) → made engine

abbrev IsOrderly (registry : Key Registry) (made : Engine → Prop)
    (program : Program Host Value) : Prop :=
  Leads (Orderly registry made) (fun _ => True) program

def Creation.IsOrderly (create : Creation Host) (registry : Key Registry)
    (made : Engine → Prop) : Prop :=
  ∀ plugin, Leads (Orderly registry made) (Makes made) (create plugin)

namespace PluginServices

variable {registry : Key Registry} {made : Engine → Prop} {create : Creation Host}

theorem release_claimed {services : PluginServices} (unclaimed : services.binding = false) :
    ({ services with binding := true } : PluginServices).release = services := by
  rw [release, ← unclaimed]

theorem afterCreation_isOrderly {world left : World Host} {key : Key PluginServices}
    (unclaimed : (world.services.get key).binding = false)
    (creation : Except Payload (Except Error Engine)) (makes : Makes made creation)
    (orderly : Orderly registry made
      (world.setServices key { world.services.get key with binding := true }) left)
    (plugin : PluginId) :
    Orderly registry made world (afterCreation key plugin creation left).2 := by
  -- Claimed services are nobody else's to change, whatever the factory did.
  have held : left.services.get key = { world.services.get key with binding := true } := by
    have settles := orderly.settles key (world.services.lt_size_put key _)
    rw [World.get_setServices] at settles
    exact settles.eq_of_claimed rfl
  have given : left.services.put key (left.services.get key).release =
      left.services.put key (world.services.get key) := by
    rw [held, release_claimed unclaimed]
  rcases creation with payload | cause | engine
  · exact .of_taken orderly .same rfl given
  · exact .of_taken orderly .same rfl given
  · cases publishes : (left.services.get key).publish engine with
    | none =>
        simp only [afterCreation, publishes]
        exact .of_taken orderly .same rfl given
    | some published =>
        simp only [afterCreation, publishes]
        rcases publish_eq_some publishes with ⟨_, rfl⟩
        rw [held]
        exact .of_taken orderly (.bound unclaimed engine (makes engine rfl)) rfl rfl

theorem bind_isOrderly (orderly : create.IsOrderly registry made)
    (key : Key PluginServices) : IsOrderly registry made (bind key create) := by
  intro world
  refine ⟨trivial, ?_⟩
  cases claims : (world.services.get key).claim with
  | none =>
      rw [bind_of_refused claims]
      exact .of_same rfl rfl
  | some claimed =>
      rw [bind_of_claimed claims rfl]
      have ⟨makes, led⟩ := orderly claimed.plugin (world.setServices key claimed)
      rcases claim_eq_some claims with ⟨unclaimed, rfl⟩
      exact afterCreation_isOrderly unclaimed _ makes led _

theorem bindPending_isOrderly (orderly : create.IsOrderly registry made)
    (key : Key PluginServices) : IsOrderly registry made (bindPending key create) := by
  refine .bind (.look _) fun state _ => ?_
  split
  · exact .pure trivial
  · refine .andThen (bind_isOrderly orderly key) (fun result _ => ?_) fun _ _ => trivial
    rcases result with error | _
    · dsimp only
      split <;> exact .pure trivial
    · exact .pure trivial

end PluginServices

theorem Registry.bindAll_isOrderly {registry : Key Registry} {made : Engine → Prop}
    {create : Creation Host} (orderly : create.IsOrderly registry made)
    (keys : List (Key PluginServices)) :
    IsOrderly registry made (Registry.bindAll create keys) := by
  induction keys with
  | nil => exact .pure trivial
  | cons key rest induction =>
      refine .andThen (PluginServices.bindPending_isOrderly orderly key) (fun result _ => ?_)
        fun _ _ => trivial
      cases result with
      | error error => exact .pure trivial
      | ok => exact induction

/-! ## Getting services is orderly -/

namespace Registry

variable {registry : Key Registry} {made : Engine → Prop}

def takingIn (target : Key Registry) (plugin : PluginId) (world : World Host) : World Host :=
  let state := world.registries.get target
  { world with
    services := world.services.add { plugin, clock := state.clock }
    registries := world.registries.put target (state.insert plugin world.services.nextKey) }

section TakingIn

variable {world : World Host} {target : Key Registry} {plugin : PluginId}

theorem registered_takingIn (absent : (world.registries.get target).find? plugin = none)
    (key : Key PluginServices) :
    key ∈ (takingIn target plugin world).registered registry ↔
      registry = target ∧ key = world.services.nextKey ∨ key ∈ world.registered registry := by
  rw [World.registered, takingIn]
  by_cases same : registry = target
  · subst same
    rw [Table.get_put_same]
    simpa [insert, World.registered] using Dict.mem_values_insert absent
  · rw [Table.get_put_other _ _ same]
    simp [same, World.registered]

theorem takingIn_orderly (absent : (world.registries.get target).find? plugin = none) :
    Orderly registry made world (takingIn target plugin world) where
  started factory recorded := by
    by_cases same : registry = target
    · subst same
      rw [takingIn, Table.get_put_same]
      exact recorded
    · rw [takingIn, Table.get_put_other _ _ same]
      exact recorded
  registered key member := (registered_takingIn absent key).mpr (.inr member)
  size := by
    rw [takingIn, Table.size_add]
    exact Nat.le_succ _
  settles key within := by
    rw [takingIn, Table.get_add_other _ _ within]
    exact .same
  fresh key member := by
    rcases (registered_takingIn absent key).mp member with ⟨_, new⟩ | earlier
    · subst new
      refine .inr ⟨Nat.le_refl _, ?_, ?_⟩
      · rw [takingIn, Table.size_add]
        exact Nat.lt_succ_self _
      · rw [takingIn, Table.get_add_nextKey]
        rfl
    · exact .inl earlier

end TakingIn

theorem findOrInsert_of_absent {world : World Host} {target : Key Registry} {plugin : PluginId}
    (absent : (world.registries.get target).find? plugin = none) :
    findOrInsert target plugin world =
      (.ok (world.services.nextKey, (world.registries.get target).factory),
        takingIn target plugin world) := by
  have reading : read target world = (.ok (world.registries.get target), world) := rfl
  rw [findOrInsert, Program.bind_of_ok reading, absent]
  rfl

theorem findOrInsert_isOrderly (target : Key Registry) (plugin : PluginId) :
    IsOrderly registry made
      (findOrInsert target plugin : Program Host (Key PluginServices × Option (Key Factory))) := by
  intro world
  refine ⟨trivial, ?_⟩
  have reading : read target world = (.ok (world.registries.get target), world) := rfl
  rw [findOrInsert, Program.bind_of_ok reading]
  cases absent : (world.registries.get target).find? plugin with
  | some services => exact .refl world
  | none => exact takingIn_orderly absent

theorem lookUp_isOrderly (target : Key Registry) (plugin : PluginId) :
    IsOrderly registry made
      (lookUp target plugin : Program Host (Key PluginServices × Option (Key Factory))) := by
  refine .bind (.look _) fun state _ => ?_
  cases state.find? plugin with
  | some services => exact .pure trivial
  | none =>
      refine .andThen (findOrInsert_isOrderly target plugin) (fun found _ => ?_) fun _ _ => trivial
      exact .bind (.modify fun _ => .of_same rfl rfl) fun _ _ => .pure trivial

theorem getServices_isOrderly {factories : Factories Host}
    (orderly : ∀ factory, (factories factory).IsOrderly registry made) (target : Key Registry)
    (id : String) : IsOrderly registry made (getServices factories target id) := by
  rw [getServices]
  cases PluginId.ofText id with
  | error error => exact .pure trivial
  | ok plugin =>
      refine .andThen (lookUp_isOrderly target plugin) (fun found _ => ?_) fun _ _ => trivial
      rcases found with ⟨services, _ | factory⟩
      · exact .pure trivial
      · refine .andThen (PluginServices.bindPending_isOrderly (orderly factory) services)
          (fun result _ => ?_) fun _ _ => trivial
        cases result <;> exact .pure trivial

end Registry

end Instrumentation
