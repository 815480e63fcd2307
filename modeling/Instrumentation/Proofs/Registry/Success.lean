import Instrumentation.Proofs.Registry.Conduct

namespace Instrumentation

/-! Starts that succeed. Every instance that was registered when such a start was called
is bound when it returns and ever after, with one exception: an instance of which a bind
was under way then is left to that bind, which may still fail. -/

variable {Host Value : Type}

namespace PluginServices

/-- Claimed by a bind that has not ended, with no engine published yet. -/
def IsBeingBound (services : PluginServices) : Prop :=
  services.binding = true ∧ services.engine = none

end PluginServices

/-! ## What a start passes over -/

theorem Settles.isBound {made : Engine → Prop} {before after : PluginServices}
    (settles : Settles made before after) (bound : before.isBound) : after.isBound := by
  cases settles with
  | same => exact bound
  | bound => rfl

section PassingOver

variable {registry : Key Registry} {made : Engine → Prop} {create : Creation Host}
  {world later : World Host} {key : Key PluginServices}

theorem Orderly.same_of_beingBound (orderly : Orderly registry made world later)
    (within : key.index < world.services.size)
    (beingBound : (later.services.get key).IsBeingBound) :
    later.services.get key = world.services.get key := by
  have settles := orderly.settles key within
  generalize later.services.get key = services at settles beingBound ⊢
  cases settles with
  | same => rfl
  | bound => cases beingBound.2

/-- Services that a successful start or bind has left behind: bound, or as they were
while they were being bound. -/
def LeftBehind (key : Key PluginServices) (before after : Table PluginServices) : Prop :=
  (after.get key).isBound ∨
    (before.get key).IsBeingBound ∧ after.get key = before.get key

theorem LeftBehind.after_orderly {between : World Host}
    (left : LeftBehind key between.services later.services)
    (orderly : Orderly registry made world between)
    (within : key.index < world.services.size) :
    LeftBehind key world.services later.services := by
  rcases left with bound | ⟨beingBound, same⟩
  · exact .inl bound
  · have unchanged := orderly.same_of_beingBound within beingBound
    rw [unchanged] at beingBound same
    exact .inr ⟨beingBound, same⟩

theorem LeftBehind.before_orderly {between : World Host}
    (left : LeftBehind key world.services between.services)
    (orderly : Orderly registry made between later)
    (within : key.index < between.services.size) :
    LeftBehind key world.services later.services := by
  have settles := orderly.settles key within
  rcases left with bound | ⟨beingBound, same⟩
  · exact .inl (settles.isBound bound)
  · have claimed : (between.services.get key).binding = true := by
      rw [same]
      exact beingBound.1
    exact .inr ⟨beingBound, (settles.eq_of_claimed claimed).trans same⟩

theorem bind_leaves {between : World Host}
    (binds : PluginServices.bind key create world = (.ok (.ok ()), between)) :
    (between.services.get key).isBound := by
  cases claims : (world.services.get key).claim with
  | none =>
      rw [PluginServices.bind_of_refused claims] at binds
      cases binds
  | some claimed =>
      rcases creates : create claimed.plugin (world.setServices key claimed) with ⟨creation, made⟩
      rw [PluginServices.bind_of_claimed claims creates] at binds
      rcases creation with payload | cause | engine
      · cases binds
      · cases binds
      · simp only [PluginServices.afterCreation] at binds
        cases publishes : (made.services.get key).publish engine with
        | none =>
            rw [publishes] at binds
            cases binds
        | some published =>
            rw [publishes] at binds
            cases binds
            rcases PluginServices.publish_eq_some publishes with ⟨_, rfl⟩
            exact congrArg PluginServices.isBound (World.get_setServices made key _)

/-- Only services that are being bound may be refused although they are not bound. -/
theorem bind_refused {error : Error} {between : World Host}
    (refused : PluginServices.bind key create world = (.ok (.error error), between))
    (kind : error.kind = .alreadyBound) :
    (world.services.get key).binding = true ∧ between.services = world.services := by
  cases claims : (world.services.get key).claim with
  | none =>
      rw [PluginServices.bind_of_refused claims] at refused
      cases refused
      refine ⟨?_, rfl⟩
      simpa [PluginServices.claim] using claims
  | some claimed =>
      rcases creates : create claimed.plugin (world.setServices key claimed) with ⟨creation, made⟩
      rw [PluginServices.bind_of_claimed claims creates] at refused
      rcases creation with payload | cause | engine
      · cases refused
      · cases refused
        cases kind
      · simp only [PluginServices.afterCreation] at refused
        cases publishes : (made.services.get key).publish engine <;> rw [publishes] at refused
        · cases refused
          cases kind
        · cases refused

theorem bindPending_leaves {between : World Host}
    (binds : PluginServices.bindPending key create world = (.ok (.ok ()), between)) :
    LeftBehind key world.services between.services := by
  have reading : PluginServices.read key world = (.ok (world.services.get key), world) := rfl
  rw [PluginServices.bindPending, Program.bind_of_ok reading] at binds
  cases bound : (world.services.get key).isBound with
  | true =>
      rw [bound] at binds
      cases binds
      exact .inl bound
  | false =>
      rw [bound, if_neg Bool.false_ne_true, Program.bind_apply] at binds
      rcases binding : PluginServices.bind key create world with ⟨payload | error | _, left⟩
      · rw [binding] at binds
        cases binds
      · rw [binding] at binds
        by_cases kind : error.kind = .alreadyBound
        · simp only [kind, if_true] at binds
          cases binds
          rcases bind_refused binding kind with ⟨claimed, same⟩
          have unpublished : (world.services.get key).engine = none := by
            simpa [PluginServices.isBound] using bound
          rw [LeftBehind, same]
          exact .inr ⟨⟨claimed, unpublished⟩, rfl⟩
        · simp only [kind, if_false] at binds
          cases binds
      · rw [binding] at binds
        cases binds
        exact .inl (bind_leaves binding)

theorem bindAll_leaves (orderly : create.IsOrderly registry made)
    {keys : List (Key PluginServices)}
    (binds : Registry.bindAll create keys world = (.ok (.ok ()), later))
    (member : key ∈ keys) (within : key.index < world.services.size) :
    LeftBehind key world.services later.services := by
  induction keys generalizing world with
  | nil => cases member
  | cons first rest induction =>
      have led := (PluginServices.bindPending_isOrderly orderly first world).2
      rw [Registry.bindAll, Program.bind_apply] at binds
      rcases binding : PluginServices.bindPending first create world
        with ⟨payload | error | _, between⟩ <;> rw [binding] at binds led
      · cases binds
      · cases binds
      · have withinLater : key.index < between.services.size :=
          Nat.lt_of_lt_of_le within led.size
        rcases List.mem_cons.mp member with rfl | member
        · have ledOn := (Registry.bindAll_isOrderly orderly rest between).2
          rw [show Registry.bindAll create rest between = _ from binds] at ledOn
          exact (bindPending_leaves binding).before_orderly ledOn withinLater
        · exact (induction binds member withinLater).after_orderly led within

/-- A start that succeeds leaves behind all that was registered. -/
theorem start_leaves {factories : Factories Host} {target : Key Registry} {factory : Key Factory}
    (orderly : (factories factory).IsOrderly registry made)
    (starts : Registry.start factories target factory world = (.ok (.ok ()), later))
    (member : key ∈ world.registered target) (within : key.index < world.services.size) :
    LeftBehind key world.services later.services := by
  cases started : (world.registries.get target).isStarted with
  | true =>
      rw [Registry.start_of_started factories target factory world started] at starts
      cases starts
  | false =>
      rw [Registry.start_of_not_started factories target factory world started] at starts
      rcases binding : Registry.bindAll (factories factory) (world.registered target)
        (Registry.accepting target factory world) with ⟨payload | error | _, left⟩ <;>
        rw [binding] at starts <;> cases starts
      have leftBehind := bindAll_leaves orderly binding member within
      exact leftBehind

end PassingOver

/-! ## What lasts -/

def Lasts (before after : Table PluginServices) : Prop :=
  ∀ key engine, (before.get key).engine = some engine → (after.get key).engine = some engine

theorem Lasts.of_put {table : Table PluginServices} {key : Key PluginServices}
    {services : PluginServices}
    (lasts : ∀ engine, (table.get key).engine = some engine → services.engine = some engine) :
    Lasts table (table.put key services) := by
  intro other engine bound
  by_cases same : other = key
  · subst other
    rw [Table.get_put_same]
    exact lasts engine bound
  · rw [Table.get_put_other _ _ same]
    exact bound

theorem Lasts.of_add (table : Table PluginServices) (services : PluginServices) :
    Lasts table (table.add services) := by
  intro key engine bound
  by_cases within : key.index < table.size
  · rw [Table.get_add_other _ _ within]
    exact bound
  · -- Beyond the table there is nothing that is bound.
    rw [table.get_beyond (Nat.le_of_not_lt within)] at bound
    cases bound

def World.KeysWithin (world : World Host) (registry : Key Registry) : Prop :=
  ∀ key ∈ world.registered registry, key.index < world.services.size

structure StartNote.Holds (note : StartNote) (now : Table PluginServices) : Prop where
  leftBehind : ∀ key ∈ note.registered, LeftBehind key note.before note.after
  lasts : Lasts note.after now

structure Keeps (registry : Key Registry) (before after : World (Noted Host)) : Prop where
  lasts : Lasts before.services after.services
  within : before.KeysWithin registry → after.KeysWithin registry
  notes : before.KeysWithin registry → ∀ note ∈ after.notes,
    note ∈ before.notes ∨ (note.registry = registry → note.Holds after.services)

namespace Keeps

variable {registry : Key Registry} {before between after : World (Noted Host)}

theorem refl (world : World (Noted Host)) : Keeps registry world world where
  lasts _ _ bound := bound
  within := id
  notes _ _ member := .inl member

theorem trans (first : Keeps registry before between) (second : Keeps registry between after) :
    Keeps registry before after where
  lasts key engine bound := second.lasts key engine (first.lasts key engine bound)
  within within := second.within (first.within within)
  notes within note member := by
    rcases second.notes (first.within within) note member with earlier | holds
    · rcases first.notes within note earlier with earlier | holds
      · exact .inl earlier
      · refine .inr fun same => ⟨(holds same).leftBehind, ?_⟩
        intro key engine bound
        exact second.lasts key engine ((holds same).lasts key engine bound)
    · exact .inr holds

instance : IsPreorder (World (Noted Host)) (Keeps registry) where
  refl := refl
  trans _ _ _ := trans

theorem of_lasts (lasts : Lasts before.services after.services)
    (size : before.services.size ≤ after.services.size)
    (registered : after.registered registry = before.registered registry)
    (notes : after.notes = before.notes) : Keeps registry before after where
  lasts := lasts
  within within key member :=
    Nat.lt_of_lt_of_le (within key (registered ▸ member)) size
  notes _ _ member := .inl (notes ▸ member)

theorem of_same (services : after.services = before.services)
    (registered : after.registered registry = before.registered registry)
    (notes : after.notes = before.notes) : Keeps registry before after := by
  apply of_lasts _ _ registered notes
  · rw [services]
    exact fun _ _ bound => bound
  · exact Nat.le_of_eq (congrArg Table.size services.symm)

theorem of_setServices {key : Key PluginServices} {services : PluginServices}
    (lasts : ∀ engine, (before.services.get key).engine = some engine →
      services.engine = some engine) :
    Keeps registry before (before.setServices key services) :=
  of_lasts (.of_put lasts) (before.services.size_le_put key services) rfl rfl

end Keeps

/-! ## All that can be done keeps what was bound -/

abbrev IsKeeping (registry : Key Registry) (program : Program (Noted Host) Value) : Prop :=
  Leads (Keeps registry) (fun _ => True) program

namespace PluginServices

variable {registry : Key Registry} {create : Creation (Noted Host)}

theorem afterCreation_keeps (key : Key PluginServices) (plugin : PluginId)
    (creation : Except Payload (Except Error Engine)) (made : World (Noted Host)) :
    Keeps registry made (afterCreation key plugin creation made).2 := by
  have released : Keeps registry made
      (made.setServices key (made.services.get key).release) :=
    .of_setServices fun _ bound => bound
  rcases creation with payload | cause | engine
  · exact released
  · exact released.trans (.of_same rfl rfl rfl)
  · simp only [afterCreation]
    cases publishes : (made.services.get key).publish engine with
    | none => exact released
    | some published =>
        rcases publish_eq_some publishes with ⟨unpublished, rfl⟩
        have kept : Keeps registry made
            (made.setServices key { made.services.get key with engine := some engine }) := by
          apply Keeps.of_setServices
          intro other bound
          cases unpublished.symm.trans bound
        exact kept.trans (.of_same rfl rfl rfl)

theorem bind_keeps (keeping : ∀ plugin, IsKeeping registry (create plugin))
    (key : Key PluginServices) : IsKeeping registry (bind key create) := by
  intro world
  refine ⟨trivial, ?_⟩
  cases claims : (world.services.get key).claim with
  | none =>
      rw [bind_of_refused claims]
      exact .of_same rfl rfl rfl
  | some claimed =>
      rw [bind_of_claimed claims rfl]
      have taken : Keeps registry world (world.setServices key claimed) := by
        rcases claim_eq_some claims with ⟨_, rfl⟩
        exact .of_setServices fun _ bound => bound
      have creates := (keeping claimed.plugin (world.setServices key claimed)).2
      exact (taken.trans creates).trans (afterCreation_keeps key _ _ _)

theorem bindPending_keeps (keeping : ∀ plugin, IsKeeping registry (create plugin))
    (key : Key PluginServices) : IsKeeping registry (bindPending key create) := by
  refine .bind (.look _) fun state _ => ?_
  split
  · exact .pure trivial
  · refine .andThen (bind_keeps keeping key) (fun result _ => ?_) fun _ _ => trivial
    rcases result with error | _
    · dsimp only
      split <;> exact .pure trivial
    · exact .pure trivial

end PluginServices

namespace Registry

variable {registry : Key Registry} {factories : Factories (Noted Host)}

theorem bindAll_keeps {create : Creation (Noted Host)}
    (keeping : ∀ plugin, IsKeeping registry (create plugin)) (keys : List (Key PluginServices)) :
    IsKeeping registry (bindAll create keys) := by
  induction keys with
  | nil => exact .pure trivial
  | cons key rest induction =>
      refine .andThen (PluginServices.bindPending_keeps keeping key) (fun result _ => ?_)
        fun _ _ => trivial
      cases result with
      | error error => exact .pure trivial
      | ok => exact induction

theorem takingIn_keeps {world : World (Noted Host)} {target : Key Registry} {plugin : PluginId}
    (absent : (world.registries.get target).find? plugin = none) :
    Keeps registry world (takingIn target plugin world) where
  lasts := .of_add _ _
  within within key member := by
    rw [takingIn, Table.size_add]
    rcases (registered_takingIn absent key).mp member with ⟨_, rfl⟩ | earlier
    · exact Nat.lt_succ_self _
    · exact Nat.lt_succ_of_lt (within key earlier)
  notes _ _ member := .inl member

theorem lookUp_keeps (target : Key Registry) (plugin : PluginId) :
    IsKeeping registry
      (lookUp target plugin :
        Program (Noted Host) (Key PluginServices × Option (Key Factory))) := by
  intro world
  refine ⟨trivial, ?_⟩
  have reading : read target world = (.ok (world.registries.get target), world) := rfl
  rw [lookUp, Program.bind_of_ok reading]
  cases absent : (world.registries.get target).find? plugin with
  | some services => exact .refl world
  | none =>
      dsimp only
      rw [Program.bind_of_ok (findOrInsert_of_absent absent)]
      exact (takingIn_keeps absent).trans (.of_same rfl rfl rfl)

theorem getServices_keeps
    (keeping : ∀ factory plugin, IsKeeping registry (factories factory plugin))
    (target : Key Registry) (id : String) :
    IsKeeping registry (getServices factories target id) := by
  rw [getServices]
  cases PluginId.ofText id with
  | error error => exact .pure trivial
  | ok plugin =>
      refine .andThen (lookUp_keeps target plugin) (fun found _ => ?_) fun _ _ => trivial
      rcases found with ⟨services, _ | factory⟩
      · exact .pure trivial
      · refine .andThen (PluginServices.bindPending_keeps (keeping factory) services)
          (fun result _ => ?_) fun _ _ => trivial
        cases result <;> exact .pure trivial

theorem start_keeps {factory : Key Factory}
    (keeping : ∀ plugin, IsKeeping registry (factories factory plugin)) (target : Key Registry) :
    IsKeeping registry (start factories target factory) := by
  intro world
  refine ⟨trivial, ?_⟩
  cases started : (world.registries.get target).isStarted with
  | true =>
      rw [start_of_started factories target factory world started]
      exact .of_same rfl rfl rfl
  | false =>
      have registered : (accepting target factory world).registered registry =
          world.registered registry := by
        rw [accepting]
        exact World.registered_setRegistry (by rfl) registry
      have accepted : Keeps registry world (accepting target factory world) :=
        .of_same rfl registered rfl
      have binds := accepted.trans
        (bindAll_keeps keeping (world.registered target) (accepting target factory world)).2
      rw [start_of_not_started factories target factory world started]
      rcases running : bindAll (factories factory) (world.registered target)
        (accepting target factory world) with ⟨payload | error | _, left⟩ <;> rw [running] at binds
      · exact binds
      · exact binds.trans (.of_same rfl
          (World.registered_setRegistry (forgetFactory_services _ _) registry) rfl)
      · exact binds.trans (.of_same rfl rfl rfl)

theorem startNoted_keeps {factory : Key Factory}
    (orderly : (factories factory).IsOrderly registry fun _ => True)
    (keeping : ∀ plugin, IsKeeping registry (factories factory plugin)) (target : Key Registry) :
    IsKeeping registry (startNoted factories target factory) := by
  intro world
  refine ⟨trivial, ?_⟩
  have kept := (start_keeps keeping target world).2
  rw [startNoted_apply]
  rcases starts : start factories target factory world with ⟨payload | error | _, left⟩ <;>
    rw [starts] at kept
  · exact kept
  · exact kept
  · refine ⟨kept.lasts, kept.within, ?_⟩
    intro within note member
    rcases List.mem_append.mp member with earlier | new
    · exact kept.notes within note earlier
    · rw [List.mem_singleton.mp new]
      refine .inr fun same => ⟨?_, fun _ _ bound => bound⟩
      intro key registered
      have inside : key.index < world.services.size := by
        apply within key
        rw [← same]
        exact registered
      exact start_leaves orderly starts registered inside

end Registry

section Conducting

variable {registry : Key Registry} {factories : Factories (Noted Host)}

theorem IsKeeping.attempted {program : Program (Noted Host) Value}
    (keeping : IsKeeping registry program) :
    Leads (Keeps registry) Returns (attempt program) := by
  intro world
  rw [Program.attempt_apply]
  exact ⟨trivial, (keeping world).2⟩

theorem Aside.keeps (step : Aside Host) :
    IsKeeping registry (Program.besideNotes step.program : Program (Noted Host) Unit) := by
  intro world
  refine ⟨trivial, .of_same (step.leavesServices world.plain) ?_ rfl⟩
  exact congrArg (fun registries : Table Registry => (registries.get registry).services.values)
    (step.leavesRegistries world.plain)

theorem Conduct.run_keeps
    (orderly : ∀ factory, (factories factory).IsOrderly registry fun _ => True)
    (keeping : ∀ factory plugin, IsKeeping registry (factories factory plugin))
    (conduct : Conduct Host Value) : IsKeeping registry (conduct.run factories) := by
  induction conduct with
  | ends ending => exact fun world => ⟨trivial, .refl world⟩
  | aside step rest induction =>
      apply Leads.bind step.keeps.attempted
      intro _ _
      exact .bind (.look id) fun world _ => induction world.plain.host
  | binds services factory rest induction =>
      have binding := PluginServices.bind_keeps (keeping factory) services
      exact .bind binding.attempted fun ending _ => induction ending
  | gets target id rest induction =>
      have getting := Registry.getServices_keeps keeping target id
      exact .bind getting.attempted fun ending _ => induction ending
  | starts target factory rest induction =>
      have starting := Registry.startNoted_keeps (orderly factory) (keeping factory) target
      exact .bind starting.attempted fun ending _ => induction ending

theorem Makers.keeps (makers : Makers Host) (depth : Nat) (factory : Key Factory)
    (plugin : PluginId) : IsKeeping registry (makers.factories depth factory plugin) := by
  induction depth generalizing factory plugin with
  | zero => exact fun world => ⟨trivial, .refl world⟩
  | succ depth induction =>
      exact (makers factory plugin).run_keeps (makers.isOrderly depth) induction

end Conducting

/-! ## Main statement -/

end Instrumentation
