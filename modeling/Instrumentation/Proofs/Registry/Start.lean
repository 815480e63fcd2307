import Instrumentation.Proofs.Registry.Orderly

namespace Instrumentation

/-! Starts that do not succeed. A start that fails with an error is taken back, and the
next one binds what is left to bind. A start that is unwound through is not taken back:
the registry stays started with a factory whose start never came to its end, and no
other start is accepted. -/

variable {Host : Type}

/-! ## What a start comes to -/

namespace World

def setRegistry (world : World Host) (key : Key Registry) (state : Registry) : World Host :=
  { world with registries := world.registries.put key state }

@[simp] theorem get_setRegistry (world : World Host) (key : Key Registry) (state : Registry) :
    (world.setRegistry key state).registries.get key = state :=
  world.registries.get_put_same key state

theorem get_setRegistry_other (world : World Host) {key other : Key Registry} (state : Registry)
    (different : other ≠ key) :
    (world.setRegistry key state).registries.get other = world.registries.get other :=
  world.registries.get_put_other state different

theorem registered_setRegistry {world : World Host} {key : Key Registry} {state : Registry}
    (services : state.services = (world.registries.get key).services)
    (registry : Key Registry) :
    (world.setRegistry key state).registered registry = world.registered registry := by
  by_cases same : registry = key
  · rw [same, registered, registered, get_setRegistry, services]
  · rw [registered, registered, get_setRegistry_other _ _ same]

end World

namespace Registry

variable (factories : Factories Host) (registry : Key Registry) (factory : Key Factory)
  (world : World Host)

theorem start_of_started (started : (world.registries.get registry).isStarted) :
    start factories registry factory world =
      (.ok (.error (.ofKind .alreadyBound)), world.telling .startedAgain) := by
  have reading : read registry world = (.ok (world.registries.get registry), world) := rfl
  rw [start, Program.bind_of_ok reading, recordFactory, started]
  rfl

def accepting : World Host :=
  world.setRegistry registry
    { world.registries.get registry with factory := some factory }

def afterBinds (pending : Nat) :
    Except Payload (Except Error Unit) × World Host →
      Except Payload (Except Error Unit) × World Host
  | (.error payload, later) => (.error payload, later)
  | (.ok (.error error), later) =>
      (.ok (.error error),
        later.setRegistry registry ((later.registries.get registry).forgetFactory factory))
  | (.ok (.ok ()), later) => (.ok (.ok ()), later.telling (.started pending))

theorem start_of_not_started (notStarted : (world.registries.get registry).isStarted = false) :
    start factories registry factory world =
      afterBinds registry factory (world.registered registry).length
        (bindAll (factories factory) (world.registered registry)
          (accepting registry factory world)) := by
  have reading : read registry world = (.ok (world.registries.get registry), world) := rfl
  have writing : write registry { world.registries.get registry with factory := some factory }
      world = (.ok (), accepting registry factory world) := rfl
  rw [start, Program.bind_of_ok reading, recordFactory, notStarted]
  simp only [Bool.false_eq_true, if_false]
  rw [Program.bind_of_ok writing, Program.bind_apply, World.registered]
  rcases bindAll (factories factory) (world.registries.get registry).services.values
    (accepting registry factory world) with ⟨payload | error | _, later⟩ <;> rfl

end Registry

/-! ## Starting is orderly -/

namespace Registry

variable {factories : Factories Host} {registry target : Key Registry}
  {factory : Key Factory} {made : Engine → Prop} {world left : World Host}

theorem setRegistry_orderly (orderly : Orderly registry made world left)
    (notStarted : (world.registries.get target).isStarted = false) {state : Registry}
    (services : state.services = (left.registries.get target).services) :
    Orderly registry made world (left.setRegistry target state) := by
  refine orderly.andKept rfl (World.registered_setRegistry services registry) ?_
  intro earlier recorded
  -- A start that was there at first is one of another registry.
  by_cases same : registry = target
  · rw [isStarted, ← same, recorded] at notStarted
    cases notStarted
  · rw [World.get_setRegistry_other _ _ same]
    exact orderly.started earlier recorded

theorem accepting_orderly (factory : Key Factory)
    (notStarted : (world.registries.get target).isStarted = false) :
    Orderly registry made world (accepting target factory world) :=
  setRegistry_orderly (.refl world) notStarted rfl

theorem start_isOrderly (orderly : (factories factory).IsOrderly registry made)
    (target : Key Registry) : IsOrderly registry made (start factories target factory) := by
  intro world
  refine ⟨trivial, ?_⟩
  cases started : (world.registries.get target).isStarted with
  | true =>
      rw [start_of_started factories target factory world started]
      exact .of_same rfl rfl
  | false =>
      have led := (accepting_orderly factory started).trans
        (bindAll_isOrderly orderly (world.registered target) (accepting target factory world)).2
      rw [start_of_not_started factories target factory world started]
      rcases running : bindAll (factories factory) (world.registered target)
        (accepting target factory world) with ⟨payload | error | _, left⟩ <;> rw [running] at led
      · exact led
      · exact setRegistry_orderly led started (forgetFactory_services _ _)
      · exact led.trans (.of_same rfl rfl)

end Registry

/-! ## Starts that succeed -/

def Creation.Product (create : Creation Host) (engine : Engine) : Prop :=
  ∃ plugin world later, create plugin world = (.ok (.ok engine), later)

def Creation.AlwaysMakes (create : Creation Host) (registry : Key Registry) : Prop :=
  ∀ plugin, Leads (Orderly registry create.Product)
    (Gives fun result => ∃ engine, result = .ok engine) (create plugin)

def World.Idle (world : World Host) (key : Key PluginServices) : Prop :=
  key.index < world.services.size ∧ (world.services.get key).IsSettled

section Progress

variable {registry : Key Registry} {made : Engine → Prop} {create : Creation Host}
  {world later : World Host} {key : Key PluginServices}

theorem Creation.AlwaysMakes.isOrderly (always : create.AlwaysMakes registry) :
    create.IsOrderly registry create.Product := by
  intro plugin world
  refine ⟨?_, (always plugin world).2⟩
  intro engine makes
  exact ⟨plugin, world, (create plugin world).2, Prod.ext makes rfl⟩

theorem Orderly.idle (orderly : Orderly registry made world later) (idle : world.Idle key) :
    later.Idle key :=
  ⟨Nat.lt_of_lt_of_le idle.1 orderly.size,
    (orderly.settles key idle.1).isSettled idle.2⟩

theorem Orderly.registered_idle (orderly : Orderly registry made world later)
    (member : key ∈ later.registered registry)
    (idle : key ∈ world.registered registry → world.Idle key) : later.Idle key := by
  rcases orderly.fresh key member with earlier | ⟨_, within, settled⟩
  · exact orderly.idle (idle earlier)
  · exact ⟨within, settled⟩

theorem Orderly.isBound (orderly : Orderly registry made world later) (idle : world.Idle key)
    (bound : (world.services.get key).isBound) : (later.services.get key).isBound := by
  rw [(orderly.settles key idle.1).eq_of_claimed (idle.2.trans bound)]
  exact bound

theorem bind_binds (always : create.AlwaysMakes registry)
    (unclaimed : (world.services.get key).binding = false)
    (unbound : (world.services.get key).engine = none) :
    ∃ later, PluginServices.bind key create world = (.ok (.ok ()), later) ∧
      (later.services.get key).isBound := by
  let claimed : PluginServices := { world.services.get key with binding := true }
  have claims : (world.services.get key).claim = some claimed := by
    rw [PluginServices.claim, unclaimed]
    rfl
  rcases (always claimed.plugin).returned (world.setServices key claimed)
    with ⟨result, left, creates, ⟨engine, rfl⟩, orderly⟩
  have held : left.services.get key = claimed := by
    have settles := orderly.settles key (world.services.lt_size_put key claimed)
    rw [World.get_setServices] at settles
    exact settles.eq_of_claimed rfl
  have publishes : (left.services.get key).publish engine =
      some { claimed with engine := some engine } := by
    rw [held, PluginServices.publish, show claimed.engine = none from unbound]
  refine ⟨(left.setServices key { claimed with engine := some engine }).telling
    (.bound claimed.plugin), ?_, ?_⟩
  · rw [PluginServices.bind_of_claimed claims creates]
    simp only [PluginServices.afterCreation, publishes]
  · exact congrArg PluginServices.isBound (World.get_setServices left key _)

/-- Services that are being bound elsewhere are left to that bind. -/
theorem bindPending_binds (always : create.AlwaysMakes registry) (key : Key PluginServices)
    (world : World Host) :
    ∃ later, PluginServices.bindPending key create world = (.ok (.ok ()), later) ∧
      (world.Idle key → (later.services.get key).isBound) := by
  have reading : PluginServices.read key world = (.ok (world.services.get key), world) := rfl
  rw [PluginServices.bindPending, Program.bind_of_ok reading]
  cases bound : (world.services.get key).isBound with
  | true => exact ⟨world, rfl, fun _ => bound⟩
  | false =>
      simp only [Bool.false_eq_true, if_false]
      cases claimed : (world.services.get key).binding with
      | true =>
          have refused : (world.services.get key).claim = none := by
            rw [PluginServices.claim, claimed, if_pos rfl]
          rw [Program.bind_of_ok (PluginServices.bind_of_refused refused)]
          refine ⟨_, rfl, ?_⟩
          intro idle
          cases claimed.symm.trans (idle.2.trans bound)
      | false =>
          have unbound : (world.services.get key).engine = none := by
            simpa [PluginServices.isBound] using bound
          rcases bind_binds always claimed unbound with ⟨later, binds, done⟩
          rw [Program.bind_of_ok binds]
          exact ⟨later, rfl, fun _ => done⟩

theorem bindAll_binds (always : create.AlwaysMakes registry) (keys : List (Key PluginServices))
    (world : World Host) :
    ∃ later, Registry.bindAll create keys world = (.ok (.ok ()), later) ∧
      ∀ key ∈ keys, world.Idle key → (later.services.get key).isBound := by
  induction keys generalizing world with
  | nil => exact ⟨world, rfl, nofun⟩
  | cons first rest induction =>
      rcases bindPending_binds always first world with ⟨between, binds, done⟩
      have led := (PluginServices.bindPending_isOrderly always.isOrderly first world).2
      rw [binds] at led
      -- What was idle before the first bind is so after it, and what is bound stays bound.
      rcases induction between with ⟨later, restBinds, restDone⟩
      have ledOn := (Registry.bindAll_isOrderly always.isOrderly rest between).2
      rw [restBinds] at ledOn
      refine ⟨later, ?_, ?_⟩
      · rw [Registry.bindAll, Program.bind_of_ok binds]
        exact restBinds
      · intro key member idle
        rcases List.mem_cons.mp member with rfl | member
        · exact ledOn.isBound (led.idle idle) (done idle)
        · exact restDone key member (led.idle idle)

end Progress

/-! ## Starts that do not succeed -/

namespace Registry

variable {factories : Factories Host} {registry : Key Registry} {factory other : Key Factory}
  {world : World Host}

theorem start_binds (always : (factories other).AlwaysMakes registry)
    (notStarted : (world.registries.get registry).isStarted = false) :
    ∃ later, start factories registry other world = (.ok (.ok ()), later) ∧
      ∀ key ∈ world.registered registry, world.Idle key →
        Settles (factories other).Product (world.services.get key) (later.services.get key) ∧
          (later.services.get key).isBound := by
  rcases bindAll_binds always (world.registered registry)
    (accepting registry other world) with ⟨later, binds, done⟩
  have led := (bindAll_isOrderly always.isOrderly (world.registered registry)
    (accepting registry other world)).2
  rw [binds] at led
  refine ⟨later.telling (.started (world.registered registry).length), ?_, ?_⟩
  · rw [start_of_not_started factories registry other world notStarted, binds]
    rfl
  · intro key member idle
    exact ⟨led.settles key idle.1, done key member idle⟩

section Failing

variable {made : Engine → Prop} {failed : World Host}

theorem bindAll_started (orderly : (factories factory).IsOrderly registry made)
    (keys : List (Key PluginServices)) (world : World Host) :
    ((bindAll (factories factory) keys (accepting registry factory world)).2.registries.get
      registry).factory = some factory := by
  refine (bindAll_isOrderly orderly keys _).2.started factory ?_
  rw [accepting, World.get_setRegistry]

theorem start_failed (orderly : (factories factory).IsOrderly registry made)
    (notStarted : (world.registries.get registry).isStarted = false) {error : Error}
    (fails : start factories registry factory world = (.ok (.error error), failed)) :
    (failed.registries.get registry).isStarted = false := by
  have started := bindAll_started orderly (world.registered registry) world
  rw [start_of_not_started factories registry factory world notStarted] at fails
  rcases running : bindAll (factories factory) (world.registered registry)
    (accepting registry factory world) with ⟨payload | cause | _, left⟩
  · rw [running] at fails
    cases fails
  · rw [running] at fails started
    cases fails
    rw [World.get_setRegistry, forgetFactory, started, if_pos rfl]
    rfl
  · rw [running] at fails
    cases fails

theorem start_unwound (orderly : (factories factory).IsOrderly registry made)
    (notStarted : (world.registries.get registry).isStarted = false) {payload : Payload}
    (unwinds : start factories registry factory world = (.error payload, failed)) :
    (failed.registries.get registry).isStarted = true := by
  have started := bindAll_started orderly (world.registered registry) world
  rw [start_of_not_started factories registry factory world notStarted] at unwinds
  rcases running : bindAll (factories factory) (world.registered registry)
    (accepting registry factory world) with ⟨panic | cause | _, left⟩
  · rw [running] at unwinds started
    cases unwinds
    rw [isStarted, started]
    rfl
  · rw [running] at unwinds
    cases unwinds
  · rw [running] at unwinds
    cases unwinds

end Failing

end Registry

/-! ## Main statement -/

/-- A start that does not succeed leaves a registry that can be started if it returned
an error, and one that cannot if it was unwound through. -/
theorem failed_start_is_retried_unless_unwound (factories : Factories Host)
    {registry : Key Registry} {factory other : Key Factory} {world : World Host}
    (notStarted : (world.registries.get registry).isStarted = false)
    (orderly : (factories factory).IsOrderly registry fun _ => True)
    (always : (factories other).AlwaysMakes registry) :
    (∀ error failed,
      Registry.start factories registry factory world = (.ok (.error error), failed) →
      (failed.registries.get registry).isStarted = false ∧
      ∃ later, Registry.start factories registry other failed = (.ok (.ok ()), later) ∧
        ∀ key ∈ failed.registered registry,
          (key ∈ world.registered registry → world.Idle key) →
          Settles (factories other).Product (failed.services.get key)
              (later.services.get key) ∧
            (later.services.get key).isBound) ∧
    ∀ payload failed,
      Registry.start factories registry factory world = (.error payload, failed) →
      (failed.registries.get registry).isStarted ∧
      ∃ later, Registry.start factories registry other failed =
          (.ok (.error (.ofKind .alreadyBound)), later) ∧
        later.services = failed.services := by
  refine ⟨?_, ?_⟩
  · intro error failed fails
    have takenBack := Registry.start_failed orderly notStarted fails
    have led := (Registry.start_isOrderly orderly registry world).2
    rw [fails] at led
    rcases Registry.start_binds always takenBack with ⟨later, starts, binds⟩
    refine ⟨takenBack, later, starts, ?_⟩
    intro key member idle
    exact binds key member (led.registered_idle member idle)
  · intro payload failed unwinds
    have started := Registry.start_unwound orderly notStarted unwinds
    exact ⟨started, _, Registry.start_of_started factories registry other failed started, rfl⟩

def waitingWorld : World Unit :=
  let services : Dict (Key PluginServices) := Dict.empty.insert "jdbc" ⟨0⟩
  { services := ⟨[{ plugin := default, clock := ⟨0⟩ }]⟩
    registries := ⟨[{ clock := ⟨0⟩, services }]⟩, host := () }

def threeFactories : Factories Unit
  | ⟨0⟩, _ => return .ok (.recorder ⟨0⟩)
  | ⟨1⟩, _ => return .error (.new .internal "storage down")
  | _, _ => throw (.text "boom")

theorem idle_waitingWorld : ∀ key ∈ waitingWorld.registered ⟨0⟩, waitingWorld.Idle key := by
  intro key member
  rw [List.mem_singleton.mp member]
  exact ⟨Nat.zero_lt_one, rfl⟩

theorem alwaysMakes_threeFactories : (threeFactories ⟨0⟩).AlwaysMakes ⟨0⟩ :=
  fun _ => .pure ⟨_, rfl⟩

/-- A start that fails is followed by one that binds the instance. -/
theorem failed_start_is_retried :
    ∃ error failed later,
      Registry.start threeFactories ⟨0⟩ ⟨1⟩ waitingWorld = (.ok (.error error), failed) ∧
      (failed.registries.get ⟨0⟩).isStarted = false ∧
      Registry.start threeFactories ⟨0⟩ ⟨0⟩ failed = (.ok (.ok ()), later) ∧
      (later.services.get ⟨0⟩).isBound := by
  have orderly : (threeFactories ⟨1⟩).IsOrderly ⟨0⟩ fun _ => True :=
    fun _ => .pure fun _ _ => trivial
  have notStarted : (waitingWorld.registries.get ⟨0⟩).isStarted = false := rfl
  have ⟨retried, _⟩ := failed_start_is_retried_unless_unwound threeFactories notStarted orderly
    alwaysMakes_threeFactories
  rcases retried _ _ rfl with ⟨takenBack, later, starts, binds⟩
  exact ⟨_, _, later, rfl, takenBack, starts, (binds ⟨0⟩ (.head _) (idle_waitingWorld ⟨0⟩)).2⟩

/-- A start that is unwound through leaves the registry started and the instance unbound,
and the next start is refused. -/
theorem unwound_start_is_not_taken_back :
    ∃ failed later,
      Registry.start threeFactories ⟨0⟩ ⟨2⟩ waitingWorld = (.error (.text "boom"), failed) ∧
      (failed.registries.get ⟨0⟩).isStarted = true ∧
      Registry.start threeFactories ⟨0⟩ ⟨0⟩ failed =
        (.ok (.error (.ofKind .alreadyBound)), later) ∧
      (later.services.get ⟨0⟩).isBound = false :=
  ⟨_, _, rfl, rfl, rfl, rfl⟩

end Instrumentation
