import Instrumentation.Proofs.Registry.Hearing

namespace Instrumentation

/-! Starts are rounds. A start goes through the instances in the order of their ids, asks its
factory for an engine where there is none, and stops when it is refused one. -/

variable {Host : Type}

/-! ## Rounds -/

namespace World

def unboundOf (world : World Host) (keys : List (Key PluginServices)) : List PluginId :=
  (keys.filter fun key => !(world.services.get key).isBound).map fun key =>
    (world.services.get key).plugin

def unboundIds (world : World Host) (registry : Key Registry) : List PluginId :=
  world.unboundOf (world.registered registry)

end World

def FactoryCall.IsMadeBy (call : FactoryCall) (factory : Key Factory) : Prop :=
  call.factory = factory ∧ ∃ engine, call.answer = .ok engine

/-- The factory is asked for one plugin after another, up to the first refusal. -/
inductive Round (factory : Key Factory) :
    List PluginId → List FactoryCall → Except Error Unit → Prop
  | finished : Round factory [] [] (.ok ())
  | made {plugins : List PluginId} {calls : List FactoryCall} {result : Except Error Unit}
      (plugin : PluginId) (engine : Engine) (rest : Round factory plugins calls result) :
      Round factory (plugin :: plugins) (⟨factory, plugin, .ok engine⟩ :: calls) result
  | refused (plugin : PluginId) (cause : Error) (plugins : List PluginId) :
      Round factory (plugin :: plugins) [⟨factory, plugin, .error cause⟩]
        (.error (PluginServices.constructionError plugin cause))

namespace Round

variable {factory : Key Factory} {plugins : List PluginId} {calls : List FactoryCall}
  {result : Except Error Unit}

theorem asked (round : Round factory plugins calls result) :
    ∀ call ∈ calls, call.plugin ∈ plugins := by
  induction round with
  | finished => exact nofun
  | made plugin engine _ induction =>
      refine List.forall_mem_cons.2 ⟨.head _, fun call member => ?_⟩
      exact .tail _ (induction call member)
  | refused => exact List.forall_mem_singleton.2 (.head _)

theorem all_made (round : Round factory plugins calls (.ok ())) :
    calls.map (·.plugin) = plugins ∧ ∀ call ∈ calls, call.IsMadeBy factory := by
  generalize ended : (.ok () : Except Error Unit) = result at round
  induction round with
  | finished => exact ⟨rfl, nofun⟩
  | made plugin engine _ induction =>
      rcases induction ended with ⟨plugins, all⟩
      exact ⟨congrArg (plugin :: ·) plugins,
        List.forall_mem_cons.2 ⟨⟨rfl, engine, rfl⟩, all⟩⟩
  | refused => cases ended

theorem stopped {error : Error} (round : Round factory plugins calls (.error error)) :
    ∃ earlier plugin cause behind,
      plugins = earlier.map (·.plugin) ++ plugin :: behind ∧
      calls = earlier ++ [⟨factory, plugin, .error cause⟩] ∧
      error = PluginServices.constructionError plugin cause ∧
      ∀ call ∈ earlier, call.IsMadeBy factory := by
  generalize ended : (.error error : Except Error Unit) = result at round
  induction round with
  | finished => cases ended
  | made plugin engine _ induction =>
      rcases induction ended with ⟨earlier, last, cause, behind, rfl, rfl, is, all⟩
      exact ⟨⟨factory, plugin, .ok engine⟩ :: earlier, last, cause, behind, rfl, rfl, is,
        List.forall_mem_cons.2 ⟨⟨rfl, engine, rfl⟩, all⟩⟩
  | refused plugin cause behind =>
      cases ended
      exact ⟨[], plugin, cause, behind, rfl, rfl, rfl, nofun⟩

end Round

/-! ## Starts are rounds -/

theorem Heard.unboundOf_of_unasked {registry : Key Registry} {calls : List FactoryCall}
    {before after : World Host} (heard : Heard registry calls before after)
    {keys : List (Key PluginServices)}
    (registered : ∀ key ∈ keys, key ∈ before.registered registry)
    (unasked : ∀ key ∈ keys, ∀ call ∈ calls, call.plugin ≠ (before.services.get key).plugin) :
    after.unboundOf keys = before.unboundOf keys := by
  have same : ∀ key ∈ keys, after.services.get key = before.services.get key := by
    intro key member
    refine (heard.hears key (registered key member)).same_of_refused fun call called asked => ?_
    exact absurd asked (unasked key member call called)
  rw [World.unboundOf, World.unboundOf]
  rw [List.filter_congr fun key member => by rw [same key member]]
  refine List.map_congr_left fun key member => ?_
  rw [same key ((List.mem_filter.1 member).1)]

namespace Registry

variable {factories : Factories Host} {factory : Key Factory} {registry : Key Registry}

theorem bindAll_asks (out : (factories factory).StaysOut registry)
    (keys : List (Key PluginServices)) (distinct : keys.Nodup) {world : World Host}
    (rests : world.Rests registry) (registered : ∀ key ∈ keys, key ∈ world.registered registry) :
    ∃ calls result later,
      Asks (bindAll (factories factory) keys) (bindAll (factories.noting factory) keys)
        world calls result later ∧
      Heard registry calls world later ∧
      later.registries.get registry = world.registries.get registry ∧
      Round factory (world.unboundOf keys) calls result := by
  induction keys generalizing world with
  | nil =>
      exact ⟨[], .ok (), world, .of_silent rfl fun _ => rfl, .of_silent (Nat.le_refl _) rfl rfl,
        rfl, .finished⟩
  | cons key rest induction =>
      rw [bindAll, bindAll]
      rcases List.nodup_cons.1 distinct with ⟨absent, distinct⟩
      rcases List.forall_mem_cons.1 registered with ⟨member, registered⟩
      cases bound : (world.services.get key).isBound with
      | true =>
          have passes : Asks (PluginServices.bindPending key (factories factory))
              (PluginServices.bindPending key (factories.noting factory)) world [] (.ok ()) world :=
            .of_silent (Callers.bindPending_of_bound bound) fun _ =>
              Callers.bindPending_of_bound bound
          rcases induction distinct rests registered
            with ⟨calls, result, later, asks, heard, same, round⟩
          have unbound : world.unboundOf (key :: rest) = world.unboundOf rest := by
            rw [World.unboundOf, List.filter_cons_of_neg (by simp [bound])]
            rfl
          exact ⟨calls, result, later, passes.bind asks, heard, same, unbound ▸ round⟩
      | false =>
          rcases PluginServices.bindPending_asks out rests member bound
            with ⟨answer, between, asks, heard, same⟩
          have unbound : world.unboundOf (key :: rest) =
              (world.services.get key).plugin :: world.unboundOf rest := by
            rw [World.unboundOf, List.filter_cons_of_pos (by simp [bound])]
            rfl
          cases answer with
          | error cause =>
              exact ⟨_, _, between, asks.bind (.of_silent rfl fun _ => rfl), heard, same,
                unbound ▸ .refused _ cause _⟩
          | ok engine =>
              have others : between.unboundOf rest = world.unboundOf rest :=
                heard.unboundOf_of_unasked registered fun other later => by
                  refine List.forall_mem_singleton.2 fun asked => absent ?_
                  rwa [rests.eq_of_plugin member (registered other later) asked]
              rcases induction distinct (heard.rests rests)
                (heard.same_registered ▸ registered)
                with ⟨calls, result, later, asksOn, heardOn, sameOn, round⟩
              rw [others] at round
              exact ⟨_ :: calls, result, later, asks.bind asksOn, heard.trans heardOn,
                sameOn.trans same, unbound ▸ round.made _ engine⟩

/-- Recording a factory, binding what is unbound, and taking the record back on a refusal. -/
theorem start_asks (out : (factories factory).StaysOut registry) {world : World Host}
    (rests : world.Rests registry)
    (notStarted : (world.registries.get registry).isStarted = false) :
    ∃ calls result later,
      Asks (start factories registry factory) (start factories.noting registry factory)
        world calls result later ∧
      Heard registry calls world later ∧
      later.registries.get registry =
        (match result with
        | .error _ => world.registries.get registry
        | .ok () => { world.registries.get registry with factory := some factory }) ∧
      Round factory (world.unboundIds registry) calls result := by
  have accepted : Heard registry [] world (accepting registry factory world) :=
    .of_setRegistry rfl
  have unstarted : (world.registries.get registry).factory = none := by
    simpa [isStarted] using notStarted
  have recorded : (accepting registry factory world).registries.get registry =
      { world.registries.get registry with factory := some factory } :=
    World.get_setRegistry world registry _
  have distinct : (world.registered registry).Nodup := by
    refine rests.increasing.imp fun less same => ?_
    rw [same] at less
    exact String.lt_irrefl _ less
  rcases bindAll_asks out (world.registered registry) distinct
    (accepted.rests rests) (accepted.same_registered ▸ fun _ => id)
    with ⟨calls, result, left, asks, heard, same, round⟩
  have heard : Heard registry calls world left := accepted.trans heard
  have starts := start_of_not_started factories registry factory world notStarted
  have noted (earlier : List FactoryCall) :
      start factories.noting registry factory (world.noting earlier) =
        afterBinds registry factory (world.registered registry).length
          (.ok result, left.noting (earlier ++ calls)) := by
    rw [start_of_not_started factories.noting registry factory (world.noting earlier) notStarted,
      ← asks.notes]
    rfl
  rw [asks.returns] at starts
  rw [recorded] at same
  cases result with
  | error error =>
      have takenBack : (left.registries.get registry).forgetFactory factory =
          world.registries.get registry := by
        rw [same, forgetFactory, if_pos rfl, ← unstarted]
      refine ⟨calls, .error error, _, ⟨starts, noted⟩, ?_, ?_, round⟩
      · rw [← List.append_nil calls]
        exact heard.trans (.of_setRegistry (forgetFactory_services _ _))
      · rw [World.get_setRegistry, takenBack]
  | ok =>
      refine ⟨calls, .ok (), _, ⟨starts, noted⟩, ?_, same, round⟩
      rw [← List.append_nil calls]
      exact heard.trans (.of_silent (Nat.le_refl _) rfl rfl)

end Registry

end Instrumentation
