import Instrumentation.Proofs.Registry.Rounds
import Instrumentation.Proofs.Text.ByteOrder

namespace Instrumentation

/-! What starts do, exactly. A start binds instances in the order of their ids, to the engines
that were made for them, until its factory refuses one. What it has bound by then stays bound,
and the next start goes on from there. -/

variable {Host : Type}

/-! ## Engines of plugins -/

namespace World

def HasEngine (world : World Host) (registry : Key Registry) (plugin : PluginId)
    (engine : Engine) : Prop :=
  ∃ key, (world.registries.get registry).find? plugin = some key ∧
    (world.services.get key).engine = some engine

def HasMade (world : World Host) (registry : Key Registry) (factory : Key Factory)
    (calls : List FactoryCall) : Prop :=
  ∀ call ∈ calls, call.factory = factory ∧
    ∃ engine, call.answer = .ok engine ∧ world.HasEngine registry call.plugin engine

def IsAskedFor (world : World Host) (registry : Key Registry) (calls : List FactoryCall) :
    Prop :=
  ∀ call ∈ calls, ∃ key ∈ world.registered registry,
    call.plugin = (world.services.get key).plugin

def CanBeBound (world : World Host) (registry : Key Registry) (key : Key PluginServices) :
    Prop :=
  ∀ create : Creation Host, create.AlwaysMakes registry →
    ∃ later, PluginServices.bind key create world = (.ok (.ok ()), later) ∧
      (later.services.get key).isBound

end World

section Unbound

variable {registry : Key Registry} {calls : List FactoryCall} {world before after : World Host}
  {plugin : PluginId}

theorem World.Rests.mem_unboundIds_iff (rests : world.Rests registry) :
    plugin ∈ world.unboundIds registry ↔
      ∃ key, (world.registries.get registry).find? plugin = some key ∧
        (world.services.get key).isBound = false := by
  simp only [World.unboundIds, World.unboundOf, List.mem_map, List.mem_filter,
    Bool.not_eq_true', rests.find?_eq_some_iff]
  constructor
  · rintro ⟨key, ⟨member, unbound⟩, own⟩
    exact ⟨key, ⟨member, own⟩, unbound⟩
  · rintro ⟨key, ⟨member, own⟩, unbound⟩
    exact ⟨key, ⟨member, unbound⟩, own⟩

theorem World.Rests.increasing_unboundIds (rests : world.Rests registry) :
    (world.unboundIds registry).Pairwise fun left right => left.text < right.text := by
  rw [World.unboundIds, World.unboundOf, List.pairwise_map]
  exact rests.increasing.filter _

theorem World.Rests.nodup_unboundIds (rests : world.Rests registry) :
    (world.unboundIds registry).Nodup := by
  refine rests.increasing_unboundIds.imp fun less same => ?_
  rw [same] at less
  exact String.lt_irrefl _ less

theorem World.Rests.mem_earlier (rests : world.Rests registry) {earlier behind : List PluginId}
    (same : world.unboundIds registry = earlier ++ plugin :: behind) {other : PluginId}
    (member : other ∈ world.unboundIds registry) (less : other.text < plugin.text) :
    other ∈ earlier := by
  have increasing := rests.increasing_unboundIds
  rw [same] at member increasing
  have behindLast := (List.pairwise_cons.1 (List.pairwise_append.1 increasing).2.1).1
  rcases List.mem_append.1 member with earlier | later
  · exact earlier
  · rcases List.mem_cons.1 later with rfl | later
    · exact absurd less (String.lt_irrefl _)
    · exact absurd less (String.lt_asymm (behindLast other later))

theorem World.Rests.canBeBound (rests : world.Rests registry) {key : Key PluginServices}
    (member : key ∈ world.registered registry)
    (unbound : (world.services.get key).isBound = false) : world.CanBeBound registry key := by
  intro create always
  refine bind_binds always ((rests.idle key member).2.trans unbound) ?_
  simpa [PluginServices.isBound] using unbound

theorem Heard.same_find? (heard : Heard registry calls before after) (plugin : PluginId) :
    (after.registries.get registry).find? plugin =
      (before.registries.get registry).find? plugin := by
  rw [Registry.find?, Registry.find?, heard.registered]

theorem Heard.hasEngine (heard : Heard registry calls before after) {engine : Engine}
    (has : before.HasEngine registry plugin engine) : after.HasEngine registry plugin engine := by
  rcases has with ⟨key, found, is⟩
  have member : key ∈ before.registered registry := Dict.mem_values_of_find? found
  have bound : (before.services.get key).isBound = true := by rw [PluginServices.isBound, is]; rfl
  refine ⟨key, (heard.same_find? plugin).trans found, ?_⟩
  rw [(heard.hears key member).same_of_bound bound, is]

theorem World.HasEngine.isBound {engine : Engine} (has : world.HasEngine registry plugin engine)
    {key : Key PluginServices}
    (found : (world.registries.get registry).find? plugin = some key) :
    (world.services.get key).isBound = true := by
  rcases has with ⟨other, finds, is⟩
  cases found.symm.trans finds
  rw [PluginServices.isBound, is]
  rfl

theorem Heard.hasEngine_of_made (heard : Heard registry calls before after)
    (rests : before.Rests registry) (asked : plugin ∈ before.unboundIds registry)
    {factory : Key Factory} {engine : Engine} (member : ⟨factory, plugin, .ok engine⟩ ∈ calls) :
    after.HasEngine registry plugin engine := by
  rcases rests.mem_unboundIds_iff.1 asked with ⟨key, found, -⟩
  rcases rests.find?_eq_some_iff.1 found with ⟨registered, rfl⟩
  exact ⟨key, (heard.same_find? _).trans found, (heard.hears key registered).bound_of_made member⟩

end Unbound

/-! ## What starts leave -/

structure StartedWith (registry : Key Registry) (factory : Key Factory)
    (calls : List FactoryCall) (before after : World Host) : Prop where
  asked : calls.map (·.plugin) = before.unboundIds registry
  made : after.HasMade registry factory calls
  kept : ∀ plugin engine, before.HasEngine registry plugin engine →
    after.HasEngine registry plugin engine
  bound : ∀ key ∈ after.registered registry, (after.services.get key).isBound
  registry : after.registries.get registry =
    { before.registries.get registry with factory := some factory }

/-- What there is after a start that made the earlier calls, was refused an engine for the
plugin and left that one and those behind it as they were. -/
structure StoppedAt (registry : Key Registry) (factory : Key Factory) (plugin : PluginId)
    (earlier : List FactoryCall) (behind : List PluginId) (before after : World Host) :
    Prop where
  asked : before.unboundIds registry = earlier.map (·.plugin) ++ plugin :: behind
  made : after.HasMade registry factory earlier
  kept : ∀ plugin engine, before.HasEngine registry plugin engine →
    after.HasEngine registry plugin engine
  bound : ∀ other key, (after.registries.get registry).find? other = some key →
    Text.utf8Bytes other.text < Text.utf8Bytes plugin.text → (after.services.get key).isBound
  left : ∀ other ∈ plugin :: behind, ∃ key,
    (after.registries.get registry).find? other = some key ∧
      after.services.get key = before.services.get key ∧
      (after.services.get key).isBound = false ∧ after.CanBeBound registry key
  registry : after.registries.get registry = before.registries.get registry

structure BoundOnce (registry : Key Registry) (factory : Key Factory)
    (calls : List FactoryCall) (before after : World Host) : Prop where
  asked : ∀ call ∈ calls, call.plugin ∈ before.unboundIds registry
  bound : ∀ plugin ∈ before.unboundIds registry, ∃ refused maker engine,
    calls.filter (·.plugin = plugin) = refused ++ [⟨maker, plugin, .ok engine⟩] ∧
    (∀ call ∈ refused, call.IsRefused) ∧ after.HasEngine registry plugin engine
  kept : ∀ plugin engine, before.HasEngine registry plugin engine →
    after.HasEngine registry plugin engine
  registry : after.registries.get registry =
    { before.registries.get registry with factory := some factory }

section Ends

variable {registry : Key Registry} {factory : Key Factory} {calls : List FactoryCall}
  {before after : World Host}

theorem Heard.hasMade (heard : Heard registry calls before after) (rests : before.Rests registry)
    {made : List FactoryCall} (among : ∀ call ∈ made, call ∈ calls)
    (asked : ∀ call ∈ made, call.plugin ∈ before.unboundIds registry)
    (all : ∀ call ∈ made, call.IsMadeBy factory) : after.HasMade registry factory made := by
  rintro ⟨_, plugin, _⟩ member
  rcases all _ member with ⟨rfl, engine, rfl⟩
  exact ⟨rfl, engine, rfl, heard.hasEngine_of_made rests (asked _ member) (among _ member)⟩

/-- An instance is bound if it was so before, or an engine has been made for it. -/
theorem Heard.isBound (heard : Heard registry calls before after) (rests : before.Rests registry)
    {made : List FactoryCall} (hasMade : after.HasMade registry factory made)
    {key : Key PluginServices} (member : key ∈ before.registered registry)
    (asked : (before.services.get key).plugin ∈ before.unboundIds registry →
      (before.services.get key).plugin ∈ made.map (·.plugin)) :
    (after.services.get key).isBound = true := by
  cases bound : (before.services.get key).isBound with
  | true => rw [(heard.hears key member).same_of_bound bound, bound]
  | false =>
      have found := rests.find?_eq_some_iff.2 ⟨member, rfl⟩
      have unbound := rests.mem_unboundIds_iff.2 ⟨key, found, bound⟩
      rcases List.mem_map.1 (asked unbound) with ⟨call, called, own⟩
      rcases hasMade call called with ⟨-, engine, -, has⟩
      exact (own ▸ has).isBound ((heard.same_find? _).trans found)

theorem Heard.startedWith (heard : Heard registry calls before after)
    (rests : before.Rests registry)
    (round : Round factory (before.unboundIds registry) calls (.ok ()))
    (recorded : after.registries.get registry =
      { before.registries.get registry with factory := some factory }) :
    StartedWith registry factory calls before after := by
  rcases round.all_made with ⟨asked, all⟩
  have made := heard.hasMade rests (fun _ => id) round.asked all
  refine ⟨asked, made, fun _ _ => heard.hasEngine, ?_, recorded⟩
  intro key member
  rw [heard.same_registered] at member
  exact heard.isBound rests made member (asked ▸ id)

theorem Heard.stoppedAt {plugin : PluginId} {cause : Error} {earlier : List FactoryCall}
    {behind : List PluginId}
    (heard : Heard registry (earlier ++ [⟨factory, plugin, .error cause⟩]) before after)
    (rests : before.Rests registry)
    (asked : before.unboundIds registry = earlier.map (·.plugin) ++ plugin :: behind)
    (all : ∀ call ∈ earlier, call.IsMadeBy factory)
    (same : after.registries.get registry = before.registries.get registry) :
    StoppedAt registry factory plugin earlier behind before after := by
  have askedEarlier : ∀ call ∈ earlier, call.plugin ∈ before.unboundIds registry := by
    intro call member
    rw [asked]
    exact List.mem_append_left _ (List.mem_map_of_mem member)
  have made := heard.hasMade rests (fun _ => List.mem_append_left _) askedEarlier all
  refine ⟨asked, made, fun _ _ => heard.hasEngine, ?_, ?_, same⟩
  · intro other key found less
    rw [heard.same_find?] at found
    rcases rests.find?_eq_some_iff.1 found with ⟨registered, rfl⟩
    refine heard.isBound rests made registered fun unbound => ?_
    exact rests.mem_earlier asked unbound ((Text.lt_iff_utf8Bytes_lt _ _).2 less)
  · intro other member
    have unbound : other ∈ before.unboundIds registry := by
      rw [asked]
      exact List.mem_append_right _ member
    rcases rests.mem_unboundIds_iff.1 unbound with ⟨key, found, unbound⟩
    rcases rests.find?_eq_some_iff.1 found with ⟨registered, own⟩
    have unchanged : after.services.get key = before.services.get key := by
      refine (heard.hears key registered).same_of_refused fun call called named => ?_
      rcases List.mem_append.1 called with called | called
      · -- No plugin is asked for twice, so that the earlier calls were for others.
        have distinct := asked ▸ rests.nodup_unboundIds
        have apart := (List.nodup_append.1 distinct).2.2 _ (List.mem_map_of_mem called) _ member
        exact absurd (named.trans own) apart
      · rw [List.mem_singleton.1 called]
        exact ⟨cause, rfl⟩
    rw [← unchanged] at unbound
    refine ⟨key, (heard.same_find? other).trans found, unchanged, unbound, ?_⟩
    exact (heard.rests rests).canBeBound (heard.same_registered ▸ registered) unbound

theorem Heard.boundOnce (heard : Heard registry calls before after)
    (rests : before.Rests registry)
    (asked : before.IsAskedFor registry calls)
    (bound : ∀ key ∈ after.registered registry, (after.services.get key).isBound)
    (recorded : after.registries.get registry =
      { before.registries.get registry with factory := some factory }) :
    BoundOnce registry factory calls before after := by
  refine ⟨?_, ?_, fun _ _ => heard.hasEngine, recorded⟩
  · intro call member
    rcases asked call member with ⟨key, registered, own⟩
    have found := rests.find?_eq_some_iff.2 ⟨registered, own.symm⟩
    exact rests.mem_unboundIds_iff.2
      ⟨key, found, (heard.hears key registered).unbound_of_asked member own⟩
  · intro plugin member
    rcases rests.mem_unboundIds_iff.1 member with ⟨key, found, unbound⟩
    rcases rests.find?_eq_some_iff.1 found with ⟨registered, rfl⟩
    rcases (heard.hears key registered).binds_once unbound
      (bound key (heard.same_registered ▸ registered)) with ⟨refused, maker, engine, asked, all, is⟩
    exact ⟨refused, maker, engine, asked, all, key, (heard.same_find? _).trans found, is⟩

end Ends

/-! ## Starts one after another -/

section Sequences

variable {factories : Factories Host} {registry : Key Registry} {world between : World Host}

theorem Round.isAskedFor {factory : Key Factory} {calls : List FactoryCall}
    {result : Except Error Unit} (round : Round factory (world.unboundIds registry) calls result)
    (rests : world.Rests registry) : world.IsAskedFor registry calls := by
  intro call member
  rcases rests.mem_unboundIds_iff.1 (round.asked call member) with ⟨key, found, -⟩
  rcases rests.find?_eq_some_iff.1 found with ⟨registered, own⟩
  exact ⟨key, registered, own.symm⟩

theorem Heard.isAskedFor {calls callsLater : List FactoryCall}
    (heard : Heard registry calls world between) (asked : world.IsAskedFor registry calls)
    (askedLater : between.IsAskedFor registry callsLater) :
    world.IsAskedFor registry (calls ++ callsLater) := by
  refine List.forall_mem_append.2 ⟨asked, fun call member => ?_⟩
  rcases askedLater call member with ⟨key, registered, own⟩
  rw [heard.same_registered] at registered
  exact ⟨key, registered, own.trans (heard.hears key registered).same_plugin⟩

/-- Failed starts leave the registry as it was, and its instances as the calls made them. -/
theorem failed_starts_ask (failing : List (Key Factory))
    (out : ∀ factory ∈ failing, (factories factory).StaysOut registry)
    (rests : world.Rests registry)
    (notStarted : (world.registries.get registry).isStarted = false) {errors : List Error}
    (fails : failing.mapM (Registry.start factories registry) world =
      (.ok (errors.map .error), between)) :
    ∃ calls,
      Asks (failing.mapM (Registry.start factories registry))
        (failing.mapM (Registry.start factories.noting registry))
        world calls (errors.map .error) between ∧
      Heard registry calls world between ∧
      between.registries.get registry = world.registries.get registry ∧
      world.IsAskedFor registry calls := by
  induction failing generalizing world errors with
  | nil =>
      rcases Prod.mk.inj fails with ⟨ended, rfl⟩
      refine ⟨[], .of_silent fails fun earlier => ?_, .of_silent (Nat.le_refl _) rfl rfl, rfl,
        nofun⟩
      rw [← Except.ok.inj ended]
      rfl
  | cons factory rest induction =>
      rcases List.forall_mem_cons.1 out with ⟨outFirst, outRest⟩
      rcases Registry.start_asks outFirst rests notStarted
        with ⟨calls, result, later, asks, heard, same, round⟩
      rw [List.mapM_cons, Program.bind_of_ok asks.returns] at fails
      rcases running : rest.mapM (Registry.start factories registry) later
        with ⟨payload | results, last⟩
      · rw [Program.bind_of_error running] at fails
        cases fails
      · rw [Program.bind_of_ok running] at fails
        rcases Prod.mk.inj fails with ⟨ended, rfl⟩
        cases errors with
        | nil => cases ended
        | cons error errors =>
            rcases List.cons.inj (Except.ok.inj ended) with ⟨rfl, rfl⟩
            have stillNot : (later.registries.get registry).isStarted = false := by
              rw [same]
              exact notStarted
            rcases induction outRest (heard.rests rests) stillNot running
              with ⟨callsLater, asksLater, heardLater, sameLater, askedLater⟩
            refine ⟨calls ++ callsLater, ?_, heard.trans heardLater, sameLater.trans same,
              heard.isAskedFor (round.isAskedFor rests) askedLater⟩
            rw [List.mapM_cons, List.mapM_cons]
            refine asks.bind ?_
            rw [← List.append_nil callsLater]
            exact asksLater.bind (.of_silent rfl fun _ => rfl)

end Sequences

/-! ## Main statement -/

structure StartsInOrder (factories : Factories Host) (registry : Key Registry)
    (world : World Host) : Prop where
  unbound : ∀ plugin, plugin ∈ world.unboundIds registry ↔
    ∃ key, (world.registries.get registry).find? plugin = some key ∧
      (world.services.get key).isBound = false
  increasing : ((world.unboundIds registry).map fun plugin => Text.utf8Bytes plugin.text).Pairwise
    (· < ·)
  starts : (world.registries.get registry).isStarted = false →
    ∀ factory, (factories factory).StaysOut registry → ∃ calls result later,
      Asks (Registry.start factories registry factory)
        (Registry.start factories.noting registry factory) world calls result later ∧
      match result with
      | .ok () => StartedWith registry factory calls world later
      | .error error => ∃ plugin cause earlier behind,
          calls = earlier ++ [⟨factory, plugin, .error cause⟩] ∧
          error.kind = .engineConstruction ∧ error.plugin = some plugin.text ∧
          error.causes = .known cause.toFailure :: cause.causes ∧
          StoppedAt registry factory plugin earlier behind world later
  again : (world.registries.get registry).isStarted → ∀ factory,
    Asks (Registry.start factories registry factory)
      (Registry.start factories.noting registry factory) world []
      (.error (.ofKind .alreadyBound)) (world.telling .startedAgain)
  retried : (world.registries.get registry).isStarted = false → ∀ failing last,
    (∀ factory ∈ last :: failing, (factories factory).StaysOut registry) →
    ∀ (errors : List Error) between later,
      failing.mapM (Registry.start factories registry) world = (.ok (errors.map .error), between) →
      Registry.start factories registry last between = (.ok (.ok ()), later) →
      ∃ calls callsLast,
        Asks (failing.mapM (Registry.start factories registry))
          (failing.mapM (Registry.start factories.noting registry))
          world calls (errors.map .error) between ∧
        Asks (Registry.start factories registry last)
          (Registry.start factories.noting registry last) between callsLast (.ok ()) later ∧
        BoundOnce registry last (calls ++ callsLast) world later

/-- Starts of a registry at rest bind its instances in the order of their ids, up to the
first refusal, and go on where an earlier start has stopped. -/
theorem starts_bind_in_order (factories : Factories Host) {registry : Key Registry}
    {world : World Host} (rests : world.Rests registry) :
    StartsInOrder factories registry world where
  unbound _ := rests.mem_unboundIds_iff
  increasing := by
    rw [List.pairwise_map]
    exact rests.increasing_unboundIds.imp (Text.lt_iff_utf8Bytes_lt _ _).1
  starts notStarted factory out := by
    rcases Registry.start_asks out rests notStarted
      with ⟨calls, result, later, asks, heard, same, round⟩
    refine ⟨calls, result, later, asks, ?_⟩
    cases result with
    | ok => exact heard.startedWith rests round same
    | error error =>
        rcases round.stopped with ⟨earlier, plugin, cause, behind, asked, rfl, rfl, all⟩
        exact ⟨plugin, cause, earlier, behind, rfl, rfl, rfl, rfl,
          heard.stoppedAt rests asked all same⟩
  again started factory :=
    .of_silent (Registry.start_of_started factories registry factory world started)
      fun earlier => Registry.start_of_started factories.noting registry factory
        (world.noting earlier) started
  retried notStarted failing last out errors between later fails succeeds := by
    rcases List.forall_mem_cons.1 out with ⟨outLast, outFailing⟩
    rcases failed_starts_ask failing outFailing rests notStarted fails
      with ⟨calls, asks, heard, same, asked⟩
    have stillNot : (between.registries.get registry).isStarted = false := by
      rw [same]
      exact notStarted
    have restsOn := heard.rests rests
    rcases Registry.start_asks outLast restsOn stillNot
      with ⟨callsLast, result, left, asksLast, heardLast, recorded, round⟩
    cases asksLast.returns.symm.trans succeeds
    have ended := heardLast.startedWith restsOn round recorded
    refine ⟨calls, callsLast, asks, asksLast, (heard.trans heardLast).boundOnce rests
      (heard.isAskedFor asked (round.isAskedFor restsOn)) ended.bound ?_⟩
    rw [recorded, same]

/-! Three plugins, one of which is bound already. One of the factories refuses the last. -/

def http : PluginId := ⟨"http", by decide, by decide⟩

def jms : PluginId := ⟨"jms", by decide, by decide⟩

def servlet : PluginId := ⟨"servlet", by decide, by decide⟩

def threeInstances (factory : Option (Key Factory)) : World Unit :=
  let services : Dict (Key PluginServices) :=
    { entries := [("http", ⟨2⟩), ("jms", ⟨0⟩), ("servlet", ⟨1⟩)], ordered := by decide }
  let bound : PluginServices :=
    { plugin := jms, clock := ⟨0⟩, binding := true, engine := some (.recorder ⟨0⟩) }
  { services := ⟨[bound, { plugin := servlet, clock := ⟨0⟩ }, { plugin := http, clock := ⟨0⟩ }]⟩
    registries := ⟨[{ clock := ⟨0⟩, services, factory }]⟩, host := () }

def storageDown : Error := .new .internal "storage down"

def pickyFactories : Factories Unit := fun factory plugin =>
  if factory = ⟨1⟩ ∧ plugin = servlet then return .error storageDown
  else return .ok (.recorder ⟨factory.index⟩)

theorem rests_threeInstances (factory : Option (Key Factory)) :
    (threeInstances factory).Rests ⟨0⟩ where
  within := Nat.zero_lt_one
  idle := by
    refine List.forall_mem_cons.2 ⟨⟨(by decide : 2 < 3), rfl⟩, List.forall_mem_cons.2 ⟨?_, ?_⟩⟩
    · exact ⟨(by decide : 0 < 3), rfl⟩
    · exact List.forall_mem_singleton.2 ⟨(by decide : 1 < 3), rfl⟩
  own := by
    refine List.forall_mem_cons.2 ⟨rfl, List.forall_mem_cons.2 ⟨rfl, ?_⟩⟩
    exact List.forall_mem_singleton.2 rfl

theorem pickyFactories_stayOut (factory : Key Factory) :
    (pickyFactories factory).StaysOut ⟨0⟩ := by
  intro plugin world
  rw [pickyFactories]
  split <;> exact ⟨trivial, Nat.le_refl _, Nat.le_refl _, fun _ => rfl, fun _ _ _ => rfl⟩

/-- The second start asks for the refused plugin alone, and no third one is accepted. -/
theorem next_start_goes_on :
    ∃ refusal failed later calls callsLast,
      Registry.start pickyFactories ⟨0⟩ ⟨1⟩ (threeInstances none) =
        (.ok (.error refusal), failed) ∧
      refusal.plugin = some "servlet" ∧
      (∃ plugin earlier behind,
        StoppedAt ⟨0⟩ ⟨1⟩ plugin earlier behind (threeInstances none) failed) ∧
      Registry.start pickyFactories ⟨0⟩ ⟨2⟩ failed = (.ok (.ok ()), later) ∧
      calls.map (·.plugin) = [http, servlet] ∧ callsLast.map (·.plugin) = [servlet] ∧
      BoundOnce ⟨0⟩ ⟨2⟩ (calls ++ callsLast) (threeInstances none) later ∧
      Asks (Registry.start pickyFactories ⟨0⟩ ⟨1⟩) (Registry.start pickyFactories.noting ⟨0⟩ ⟨1⟩)
        (threeInstances (some ⟨2⟩)) [] (.error (.ofKind .alreadyBound))
        ((threeInstances (some ⟨2⟩)).telling .startedAgain) := by
  have inOrder := starts_bind_in_order pickyFactories (rests_threeInstances none)
  have again := (starts_bind_in_order pickyFactories (rests_threeInstances (some ⟨2⟩))).again rfl
  rcases inOrder.starts rfl ⟨1⟩ (pickyFactories_stayOut ⟨1⟩)
    with ⟨calls, result, failed, asks, ends⟩
  cases asks.returns
  rcases ends with ⟨plugin, _, earlier, behind, _, _, _, _, stopped⟩
  rcases inOrder.retried rfl [⟨1⟩] ⟨2⟩ (fun factory _ => pickyFactories_stayOut factory)
    [PluginServices.constructionError servlet storageDown] _ _ rfl rfl
    with ⟨calls, callsLast, asks, asksLast, once⟩
  have noted := congrArg (fun ending => ending.2.notes.map (·.plugin)) (asks.notes [])
  have notedLast := congrArg (fun ending => ending.2.notes.map (·.plugin)) (asksLast.notes [])
  exact ⟨_, _, _, calls, callsLast, rfl, rfl, ⟨plugin, earlier, behind, stopped⟩, rfl,
    noted.symm, notedLast.symm, once, again ⟨1⟩⟩

end Instrumentation
