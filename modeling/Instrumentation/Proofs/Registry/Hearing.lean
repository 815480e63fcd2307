import Instrumentation.Proofs.Interception.Observation
import Instrumentation.Proofs.Registry.Stacks

namespace Instrumentation

/-! What factories are asked for, and what comes of it. Each call of a factory is noted
with its answer, beside a host that knows nothing of these notes; and an instance is what
the answers that were given for it have made of it. -/

variable {Host Value Other : Type}

/-! ## Noting the calls of factories -/

structure FactoryCall where
  factory : Key Factory
  plugin : PluginId
  answer : Except Error Engine

namespace FactoryCall

def IsRefused (call : FactoryCall) : Prop :=
  ∃ cause, call.answer = .error cause

def result (call : FactoryCall) : Except Error Unit :=
  match call.answer with
  | .error cause => .error (PluginServices.constructionError call.plugin cause)
  | .ok _ => .ok ()

end FactoryCall

abbrev Overheard (Host : Type) := Host × List FactoryCall

def Factories.noting (factories : Factories Host) : Factories (Overheard Host) :=
  fun factory plugin => do
    let answer ← Program.besideNotes (factories factory plugin)
    modify fun world => world.plain.noting (world.notes ++ [⟨factory, plugin, answer⟩])
    return answer

theorem Factories.noting_of_ok {factories : Factories Host} {factory : Key Factory}
    {plugin : PluginId} {world later : World Host} {answer : Except Error Engine}
    (answers : factories factory plugin world = (.ok answer, later))
    (earlier : List FactoryCall) :
    factories.noting factory plugin (world.noting earlier) =
      (.ok answer, later.noting (earlier ++ [⟨factory, plugin, answer⟩])) := by
  have beside := Program.besideNotes_apply (factories factory plugin) world earlier
  rw [answers] at beside
  rw [noting, Program.bind_of_ok beside]
  rfl

/-- The program returns this value, and where the calls of factories are noted it does the
same and makes these. -/
structure Asks (program : Program Host Value) (noting : Program (Overheard Host) Value)
    (world : World Host) (calls : List FactoryCall) (value : Value) (later : World Host) :
    Prop where
  returns : program world = (.ok value, later)
  notes : ∀ earlier, noting (world.noting earlier) = (.ok value, later.noting (earlier ++ calls))

namespace Asks

variable {program : Program Host Value} {noting : Program (Overheard Host) Value}
  {world between later : World Host} {calls callsLater : List FactoryCall} {value : Value}

theorem of_silent (returns : program world = (.ok value, later))
    (same : ∀ earlier : List FactoryCall,
      noting (world.noting earlier) = (.ok value, later.noting earlier)) :
    Asks program noting world [] value later where
  returns := returns
  notes earlier := by rw [List.append_nil, same]

theorem bind {rest : Value → Program Host Other}
    {notingRest : Value → Program (Overheard Host) Other} {result : Other}
    (first : Asks program noting world calls value between)
    (next : Asks (rest value) (notingRest value) between callsLater result later) :
    Asks (program >>= rest) (noting >>= notingRest) world (calls ++ callsLater) result later where
  returns := by rw [Program.bind_of_ok first.returns, next.returns]
  notes earlier := by
    rw [Program.bind_of_ok (first.notes earlier), next.notes, List.append_assoc]

end Asks

/-! ## What instances hear -/

namespace PluginServices

def boundTo (services : PluginServices) (engine : Engine) : PluginServices :=
  { services with binding := true, engine := some engine }

/-- Whatever was asked for the services in these calls was asked while they were unbound,
and the answers have made them what they are. -/
inductive Hears : PluginServices → List FactoryCall → PluginServices → Prop
  | nothing (services : PluginServices) : Hears services [] services
  | other {services later : PluginServices} {call : FactoryCall} {rest : List FactoryCall}
      (different : call.plugin ≠ services.plugin) (hears : Hears services rest later) :
      Hears services (call :: rest) later
  | refused {services later : PluginServices} {rest : List FactoryCall}
      (unbound : services.isBound = false) (factory : Key Factory) (cause : Error)
      (hears : Hears services rest later) :
      Hears services (⟨factory, services.plugin, .error cause⟩ :: rest) later
  | made {services later : PluginServices} {rest : List FactoryCall}
      (unbound : services.isBound = false) (factory : Key Factory) (engine : Engine)
      (hears : Hears (services.boundTo engine) rest later) :
      Hears services (⟨factory, services.plugin, .ok engine⟩ :: rest) later

namespace Hears

variable {services between later : PluginServices} {calls callsLater : List FactoryCall}

theorem trans (first : Hears services calls between) (second : Hears between callsLater later) :
    Hears services (calls ++ callsLater) later := by
  induction first with
  | nothing => exact second
  | other different _ induction => exact .other different (induction second)
  | refused unbound factory cause _ induction =>
      exact .refused unbound factory cause (induction second)
  | made unbound factory engine _ induction =>
      exact .made unbound factory engine (induction second)

theorem same_plugin (hears : Hears services calls later) : later.plugin = services.plugin := by
  induction hears with
  | nothing => rfl
  | other _ _ induction => exact induction
  | refused _ _ _ _ induction => exact induction
  | made _ _ _ _ induction => exact induction

theorem isSettled (hears : Hears services calls later) (settled : services.IsSettled) :
    later.IsSettled := by
  induction hears with
  | nothing => exact settled
  | other _ _ induction => exact induction settled
  | refused _ _ _ _ induction => exact induction settled
  | made _ _ _ _ induction => exact induction rfl

theorem same_of_refused (hears : Hears services calls later)
    (refused : ∀ call ∈ calls, call.plugin = services.plugin → call.IsRefused) :
    later = services := by
  induction hears with
  | nothing => rfl
  | other _ _ induction => exact induction fun call member => refused call (.tail _ member)
  | refused _ _ _ _ induction => exact induction fun call member => refused call (.tail _ member)
  | made _ _ _ _ _ =>
      rcases refused _ (.head _) rfl with ⟨cause, answered⟩
      cases answered

theorem unasked_of_bound (hears : Hears services calls later) (bound : services.isBound = true) :
    ∀ call ∈ calls, call.plugin ≠ services.plugin := by
  induction hears with
  | nothing => exact nofun
  | other different _ induction => exact List.forall_mem_cons.2 ⟨different, induction bound⟩
  | refused unbound => cases bound.symm.trans unbound
  | made unbound => cases bound.symm.trans unbound

theorem same_of_bound (hears : Hears services calls later) (bound : services.isBound = true) :
    later = services :=
  hears.same_of_refused fun call member asked =>
    absurd asked (hears.unasked_of_bound bound call member)

theorem unbound_of_asked (hears : Hears services calls later) {call : FactoryCall}
    (member : call ∈ calls) (asked : call.plugin = services.plugin) :
    services.isBound = false :=
  Bool.eq_false_iff.2 fun bound => hears.unasked_of_bound bound call member asked

/-- What has come to be bound was refused for a time, and then bound to the first engine
that was made for it. -/
theorem binds_once (hears : Hears services calls later) (unbound : services.isBound = false)
    (bound : later.isBound = true) :
    ∃ refused factory engine,
      calls.filter (·.plugin = services.plugin) =
        refused ++ [⟨factory, services.plugin, .ok engine⟩] ∧
      (∀ call ∈ refused, call.IsRefused) ∧ later.engine = some engine := by
  induction hears with
  | nothing => cases bound.symm.trans unbound
  | other different _ induction =>
      rw [List.filter_cons_of_neg (by simpa using different)]
      exact induction unbound bound
  | @refused services later rest _ factory cause _ induction =>
      rcases induction unbound bound with ⟨refused, maker, engine, asked, all, is⟩
      let first : FactoryCall := ⟨factory, services.plugin, .error cause⟩
      refine ⟨first :: refused, maker, engine, ?_, ?_, is⟩
      · rw [List.filter_cons_of_pos (by simp), asked]
        rfl
      · exact List.forall_mem_cons.2 ⟨⟨cause, rfl⟩, all⟩
  | @made services later rest _ factory engine hears _ =>
      have unasked := hears.unasked_of_bound rfl
      refine ⟨[], factory, engine, ?_, nofun, ?_⟩
      · rw [List.filter_cons_of_pos (by simp), List.filter_eq_nil_iff.2]
        · rfl
        · intro call member
          have different : call.plugin ≠ services.plugin := unasked call member
          simpa using different
      · rw [hears.same_of_bound rfl]
        rfl

theorem bound_of_made (hears : Hears services calls later) {factory : Key Factory}
    {engine : Engine} (member : ⟨factory, services.plugin, .ok engine⟩ ∈ calls) :
    later.engine = some engine := by
  induction hears with
  | nothing => cases member
  | other different _ induction =>
      rcases List.mem_cons.1 member with rfl | member
      · exact absurd rfl different
      · exact induction member
  | refused _ _ _ _ induction =>
      rcases List.mem_cons.1 member with same | member
      · cases same
      · exact induction member
  | made _ _ _ hears _ =>
      rw [hears.same_of_bound rfl]
      rcases List.mem_cons.1 member with same | member
      · cases same
        rfl
      · exact absurd rfl (hears.unasked_of_bound rfl _ member)

end Hears

end PluginServices

/-! ## Registries at rest -/

/-- The instances of the registry are there, each under its own plugin, and no bind of them
is going on. -/
structure World.Rests (world : World Host) (registry : Key Registry) : Prop where
  within : registry.index < world.registries.size
  idle : ∀ key ∈ world.registered registry, world.Idle key
  own : ∀ entry ∈ (world.registries.get registry).services.entries,
    (world.services.get entry.2).plugin.text = entry.1

namespace World.Rests

variable {world : World Host} {registry : Key Registry} {key other : Key PluginServices}
  {plugin : PluginId}

theorem find?_eq_some_iff (rests : world.Rests registry) :
    (world.registries.get registry).find? plugin = some key ↔
      key ∈ world.registered registry ∧ (world.services.get key).plugin = plugin := by
  rw [Registry.find?, Dict.find?_eq_some_iff]
  constructor
  · intro member
    exact ⟨List.mem_map_of_mem (f := Prod.snd) member,
      PluginId.eq_of_text (rests.own _ member)⟩
  · rintro ⟨member, rfl⟩
    rcases List.mem_map.1 member with ⟨entry, filed, rfl⟩
    rw [rests.own entry filed]
    exact filed

theorem eq_of_plugin (rests : world.Rests registry) (member : key ∈ world.registered registry)
    (otherMember : other ∈ world.registered registry)
    (same : (world.services.get key).plugin = (world.services.get other).plugin) :
    key = other := by
  have found := rests.find?_eq_some_iff.2 ⟨member, same⟩
  exact Option.some.inj (found.symm.trans (rests.find?_eq_some_iff.2 ⟨otherMember, rfl⟩))

theorem increasing (rests : world.Rests registry) :
    (world.registered registry).Pairwise fun left right =>
      (world.services.get left).plugin.text < (world.services.get right).plugin.text := by
  have ordered := (world.registries.get registry).services.ordered
  rw [List.pairwise_map] at ordered
  rw [World.registered, Dict.values, List.pairwise_map]
  refine ordered.imp_of_mem fun {left right} member otherMember less => ?_
  rw [rests.own left member, rests.own right otherMember]
  exact less

end World.Rests

structure Untouched (registry : Key Registry) (before after : World Host) : Prop where
  registries : before.registries.size ≤ after.registries.size
  size : before.services.size ≤ after.services.size
  same : registry.index < before.registries.size →
    after.registries.get registry = before.registries.get registry
  kept : ∀ key ∈ before.registered registry, key.index < before.services.size →
    after.services.get key = before.services.get key

/-- A factory that makes an engine or refuses to, and does nothing about the registry and
its instances meanwhile. -/
def Creation.StaysOut (create : Creation Host) (registry : Key Registry) : Prop :=
  ∀ plugin, Leads (Untouched registry) Returns (create plugin)

structure Heard (registry : Key Registry) (calls : List FactoryCall)
    (before after : World Host) : Prop where
  registries : before.registries.size ≤ after.registries.size
  size : before.services.size ≤ after.services.size
  registered : (after.registries.get registry).services =
    (before.registries.get registry).services
  hears : ∀ key ∈ before.registered registry,
    (before.services.get key).Hears calls (after.services.get key)

namespace Heard

variable {registry : Key Registry} {calls callsLater : List FactoryCall}
  {before between after : World Host}

theorem same_registered (heard : Heard registry calls before after) :
    after.registered registry = before.registered registry :=
  congrArg Dict.values heard.registered

theorem trans (first : Heard registry calls before between)
    (second : Heard registry callsLater between after) :
    Heard registry (calls ++ callsLater) before after where
  registries := Nat.le_trans first.registries second.registries
  size := Nat.le_trans first.size second.size
  registered := second.registered.trans first.registered
  hears key member :=
    (first.hears key member).trans (second.hears key (first.same_registered ▸ member))

theorem of_silent (registries : before.registries.size ≤ after.registries.size)
    (registered : (after.registries.get registry).services =
      (before.registries.get registry).services)
    (services : after.services = before.services) : Heard registry [] before after where
  registries := registries
  size := Nat.le_of_eq (congrArg Table.size services.symm)
  registered := registered
  hears _ _ := services ▸ .nothing _

theorem of_setRegistry {state : Registry}
    (services : state.services = (before.registries.get registry).services) :
    Heard registry [] before (before.setRegistry registry state) := by
  refine of_silent (before.registries.size_le_put registry state) ?_ rfl
  rw [World.get_setRegistry, services]

theorem rests (heard : Heard registry calls before after) (rests : before.Rests registry) :
    after.Rests registry where
  within := Nat.lt_of_lt_of_le rests.within heard.registries
  idle key member := by
    rw [heard.same_registered] at member
    have ⟨within, settled⟩ := rests.idle key member
    exact ⟨Nat.lt_of_lt_of_le within heard.size, (heard.hears key member).isSettled settled⟩
  own entry member := by
    rw [heard.registered] at member
    rw [(heard.hears entry.2 (List.mem_map_of_mem member)).same_plugin]
    exact rests.own entry member

end Heard

/-! ## Binds that ask a factory -/

/-- A refusal is never taken for a bind of others. -/
theorem Callers.excused_result (call : FactoryCall) :
    excused (.ok call.result) = .ok call.result := by
  rw [FactoryCall.result]
  cases call.answer <;> rfl

namespace PluginServices

variable {factories : Factories Host} {factory : Key Factory} {registry : Key Registry}
  {key : Key PluginServices} {world left : World Host} {answer : Except Error Engine}

theorem bind_asks (unclaimed : (world.services.get key).binding = false)
    (unbound : (world.services.get key).isBound = false)
    (answers : factories factory (world.services.get key).plugin
      (world.setServices key { world.services.get key with binding := true }) =
        (.ok answer, left))
    (held : left.services.get key = { world.services.get key with binding := true }) :
    let call : FactoryCall := ⟨factory, (world.services.get key).plugin, answer⟩
    ∃ later final, Asks (bind key (factories factory)) (bind key (factories.noting factory))
        world [call] call.result later ∧
      later.registries = left.registries ∧ later.services = left.services.put key final ∧
      (world.services.get key).Hears [call] final := by
  intro call
  have claims : (world.services.get key).claim =
      some { world.services.get key with binding := true } := by
    rw [claim, unclaimed]
    rfl
  have plain : bind key (factories factory) world =
      afterCreation key call.plugin (.ok answer) left := bind_of_claimed claims answers
  have noted (earlier : List FactoryCall) :
      bind key (factories.noting factory) (world.noting earlier) =
        afterCreation key call.plugin (.ok answer) (left.noting (earlier ++ [call])) := by
    have claims : ((world.noting earlier).services.get key).claim = _ := claims
    exact bind_of_claimed claims (Factories.noting_of_ok answers earlier)
  cases answer with
  | error cause =>
      refine ⟨_, world.services.get key, ⟨plain, noted⟩, rfl, ?_, ?_⟩
      · change left.services.put key (left.services.get key).release = _
        rw [held, release_claimed unclaimed]
      · exact .refused unbound factory cause (.nothing _)
  | ok engine =>
      have slot : (world.services.get key).engine = none := by
        simpa [isBound] using unbound
      have publishes : (left.services.get key).publish engine =
          some ((world.services.get key).boundTo engine) := by
        rw [held, publish, slot]
        rfl
      simp only [afterCreation, publishes] at plain
      refine ⟨_, _, ⟨plain, fun earlier => ?_⟩, rfl, rfl, .made unbound _ _ (.nothing _)⟩
      rw [noted earlier]
      have same : ((left.noting (earlier ++ [call])).services.get key).publish engine = _ :=
        publishes
      simp only [afterCreation, same]
      rfl

theorem bindPending_asks (out : (factories factory).StaysOut registry)
    (rests : world.Rests registry) (member : key ∈ world.registered registry)
    (unbound : (world.services.get key).isBound = false) :
    ∃ answer later,
      let call : FactoryCall := ⟨factory, (world.services.get key).plugin, answer⟩
      Asks (bindPending key (factories factory)) (bindPending key (factories.noting factory))
        world [call] call.result later ∧
      Heard registry [call] world later ∧
      later.registries.get registry = world.registries.get registry := by
  have unclaimed : (world.services.get key).binding = false :=
    (rests.idle key member).2.trans unbound
  let claimed : PluginServices := { world.services.get key with binding := true }
  rcases (out claimed.plugin).returned (world.setServices key claimed)
    with ⟨answer, left, answers, -, untouched⟩
  have held : left.services.get key = claimed := by
    rw [untouched.kept key member (world.services.lt_size_put key claimed)]
    exact World.get_setServices world key claimed
  have sameRegistry : left.registries.get registry = world.registries.get registry :=
    untouched.same rests.within
  rcases bind_asks unclaimed unbound answers held
    with ⟨later, final, asks, registries, services, hears⟩
  rw [← registries] at sameRegistry
  refine ⟨answer, later, ⟨?_, ?_⟩, ⟨?_, ?_, ?_, ?_⟩, sameRegistry⟩
  · rw [Callers.bindPending_of_unbound unbound, asks.returns, Callers.excused_result]
  · intro earlier
    have unbound : ((world.noting earlier).services.get key).isBound = false := unbound
    rw [Callers.bindPending_of_unbound unbound, asks.notes, Callers.excused_result]
  · exact registries ▸ untouched.registries
  · rw [services]
    calc world.services.size
      _ ≤ (world.services.put key claimed).size := world.services.size_le_put key claimed
      _ ≤ left.services.size := untouched.size
      _ ≤ (left.services.put key final).size := left.services.size_le_put key final
  · rw [sameRegistry]
  · intro other registered
    rw [services]
    by_cases same : other = key
    · rw [same, Table.get_put_same]
      exact hears
    · have within : other.index < (world.setServices key claimed).services.size :=
        Nat.lt_of_lt_of_le (rests.idle other registered).1
          (world.services.size_le_put key claimed)
      have kept : (world.setServices key claimed).services.get other = world.services.get other :=
        Table.get_put_other _ _ same
      rw [Table.get_put_other _ _ same, untouched.kept other registered within, kept]
      exact .other (fun asked => same (rests.eq_of_plugin registered member asked.symm))
        (.nothing _)

end PluginServices

end Instrumentation
