import Instrumentation.Proofs.Binding.Governed
import Instrumentation.Proofs.Binding.Programs
import Instrumentation.Proofs.Registry.Visits

namespace Instrumentation.Visits

open Binding

/-! The instances of a registry and the attempts to bind them, as every step of a visit
leaves them. -/

structure Shared.Filed (shared : Shared) : Prop where
  raced : ∀ plugin key, shared.registry.find? plugin = some key →
    key.index < shared.services.size ∧
      (Race.fresh plugin shared.registry.clock).Becomes (shared.race key)
  filed : ∀ key ∈ shared.registry.services.values,
    shared.registry.find? (shared.services.get key).plugin = some key
  attempted : ∀ key, shared.attempts key ≠ [] → key ∈ shared.registry.services.values

namespace Shared.Filed

variable {shared later : Shared} {key : Key PluginServices} {plugin : PluginId}

theorem opening (clock : Key Clock) (services : Table PluginServices) :
    (Scene.opening clock services).shared.Filed where
  raced _ _ found := by cases found
  filed _ member := by cases member
  attempted _ attempted := absurd rfl attempted

theorem within (filed : shared.Filed) (member : key ∈ shared.registry.services.values) :
    key.index < shared.services.size :=
  (filed.raced _ key (filed.filed key member)).1

theorem governed (filed : shared.Filed) (member : key ∈ shared.registry.services.values) :
    ∃ right, Governed (shared.services.get key).plugin (shared.race key) right :=
  Governed.of_becomes (filed.raced _ key (filed.filed key member)).2

theorem of_frame (filed : shared.Filed)
    (services : later.registry.services = shared.registry.services)
    (clock : later.registry.clock = shared.registry.clock)
    (attempts : later.attempts = shared.attempts)
    (grows : shared.services.size ≤ later.services.size)
    (kept : ∀ key ∈ shared.registry.services.values,
      later.services.get key = shared.services.get key) : later.Filed where
  raced plugin key found := by
    rw [Registry.find?, services] at found
    have member : key ∈ shared.registry.services.values := Dict.mem_values_of_find? found
    rcases filed.raced plugin key found with ⟨within, becomes⟩
    rw [clock, Shared.race, attempts, kept key member]
    exact ⟨Nat.lt_of_lt_of_le within grows, becomes⟩
  filed key member := by
    rw [services] at member
    rw [kept key member, Registry.find?, services]
    exact filed.filed key member
  attempted key attempted := by
    rw [attempts] at attempted
    rw [services]
    exact filed.attempted key attempted

theorem advances (filed : shared.Filed) (registry : later.registry = shared.registry)
    (member : key ∈ shared.registry.services.values)
    (grows : shared.services.size ≤ later.services.size)
    (step : (shared.race key).Step (later.race key))
    (others : ∀ other, other ≠ key → later.race other = shared.race other) :
    later.Filed where
  raced plugin other found := by
    rw [registry] at found ⊢
    have ⟨within, becomes⟩ := filed.raced plugin other found
    refine ⟨Nat.lt_of_lt_of_le within grows, ?_⟩
    by_cases same : other = key
    · rw [same] at becomes ⊢
      exact becomes.tail step
    · rw [others other same]
      exact becomes
  filed other registered := by
    rw [registry] at registered ⊢
    rw [← filed.filed other registered]
    by_cases same : other = key
    · rw [same]
      have plugin : (later.race key).services.plugin = (shared.race key).services.plugin :=
        Race.Becomes.same_plugin (.single step)
      exact congrArg shared.registry.find? plugin
    · exact congrArg (fun race => shared.registry.find? race.services.plugin)
        (others other same)
  attempted other attempted := by
    rw [registry]
    by_cases same : other = key
    · rw [same]
      exact member
    · apply filed.attempted other
      have unchanged : later.attempts other = shared.attempts other :=
        congrArg Race.attempts (others other same)
      rwa [unchanged] at attempted

theorem takesIn (filed : shared.Filed) (missing : shared.registry.find? plugin = none) :
    Shared.Filed
      { shared with
        registry := shared.registry.insert plugin shared.services.nextKey
        services := shared.services.add { plugin, clock := shared.registry.clock } } := by
  have new : shared.attempts shared.services.nextKey = [] := by
    by_contra attempted
    exact Nat.lt_irrefl _ (filed.within (filed.attempted _ attempted))
  have kept (key : Key PluginServices) (member : key ∈ shared.registry.services.values) :
      (shared.services.add { plugin, clock := shared.registry.clock }).get key =
        shared.services.get key :=
    Table.get_add_other _ _ (filed.within member)
  have grows : shared.services.size ≤
      (shared.services.add { plugin, clock := shared.registry.clock }).size := by
    rw [Table.size_add]
    exact Nat.le_succ _
  constructor
  · intro other key found
    rw [Registry.find?_insert] at found
    split at found
    · next same =>
        cases found
        rw [same, Shared.race, Table.get_add_nextKey, new]
        refine ⟨?_, .refl⟩
        rw [Table.size_add]
        exact Nat.lt_succ_self _
    · rcases filed.raced other key found with ⟨within, becomes⟩
      rw [Shared.race, kept key (Dict.mem_values_of_find? found)]
      exact ⟨Nat.lt_of_lt_of_le within grows, becomes⟩
  · intro key member
    rcases (Dict.mem_values_insert missing).mp member with rfl | member
    · rw [Table.get_add_nextKey, Registry.find?_insert, if_pos rfl]
    · have found := filed.filed key member
      rw [kept key member, Registry.find?_insert]
      split
      · next same =>
          rw [same, missing] at found
          cases found
      · exact found
  · intro key attempted
    exact (Dict.mem_values_insert missing).mpr (.inr (filed.attempted key attempted))

end Shared.Filed

end Instrumentation.Visits
