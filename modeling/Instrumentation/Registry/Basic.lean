import Instrumentation.Services.Basic

namespace Instrumentation

/-! Registries as objects: one services instance per plugin, and the factory of
the start that was accepted. The functions here are single steps, which nothing
interrupts. -/

structure Registry where
  clock : Key Clock
  services : Dict (Key PluginServices) := .empty
  factory : Option (Key Factory) := none

namespace Registry

instance : Inhabited Registry := ⟨{ clock := ⟨0⟩ }⟩

def isStarted (registry : Registry) : Bool :=
  registry.factory.isSome

def find? (registry : Registry) (plugin : PluginId) : Option (Key PluginServices) :=
  registry.services.find? plugin.text

def insert (registry : Registry) (plugin : PluginId) (services : Key PluginServices) :
    Registry :=
  { registry with services := registry.services.insert plugin.text services }

/-- Accepts a start: records the factory and gives the instances to be bound, in
the order of their ids. -/
def recordFactory (registry : Registry) (factory : Key Factory) :
    Option (List (Key PluginServices) × Registry) :=
  if registry.isStarted then none
  else some (registry.services.values, { registry with factory := some factory })

/-- Takes a start back, if it is still the one of this factory. -/
def forgetFactory (registry : Registry) (factory : Key Factory) : Registry :=
  if registry.factory = some factory then { registry with factory := none } else registry

theorem find?_insert (registry : Registry) (plugin other : PluginId)
    (services : Key PluginServices) :
    (registry.insert plugin services).find? other =
      if other = plugin then some services else registry.find? other := by
  rw [find?, insert, Dict.find?_insert]
  by_cases same : other = plugin
  · rw [same, if_pos rfl, if_pos rfl]
  · have different : other.text ≠ plugin.text := fun equal => same (PluginId.eq_of_text equal)
    rw [if_neg different, if_neg same, find?]

theorem recordFactory_eq_some {registry started : Registry} {factory : Key Factory}
    {pending : List (Key PluginServices)}
    (records : registry.recordFactory factory = some (pending, started)) :
    registry.factory = none ∧ pending = registry.services.values ∧
      started = { registry with factory := some factory } := by
  cases recorded : registry.factory <;> simp [recordFactory, isStarted, recorded] at records
  exact ⟨rfl, records.1.symm, records.2.symm⟩

theorem forgetFactory_services (state : Registry) (factory : Key Factory) :
    (state.forgetFactory factory).services = state.services := by
  rw [forgetFactory]
  split <;> rfl

theorem forgetFactory_clock (state : Registry) (factory : Key Factory) :
    (state.forgetFactory factory).clock = state.clock := by
  rw [forgetFactory]
  split <;> rfl

def pluginIds (registry : Registry) : List String :=
  registry.services.keys

end Registry

end Instrumentation
