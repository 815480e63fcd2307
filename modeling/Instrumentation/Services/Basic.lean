import Instrumentation.Engine.Basic

namespace Instrumentation

/-! Plugin services as objects. They are handed out before there is an engine,
and an engine is published in them at most once. The functions here are the
single steps of binding, which nothing interrupts. -/

structure PluginServices where
  plugin : PluginId
  clock : Key Clock
  /-- Set while a bind is going on and ever after one succeeded. -/
  binding : Bool := false
  engine : Option Engine := none

namespace PluginServices

instance : Inhabited PluginServices := ⟨{ plugin := default, clock := ⟨0⟩ }⟩

def isBound (services : PluginServices) : Bool :=
  services.engine.isSome

def claim (services : PluginServices) : Option PluginServices :=
  if services.binding then none else some { services with binding := true }

def publish (services : PluginServices) (engine : Engine) : Option PluginServices :=
  match services.engine with
  | some _ => none
  | none => some { services with engine := some engine }

def release (services : PluginServices) : PluginServices :=
  { services with binding := false }

theorem claim_eq_some {services next : PluginServices} (claims : services.claim = some next) :
    services.binding = false ∧ next = { services with binding := true } := by
  cases binding : services.binding <;> simp [claim, binding] at claims
  exact ⟨rfl, claims.symm⟩

theorem publish_eq_some {services next : PluginServices} {engine : Engine}
    (publishes : services.publish engine = some next) :
    services.engine = none ∧ next = { services with engine := some engine } := by
  cases published : services.engine <;> simp [publish, published] at publishes
  exact ⟨rfl, publishes.symm⟩

theorem publish_eq_none {services : PluginServices} {engine : Engine}
    (written : services.publish engine = none) : services.engine ≠ none := by
  intro unpublished
  simp [publish, unpublished] at written

end PluginServices

end Instrumentation
