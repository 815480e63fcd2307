import Instrumentation.Proofs.Interception.Observation
import Instrumentation.Proofs.Registry.Start

namespace Instrumentation

/-! What a host does with registries and services, and its factories with it. A factory
may do all that the host may: it gets services, binds them and starts registries while an
engine is being created. Of every start that succeeds a note is taken, in a part of the
world that the conduct itself cannot read. -/

variable {Host Value : Type}

/-! ## Notes -/

/-- What there was when a start that succeeded was called, and when it returned. -/
structure StartNote where
  registry : Key Registry
  registered : List (Key PluginServices)
  before : Table PluginServices
  after : Table PluginServices

abbrev Noted (Host : Type) := Host × List StartNote

namespace Registry

def startNote (registry : Key Registry) (before after : World (Noted Host)) : StartNote where
  registry
  registered := before.registered registry
  before := before.services
  after := after.services

def startNoted (factories : Factories (Noted Host)) (registry : Key Registry)
    (factory : Key Factory) : Program (Noted Host) (Except Error Unit) := do
  let before ← get
  match ← start factories registry factory with
  | .error error => return .error error
  | .ok () =>
      modify fun after =>
        after.plain.noting (after.notes ++ [startNote registry before after])
      return .ok ()

theorem startNoted_apply (factories : Factories (Noted Host)) (registry : Key Registry)
    (factory : Key Factory) (world : World (Noted Host)) :
    startNoted factories registry factory world =
      match start factories registry factory world with
      | (.ok (.ok ()), after) =>
          (.ok (.ok ()),
            after.plain.noting (after.notes ++ [startNote registry world after]))
      | other => other := by
  rw [startNoted, Program.bind_of_ok (Program.get_apply world), Program.bind_apply]
  rcases start factories registry factory world with ⟨payload | error | _, after⟩ <;> rfl

end Registry

/-! ## Conduct -/

/-- Something that a host does besides, whatever it is: services and registries stay as
they are. -/
structure Aside (Host : Type) where
  program : Program Host Unit
  leavesServices : ∀ world, (program world).2.services = world.services
  leavesRegistries : ∀ world, (program world).2.registries = world.registries

/-- A host may go on after any end of what it called, and pass a panic on or catch it. -/
inductive Conduct (Host Value : Type) where
  | ends (ending : Except Payload Value)
  | aside (step : Aside Host) (rest : Host → Conduct Host Value)
  | binds (services : Key PluginServices) (factory : Key Factory)
      (rest : Except Payload (Except Error Unit) → Conduct Host Value)
  | gets (registry : Key Registry) (id : String)
      (rest : Except Payload (Except Error (Key PluginServices)) → Conduct Host Value)
  | starts (registry : Key Registry) (factory : Key Factory)
      (rest : Except Payload (Except Error Unit) → Conduct Host Value)

def Conduct.run (factories : Factories (Noted Host)) :
    Conduct Host Value → Program (Noted Host) Value
  | ends ending => finish ending
  | aside step rest => do
      let _ ← attempt (Program.besideNotes step.program)
      (rest (← get).plain.host).run factories
  | binds services factory rest => do
      let ending ← attempt (PluginServices.bind services (factories factory))
      (rest ending).run factories
  | gets registry id rest => do
      let ending ← attempt (Registry.getServices factories registry id)
      (rest ending).run factories
  | starts registry factory rest => do
      let ending ← attempt (Registry.startNoted factories registry factory)
      (rest ending).run factories

abbrev Makers (Host : Type) := Key Factory → PluginId → Conduct Host (Except Error Engine)

def tooDeeplyNested : Payload :=
  .fixed "factories nested too deeply"

def Makers.factories (makers : Makers Host) : Nat → Factories (Noted Host)
  | 0 => fun _ _ => throw tooDeeplyNested
  | depth + 1 => fun factory plugin => (makers factory plugin).run (makers.factories depth)

/-! ## Orderly conduct -/

section Orderliness

variable {registry : Key Registry} {made : Engine → Prop} {factories : Factories (Noted Host)}

theorem IsOrderly.attempted {program : Program (Noted Host) Value}
    (orderly : IsOrderly registry made program) :
    Leads (Orderly registry made) Returns (attempt program) := by
  intro world
  rw [Program.attempt_apply]
  exact ⟨trivial, (orderly world).2⟩

theorem Aside.isOrderly (step : Aside Host) :
    IsOrderly registry made (Program.besideNotes step.program : Program (Noted Host) Unit) :=
  fun world => ⟨trivial, .of_same (step.leavesServices world.plain)
    (step.leavesRegistries world.plain)⟩

theorem Registry.startNoted_isOrderly {factory : Key Factory}
    (orderly : (factories factory).IsOrderly registry made) (target : Key Registry) :
    IsOrderly registry made (startNoted factories target factory) := by
  intro world
  have led := (start_isOrderly orderly target world).2
  refine ⟨trivial, ?_⟩
  rw [startNoted_apply]
  rcases starting : start factories target factory world with ⟨payload | error | _, after⟩ <;>
    rw [starting] at led
  · exact led
  · exact led
  · exact led.trans (.of_same rfl rfl)

theorem Conduct.run_isOrderly
    (orderly : ∀ factory, (factories factory).IsOrderly registry fun _ => True)
    (conduct : Conduct Host Value) :
    IsOrderly registry (fun _ => True) (conduct.run factories) := by
  induction conduct with
  | ends ending => exact fun world => ⟨trivial, .refl world⟩
  | aside step rest induction =>
      apply Leads.bind step.isOrderly.attempted
      intro _ _
      exact .bind (.look id) fun world _ => induction world.plain.host
  | binds services factory rest induction =>
      have binding := PluginServices.bind_isOrderly (orderly factory) services
      exact .bind binding.attempted fun ending _ => induction ending
  | gets target id rest induction =>
      have getting := Registry.getServices_isOrderly orderly target id
      exact .bind getting.attempted fun ending _ => induction ending
  | starts target factory rest induction =>
      have starting := Registry.startNoted_isOrderly (orderly factory) target
      exact .bind starting.attempted fun ending _ => induction ending

theorem Makers.isOrderly (makers : Makers Host) (depth : Nat) (factory : Key Factory) :
    (makers.factories depth factory).IsOrderly registry fun _ => True := by
  induction depth generalizing factory with
  | zero => exact fun plugin world => ⟨fun _ _ => trivial, .refl world⟩
  | succ depth induction =>
      intro plugin world
      exact ⟨fun _ _ => trivial, ((makers factory plugin).run_isOrderly induction world).2⟩

end Orderliness

end Instrumentation
