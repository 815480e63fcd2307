import Instrumentation.Services.Binding

namespace Instrumentation

/-! Getting services from a registry and starting it. Factories are called while
no step on the registry is going on, so that they may use it themselves. -/

variable {Host : Type}

abbrev Factories (Host : Type) := Key Factory → Creation Host

namespace Registry

/-- The instance of a plugin, taken in if it is missing, and the factory of an
accepted start: one step on the registry. -/
def findOrInsert (registry : Key Registry) (plugin : PluginId) :
    Program Host (Key PluginServices × Option (Key Factory)) := do
  let state ← read registry
  match state.find? plugin with
  | some services => return (services, state.factory)
  | none =>
      let services ← PluginServices.create plugin state.clock
      write registry (state.insert plugin services)
      return (services, state.factory)

def lookUp (registry : Key Registry) (plugin : PluginId) :
    Program Host (Key PluginServices × Option (Key Factory)) := do
  let state ← read registry
  match state.find? plugin with
  | some services => return (services, state.factory)
  | none =>
      let found ← findOrInsert registry plugin
      emit (.servicesCreated plugin)
      return found

/-- The services of the plugin with this id, bound if the registry is started. An
instance whose bind fails stays registered. -/
def getServices (factories : Factories Host) (registry : Key Registry) (id : String) :
    Program Host (Except Error (Key PluginServices)) := do
  match PluginId.ofText id with
  | .error error => return .error error
  | .ok plugin =>
      let (services, factory) ← lookUp registry plugin
      match factory with
      | none => return .ok services
      | some factory =>
          match ← PluginServices.bindPending services (factories factory) with
          | .error error => return .error error
          | .ok () => return .ok services

def bindAll (create : Creation Host) :
    List (Key PluginServices) → Program Host (Except Error Unit)
  | [] => return .ok ()
  | services :: rest => do
      match ← PluginServices.bindPending services create with
      | .error error => return .error error
      | .ok () => bindAll create rest

/-- Starts a registry: records the factory and binds every instance handed out so
far, in the order of their ids. A failed bind takes the start back. -/
def start (factories : Factories Host) (registry : Key Registry) (factory : Key Factory) :
    Program Host (Except Error Unit) := do
  match (← read registry).recordFactory factory with
  | none =>
      emit .startedAgain
      return .error (.ofKind .alreadyBound)
  | some (pending, started) =>
      write registry started
      match ← bindAll (factories factory) pending with
      | .error error =>
          write registry ((← read registry).forgetFactory factory)
          return .error error
      | .ok () =>
          emit (.started pending.length)
          return .ok ()

end Registry

end Instrumentation
