import Instrumentation.World

namespace Instrumentation

/-! Binding services to an engine. -/

variable {Host : Type}

abbrev Creation (Host : Type) := PluginId → Program Host (Except Error Engine)

namespace PluginServices

def releaseBinding (services : Key PluginServices) : Program Host Unit := do
  write services (← read services).release

def refusal (plugin : PluginId) : Error :=
  (Error.ofKind .alreadyBound).withPlugin plugin.text

def slotWritten (plugin : PluginId) : Error :=
  (Error.new .internal "engine slot written outside bind").withPlugin plugin.text

def constructionError (plugin : PluginId) (cause : Error) : Error :=
  (Error.new .engineConstruction ("engine factory failed for plugin " ++ plugin.text))
    |>.withPlugin plugin.text |>.causedBy cause

/-- The part of a bind that has the right to bind: creates the engine and publishes
it. The right is given back if that fails or is unwound through. -/
def bindClaimed (services : Key PluginServices) (create : Creation Host) :
    Program Host (Except Error Unit) := do
  let plugin := (← read services).plugin
  match ← attempt (create plugin) with
  | .error payload =>
      releaseBinding services
      throw payload
  | .ok (.error cause) =>
      emit (.constructionFailed plugin cause)
      releaseBinding services
      return .error (constructionError plugin cause)
  | .ok (.ok engine) =>
      match (← read services).publish engine with
      | none =>
          releaseBinding services
          return .error (slotWritten plugin)
      | some published =>
          write services published
          emit (.bound plugin)
          return .ok ()

/-- Binds services to the engine that is created for them. It is refused while
another bind goes on and after one succeeded. -/
def bind (services : Key PluginServices) (create : Creation Host) :
    Program Host (Except Error Unit) := do
  let state ← read services
  match state.claim with
  | none =>
      emit (.boundAgain state.plugin)
      return .error (refusal state.plugin)
  | some claimed =>
      write services claimed
      bindClaimed services create

def bindPending (services : Key PluginServices) (create : Creation Host) :
    Program Host (Except Error Unit) := do
  if (← read services).isBound then return .ok ()
  match ← bind services create with
  | .error error =>
      if error.kind = .alreadyBound then return .ok () else return .error error
  | .ok () => return .ok ()

end PluginServices

end Instrumentation
