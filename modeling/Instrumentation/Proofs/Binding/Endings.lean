import Instrumentation.Proofs.Program
import Instrumentation.Services.Binding

namespace Instrumentation

/-! What becomes of a bind, by the state of the services and by how the creation of the
engine ends. These equations stand for `bind` in all that follows. -/

variable {Host : Type}

namespace World

def setServices (world : World Host) (key : Key PluginServices) (services : PluginServices) :
    World Host :=
  { world with services := world.services.put key services }

def telling (world : World Host) (event : Event) : World Host :=
  { world with events := world.events ++ [event] }

@[simp] theorem get_setServices (world : World Host) (key : Key PluginServices)
    (services : PluginServices) : (world.setServices key services).services.get key = services :=
  world.services.get_put_same key services

end World

namespace PluginServices

variable (key : Key PluginServices) (create : Creation Host) (world : World Host)

def afterCreation (plugin : PluginId) (creation : Except Payload (Except Error Engine))
    (made : World Host) : Except Payload (Except Error Unit) × World Host :=
  let services := made.services.get key
  match creation with
  | .error payload => (.error payload, made.setServices key services.release)
  | .ok (.error cause) =>
      (.ok (.error (constructionError plugin cause)),
        (made.telling (.constructionFailed plugin cause)).setServices key services.release)
  | .ok (.ok engine) =>
      match services.publish engine with
      | none => (.ok (.error (slotWritten plugin)), made.setServices key services.release)
      | some published => (.ok (.ok ()), (made.setServices key published).telling (.bound plugin))

theorem bindClaimed_apply {creation : Except Payload (Except Error Engine)} {left : World Host}
    (creates : create (world.services.get key).plugin world = (creation, left)) :
    bindClaimed key create world =
      afterCreation key (world.services.get key).plugin creation left := by
  have reading : read key world = (.ok (world.services.get key), world) := rfl
  rw [bindClaimed, Program.bind_of_ok reading,
    Program.bind_of_ok (Program.attempt_apply _ world), creates]
  rcases creation with payload | cause | engine
  · rfl
  · rfl
  · have rereading : read key left = (.ok (left.services.get key), left) := rfl
    dsimp only [afterCreation]
    rw [Program.bind_of_ok rereading]
    cases (left.services.get key).publish engine <;> rfl

variable {key create world}

theorem bind_of_refused (refused : (world.services.get key).claim = none) :
    bind key create world =
      (.ok (.error (refusal (world.services.get key).plugin)),
        world.telling (.boundAgain (world.services.get key).plugin)) := by
  have reading : read key world = (.ok (world.services.get key), world) := rfl
  rw [bind, Program.bind_of_ok reading, refused]
  dsimp only
  rw [Program.bind_of_ok (Program.emit_apply _ world)]
  rfl

theorem bind_of_claimed {claimed : PluginServices}
    (claims : (world.services.get key).claim = some claimed)
    {creation : Except Payload (Except Error Engine)} {left : World Host}
    (creates : create claimed.plugin (world.setServices key claimed) = (creation, left)) :
    bind key create world = afterCreation key claimed.plugin creation left := by
  have reading : read key world = (.ok (world.services.get key), world) := rfl
  have writing : write key claimed world = (.ok (), world.setServices key claimed) := rfl
  have held := World.get_setServices world key claimed
  rw [bind, Program.bind_of_ok reading, claims]
  dsimp only
  rw [Program.bind_of_ok writing, bindClaimed_apply key create (world.setServices key claimed)
    (by rw [held, creates]), held]

end PluginServices

end Instrumentation
