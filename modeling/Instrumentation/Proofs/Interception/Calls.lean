import Instrumentation.Proofs.Program
import Instrumentation.Services.Calls

namespace Instrumentation

/-! What calls through services come to in the world in which they are entered: it is
the engine published there that they go through. -/

variable {Host Fault Value : Type} [HostEngines Host]

namespace PluginServices

variable (services : Key PluginServices) (world : World Host)

@[simp] theorem engineOf_apply :
    engineOf services world =
      (.ok ((world.services.get services).engine.map Engine.methods), world) := rfl

theorem intercept_apply (interception : EngineMethods Host → Interception Host)
    (classify : Value → Outcome) (work : Program Host Value) :
    intercept services interception classify work world =
      match (world.services.get services).engine with
      | some engine => runIntercepted (interception engine.methods) classify work world
      | none => work world := by
  rw [intercept, Program.bind_apply, engineOf_apply]
  cases (world.services.get services).engine <;> rfl

def notReady (plugin : PluginId) : Error :=
  (Error.ofKind .notReady).withPlugin plugin.text

theorem require_apply (accessor : Accessor)
    (question : EngineMethods Host → Program Host (Except Error Value)) :
    require services accessor question world =
      match (world.services.get services).engine with
      | some engine => question engine.methods world
      | none =>
          let plugin := (world.services.get services).plugin
          (.ok (.error (notReady plugin)),
            { world with events := world.events ++ [.rejectedUnbound plugin accessor] }) := by
  rw [require, Program.bind_apply, engineOf_apply]
  cases (world.services.get services).engine <;> rfl

end PluginServices

namespace Call

def classify (describe : Fault → String) (call : Call) : Except Fault Value → Outcome :=
  match call with
  | rootSpan _ | span _ | tryRecord => Outcome.ofResult describe
  | record => fun _ => .completed

theorem onServices_apply (call : Call) (services : Key PluginServices) (metric : Metric)
    (describe : Fault → String) (work : Program Host (Except Fault Value))
    (world : World Host) :
    call.onServices services metric describe work world =
      match (world.services.get services).engine with
      | some engine =>
          runIntercepted (call.onEngine engine.methods metric) (call.classify describe)
            work world
      | none => work world := by
  cases call <;> exact PluginServices.intercept_apply services world _ _ work

end Call

end Instrumentation
