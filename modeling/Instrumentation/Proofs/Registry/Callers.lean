import Instrumentation.Proofs.Binding.Runs
import Instrumentation.Registry.Operations
import Mathlib.Logic.Function.Basic

namespace Instrumentation

/-! Threads that call registries and bind services. A factory is run in the middle of a
bind, by the thread that makes it, and may call all of it again: so each thread has a
stack of calls, of which only the uppermost one makes steps. Between any two steps of a
thread others may make theirs. A factory may answer whatever it likes or be unwound
through, and who called what is passed the panic may catch it. Every step named here is
one that nothing interrupts. -/

namespace Callers

open Binding

/-! ## Calls -/

inductive Request where
  | get (registry : Key Registry) (id : String)
  | start (registry : Key Registry) (factory : Key Factory)
  deriving DecidableEq

/-- How far a call on a registry has come. Its next step is the one named. -/
inductive Stage where
  | entering
  /-- No instance was found, and the lock has been given up. -/
  | takingIn (plugin : PluginId)
  | binding (pending : List (Key PluginServices))
  | awaiting (key : Key PluginServices) (pending : List (Key PluginServices))
  | takingBack (error : Error)
  | ended (ending : BindEnding)

structure Found where
  services : Key PluginServices
  factory : Option (Key Factory)

structure Visit where
  request : Request
  found : Option Found := none
  creation : Option CreationEnding := none
  stage : Stage := .entering

/-- That others bind or have bound is no failure. -/
def excused : BindEnding → BindEnding
  | .ok (.error error) => if error.kind = .alreadyBound then .ok (.ok ()) else .ok (.error error)
  | .ok (.ok ()) => .ok (.ok ())
  | .error payload => .error payload

def Request.afterFailure (error : Error) : Request → Stage
  | get _ _ => .ended (.ok (.error error))
  | start _ _ => .takingBack error

def Request.after (request : Request) (pending : List (Key PluginServices)) :
    BindEnding → Stage
  | .error payload => .ended (.error payload)
  | .ok (.error error) => request.afterFailure error
  | .ok (.ok ()) => .binding pending

namespace Visit

def HasEnded (visit : Visit) : Prop :=
  ∃ ending, visit.stage = .ended ending

def finds (visit : Visit) (services : Key PluginServices) (factory : Option (Key Factory)) :
    Visit :=
  { visit with
    found := some { services, factory }
    stage :=
      match factory with
      | none => .ended (.ok (.ok ()))
      | some _ => .binding [services] }

def answered (visit : Visit) (pending : List (Key PluginServices))
    (creation : Option CreationEnding) (ending : BindEnding) : Visit :=
  { visit with creation, stage := visit.request.after pending (excused ending) }

def outcome? (visit : Visit) :
    Option (Except Payload (Except Error (Key PluginServices))) :=
  match visit.stage with
  | .ended (.error payload) => some (.error payload)
  | .ended (.ok (.error error)) => some (.ok (.error error))
  | .ended (.ok (.ok ())) => visit.found.map fun found => .ok (.ok found.services)
  | _ => none

theorem hasEnded_of_outcome (visit : Visit)
    {outcome : Except Payload (Except Error (Key PluginServices))}
    (ends : visit.outcome? = some outcome) : visit.HasEnded := by
  rw [outcome?] at ends
  split at ends
  · next ended => exact ⟨_, ended⟩
  · next ended => exact ⟨_, ended⟩
  · next ended => exact ⟨_, ended⟩
  · cases ends

theorem stage_of_returned {visit : Visit} {key : Key PluginServices}
    (returned : visit.outcome? = some (.ok (.ok key))) : visit.stage = .ended (.ok (.ok ())) := by
  rw [outcome?] at returned
  split at returned
  · cases returned
  · cases returned
  · assumption
  · cases returned

end Visit

inductive Frame where
  | visit (visit : Visit)
  | bind (services : Key PluginServices) (attempt : Attempt)

/-- Nothing of the library goes on above: the thread is in no call of it, or in a factory
that it called. -/
def IsFree : List Frame → Prop
  | [] => True
  | .bind _ attempt :: _ => attempt.stage = .creating
  | .visit _ :: _ => False

/-! ## Steps -/

structure Shared where
  registries : Table Registry
  services : Table PluginServices

namespace Shared

def of {Host : Type} (world : World Host) : Shared where
  registries := world.registries
  services := world.services

def registry (shared : Shared) (key : Key Registry) : Registry :=
  shared.registries.get key

def setRegistry (shared : Shared) (key : Key Registry) (registry : Registry) : Shared :=
  { shared with registries := shared.registries.put key registry }

def addServices (shared : Shared) (plugin : PluginId) (clock : Key Clock) : Shared :=
  { shared with services := shared.services.add { plugin, clock } }

variable (shared : Shared) (key : Key Registry) (registry : Registry)

@[simp] theorem registry_setRegistry : (shared.setRegistry key registry).registry key = registry :=
  shared.registries.get_put_same key registry

theorem registry_setRegistry_other {other : Key Registry} (different : other ≠ key) :
    (shared.setRegistry key registry).registry other = shared.registry other :=
  shared.registries.get_put_other registry different

end Shared

/-- The steps of a call on a registry that are not those of a bind, with what they do to
what is shared. -/
inductive Visit.Moves (shared : Shared) : Visit → Shared → Visit → Prop
  | rejected (visit : Visit) (registry : Key Registry) (id : String) (error : Error)
      (asks : visit.request = .get registry id) (entering : visit.stage = .entering)
      (rejects : PluginId.ofText id = .error error) :
      Moves shared visit shared { visit with stage := .ended (.ok (.error error)) }
  | finds (visit : Visit) (registry : Key Registry) (id : String) (plugin : PluginId)
      (services : Key PluginServices) (asks : visit.request = .get registry id)
      (entering : visit.stage = .entering) (named : PluginId.ofText id = .ok plugin)
      (found : (shared.registry registry).find? plugin = some services) :
      Moves shared visit shared
        (visit.finds services (shared.registry registry).factory)
  | misses (visit : Visit) (registry : Key Registry) (id : String) (plugin : PluginId)
      (asks : visit.request = .get registry id) (entering : visit.stage = .entering)
      (named : PluginId.ofText id = .ok plugin)
      (missing : (shared.registry registry).find? plugin = none) :
      Moves shared visit shared { visit with stage := .takingIn plugin }
  | findsLate (visit : Visit) (registry : Key Registry) (id : String) (plugin : PluginId)
      (services : Key PluginServices) (asks : visit.request = .get registry id)
      (takingIn : visit.stage = .takingIn plugin)
      (found : (shared.registry registry).find? plugin = some services) :
      Moves shared visit shared
        (visit.finds services (shared.registry registry).factory)
  | takesIn (visit : Visit) (registry : Key Registry) (id : String) (plugin : PluginId)
      (asks : visit.request = .get registry id) (takingIn : visit.stage = .takingIn plugin)
      (missing : (shared.registry registry).find? plugin = none) :
      Moves shared visit
        ((shared.addServices plugin (shared.registry registry).clock).setRegistry registry
          ((shared.registry registry).insert plugin shared.services.nextKey))
        (visit.finds shared.services.nextKey (shared.registry registry).factory)
  | refused (visit : Visit) (registry : Key Registry) (factory : Key Factory)
      (asks : visit.request = .start registry factory) (entering : visit.stage = .entering)
      (started : (shared.registry registry).recordFactory factory = none) :
      Moves shared visit shared
        { visit with stage := .ended (.ok (.error (.ofKind .alreadyBound))) }
  | accepted (visit : Visit) (registry : Key Registry) (factory : Key Factory)
      (pending : List (Key PluginServices)) (started : Registry)
      (asks : visit.request = .start registry factory) (entering : visit.stage = .entering)
      (records : (shared.registry registry).recordFactory factory =
        some (pending, started)) :
      Moves shared visit (shared.setRegistry registry started)
        { visit with stage := .binding pending }
  | skips (visit : Visit) (services : Key PluginServices) (pending : List (Key PluginServices))
      (binding : visit.stage = .binding (services :: pending))
      (bound : (shared.services.get services).isBound = true) :
      Moves shared visit shared { visit with stage := .binding pending }
  | takesBack (visit : Visit) (registry : Key Registry) (factory : Key Factory) (error : Error)
      (asks : visit.request = .start registry factory)
      (takingBack : visit.stage = .takingBack error) :
      Moves shared visit
        (shared.setRegistry registry ((shared.registry registry).forgetFactory factory))
        { visit with stage := .ended (.ok (.error error)) }
  | returns (visit : Visit) (binding : visit.stage = .binding []) :
      Moves shared visit shared { visit with stage := .ended (.ok (.ok ())) }

inductive Moves (shared : Shared) : List Frame → Shared → List Frame → Prop
  | visits (request : Request) (stack : List Frame) (free : IsFree stack) :
      Moves shared stack shared (.visit { request } :: stack)
  | binds (key : Key PluginServices) (stack : List Frame) (free : IsFree stack) :
      Moves shared stack shared (.bind key {} :: stack)
  | goesOn (visit next : Visit) (later : Shared) (stack : List Frame)
      (moves : visit.Moves shared later next) :
      Moves shared (.visit visit :: stack) later (.visit next :: stack)
  | awaits (visit : Visit) (key : Key PluginServices) (pending : List (Key PluginServices))
      (stack : List Frame) (binding : visit.stage = .binding (key :: pending))
      (unbound : (shared.services.get key).isBound = false) :
      Moves shared (.visit visit :: stack) shared
        (.bind key {} :: .visit { visit with stage := .awaiting key pending } :: stack)
  | attempts (key : Key PluginServices) (attempt moved : Attempt) (next : PluginServices)
      (services : Table PluginServices) (stack : List Frame)
      (moves : attempt.Moves (shared.services.get key) next moved)
      (stores : Stores shared.services key next services) :
      Moves shared (.bind key attempt :: stack) { shared with services }
        (.bind key moved :: stack)
  | answers (key : Key PluginServices) (attempt : Attempt) (ending : BindEnding)
      (visit : Visit) (pending : List (Key PluginServices)) (stack : List Frame)
      (ended : attempt.stage = .ended ending) (awaiting : visit.stage = .awaiting key pending) :
      Moves shared (.bind key attempt :: .visit visit :: stack) shared
        (.visit (visit.answered pending attempt.creation ending) :: stack)
  | leaves (key : Key PluginServices) (attempt : Attempt) (ending : BindEnding)
      (stack : List Frame) (ended : attempt.stage = .ended ending) (free : IsFree stack) :
      Moves shared (.bind key attempt :: stack) shared stack

/-! ## Threads -/

structure Scene where
  shared : Shared
  frames : ThreadId → List Frame := fun _ => []
  past : List Visit := []

namespace Scene

def after (scene : Scene) (thread : ThreadId) (shared : Shared) (stack : List Frame)
    (past : List Visit) : Scene where
  shared
  frames := Function.update scene.frames thread stack
  past

inductive Step (thread : ThreadId) (scene : Scene) : Scene → Prop
  | moves (shared : Shared) (stack : List Frame)
      (moves : Callers.Moves scene.shared (scene.frames thread) shared stack) :
      Step thread scene (scene.after thread shared stack scene.past)
  | returns (visit : Visit) (stack : List Frame)
      (there : scene.frames thread = .visit visit :: stack) (ended : visit.HasEnded) :
      Step thread scene (scene.after thread scene.shared stack (scene.past ++ [visit]))
  | makes (plugin : PluginId) (clock : Key Clock) (free : IsFree (scene.frames thread)) :
      Step thread scene
        { scene with shared := scene.shared.addServices plugin clock }

abbrev BecomesOn (thread : ThreadId) : Scene → Scene → Prop :=
  Relation.ReflTransGen (Step thread)

abbrev Becomes : Scene → Scene → Prop :=
  Relation.ReflTransGen fun scene next => ∃ thread, Step thread scene next

def opening (registries : Table Registry) (services : Table PluginServices) : Scene where
  shared := { registries, services }

section After

variable (scene : Scene) (thread : ThreadId) (shared : Shared) (stack : List Frame)
  (past : List Visit)

@[simp] theorem frames_after_same :
    (scene.after thread shared stack past).frames thread = stack := by
  simp [after]

theorem frames_after_other {other : ThreadId} (different : other ≠ thread) :
    (scene.after thread shared stack past).frames other = scene.frames other := by
  simp [after, different]

end After

end Scene

end Callers

end Instrumentation
