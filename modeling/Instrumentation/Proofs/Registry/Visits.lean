import Instrumentation.Proofs.Binding.Runs
import Instrumentation.Registry.Operations
import Mathlib.Logic.Function.Basic

namespace Instrumentation

/-! Calls on a registry that run against one another, in any number and on whatever
threads; those that a factory makes are among them. Every step named here is one that
nothing interrupts: a section under the lock of the registry, the look at whether an
instance is bound, or a step of an attempt to bind it. -/

namespace Visits

open Binding

/-! ## Visits -/

inductive Request where
  | get (id : String)
  | start (factory : Key Factory)

/-- How far a visit has come. Its next step is the one named. -/
inductive Stage where
  | entering
  /-- No instance was found, and the lock has been given up. -/
  | takingIn (plugin : PluginId)
  | binding (pending : List (Key PluginServices))
  | attempting (key : Key PluginServices) (index : Nat) (pending : List (Key PluginServices))
  | takingBack (error : Error)
  | ended (ending : Except Error Unit)

structure Visit where
  request : Request
  found : Option (Key PluginServices) := none
  stage : Stage := .entering

def Request.afterFailure (error : Error) : Request → Stage
  | get _ => .ended (.error error)
  | start _ => .takingBack error

namespace Visit

def HasEnded (visit : Visit) : Prop :=
  ∃ ending, visit.stage = .ended ending

def finds (visit : Visit) (key : Key PluginServices) (factory : Option (Key Factory)) : Visit :=
  { visit with
    found := some key
    stage :=
      match factory with
      | none => .ended (.ok ())
      | some _ => .binding [key] }

end Visit

/-! ## What visits share -/

structure Shared where
  registry : Registry
  services : Table PluginServices
  attempts : Key PluginServices → List Attempt := fun _ => []

namespace Shared

def race (shared : Shared) (key : Key PluginServices) : Race where
  services := shared.services.get key
  attempts := shared.attempts key

def advance (shared : Shared) (services : Table PluginServices) (key : Key PluginServices)
    (attempts : List Attempt) : Shared where
  registry := shared.registry
  services
  attempts := Function.update shared.attempts key attempts

variable (shared : Shared) (services : Table PluginServices) (key : Key PluginServices)
  (attempts : List Attempt)

@[simp] theorem attempts_advance_same :
    (shared.advance services key attempts).attempts key = attempts := by
  simp [advance]

theorem attempts_advance_other {other : Key PluginServices} (different : other ≠ key) :
    (shared.advance services key attempts).attempts other = shared.attempts other := by
  simp [advance, different]

theorem advance_self : shared.advance shared.services key (shared.attempts key) = shared := by
  simp [advance]

theorem advance_advance (later : Table PluginServices) (others : List Attempt) :
    (shared.advance services key attempts).advance later key others =
      shared.advance later key others := by
  simp [advance]

theorem race_advance_same :
    (shared.advance services key attempts).race key = ⟨services.get key, attempts⟩ := by
  rw [race, attempts_advance_same]
  rfl

theorem race_advance_other {other : Key PluginServices} (different : other ≠ key) :
    (shared.advance services key attempts).race other =
      ⟨services.get other, shared.attempts other⟩ := by
  rw [race, attempts_advance_other _ _ _ _ different]
  rfl

end Shared

/-! ## Steps -/

/-- The steps of a visit, with what they do to what is shared. Creations return, with an
engine or with an error. -/
inductive Visit.Moves (shared : Shared) : Visit → Shared → Visit → Prop
  | rejected (visit : Visit) (id : String) (error : Error) (asks : visit.request = .get id)
      (entering : visit.stage = .entering) (rejects : PluginId.ofText id = .error error) :
      Moves shared visit shared { visit with stage := .ended (.error error) }
  | finds (visit : Visit) (id : String) (plugin : PluginId) (key : Key PluginServices)
      (asks : visit.request = .get id) (entering : visit.stage = .entering)
      (named : PluginId.ofText id = .ok plugin)
      (found : shared.registry.find? plugin = some key) :
      Moves shared visit shared (visit.finds key shared.registry.factory)
  | misses (visit : Visit) (id : String) (plugin : PluginId) (asks : visit.request = .get id)
      (entering : visit.stage = .entering) (named : PluginId.ofText id = .ok plugin)
      (missing : shared.registry.find? plugin = none) :
      Moves shared visit shared { visit with stage := .takingIn plugin }
  | findsLate (visit : Visit) (plugin : PluginId) (key : Key PluginServices)
      (takingIn : visit.stage = .takingIn plugin)
      (found : shared.registry.find? plugin = some key) :
      Moves shared visit shared (visit.finds key shared.registry.factory)
  | takesIn (visit : Visit) (plugin : PluginId) (takingIn : visit.stage = .takingIn plugin)
      (missing : shared.registry.find? plugin = none) :
      Moves shared visit
        { shared with
          registry := shared.registry.insert plugin shared.services.nextKey
          services := shared.services.add { plugin, clock := shared.registry.clock } }
        (visit.finds shared.services.nextKey shared.registry.factory)
  | refused (visit : Visit) (factory : Key Factory) (asks : visit.request = .start factory)
      (entering : visit.stage = .entering)
      (started : shared.registry.recordFactory factory = none) :
      Moves shared visit shared
        { visit with stage := .ended (.error (.ofKind .alreadyBound)) }
  | accepted (visit : Visit) (factory : Key Factory) (pending : List (Key PluginServices))
      (registry : Registry) (asks : visit.request = .start factory)
      (entering : visit.stage = .entering)
      (records : shared.registry.recordFactory factory = some (pending, registry)) :
      Moves shared visit { shared with registry } { visit with stage := .binding pending }
  | skips (visit : Visit) (key : Key PluginServices) (pending : List (Key PluginServices))
      (binding : visit.stage = .binding (key :: pending))
      (bound : (shared.services.get key).isBound = true) :
      Moves shared visit shared { visit with stage := .binding pending }
  | attempts (visit : Visit) (key : Key PluginServices) (pending : List (Key PluginServices))
      (binding : visit.stage = .binding (key :: pending))
      (unbound : (shared.services.get key).isBound = false) :
      Moves shared visit
        (shared.advance shared.services key (shared.attempts key ++ [({} : Attempt)]))
        { visit with stage := .attempting key (shared.attempts key).length pending }
  | goesOn (visit : Visit) (key : Key PluginServices) (index : Nat)
      (pending : List (Key PluginServices)) (attempt moved : Attempt) (next : PluginServices)
      (services : Table PluginServices)
      (attempting : visit.stage = .attempting key index pending)
      (there : (shared.attempts key)[index]? = some attempt)
      (moves : attempt.Moves (shared.services.get key) next moved)
      (returns : ∀ payload, moved.creation ≠ some (.error payload))
      (stores : Stores shared.services key next services) :
      Moves shared visit
        (shared.advance services key ((shared.attempts key).set index moved)) visit
  | passes (visit : Visit) (key : Key PluginServices) (index : Nat)
      (pending : List (Key PluginServices)) (attempt : Attempt) (result : Except Error Unit)
      (attempting : visit.stage = .attempting key index pending)
      (there : (shared.attempts key)[index]? = some attempt)
      (ended : attempt.stage = .ended (.ok result))
      (passes : ∀ error, result = .error error → error.kind = .alreadyBound) :
      Moves shared visit shared { visit with stage := .binding pending }
  | fails (visit : Visit) (key : Key PluginServices) (index : Nat)
      (pending : List (Key PluginServices)) (attempt : Attempt) (error : Error)
      (attempting : visit.stage = .attempting key index pending)
      (there : (shared.attempts key)[index]? = some attempt)
      (ended : attempt.stage = .ended (.ok (.error error)))
      (fails : error.kind ≠ .alreadyBound) :
      Moves shared visit shared { visit with stage := visit.request.afterFailure error }
  | takesBack (visit : Visit) (factory : Key Factory) (error : Error)
      (asks : visit.request = .start factory) (takingBack : visit.stage = .takingBack error) :
      Moves shared visit { shared with registry := shared.registry.forgetFactory factory }
        { visit with stage := .ended (.error error) }
  | returns (visit : Visit) (binding : visit.stage = .binding []) :
      Moves shared visit shared { visit with stage := .ended (.ok ()) }

structure Scene where
  shared : Shared
  visits : List Visit := []

namespace Scene

/-- One more visit begins, one that has begun makes its next step, or something else
happens to services that the registry has not handed out. -/
inductive Step (scene : Scene) : Scene → Prop
  | begins (request : Request) :
      Step scene { scene with visits := scene.visits ++ [{ request }] }
  | moves (index : Nat) (visit next : Visit) (shared : Shared)
      (there : scene.visits[index]? = some visit)
      (moves : visit.Moves scene.shared shared next) :
      Step scene { shared, visits := scene.visits.set index next }
  | elsewhere (services : Table PluginServices)
      (grows : scene.shared.services.size ≤ services.size)
      (kept : ∀ key ∈ scene.shared.registry.services.values,
        services.get key = scene.shared.services.get key) :
      Step scene { scene with shared := { scene.shared with services } }

abbrev Becomes : Scene → Scene → Prop :=
  Relation.ReflTransGen Step

def opening (clock : Key Clock) (services : Table PluginServices) : Scene where
  shared := { registry := { clock }, services }

end Scene

theorem Visit.Moves.among {shared later : Shared} {visit next : Visit}
    (moves : visit.Moves shared later next) (before behind : List Visit) :
    Scene.Step ⟨shared, before ++ visit :: behind⟩ ⟨later, before ++ next :: behind⟩ := by
  have there : (before ++ visit :: behind)[before.length]? = some visit := by simp
  have placed : (before ++ visit :: behind).set before.length next =
      before ++ next :: behind := by simp
  have step : Scene.Step ⟨shared, before ++ visit :: behind⟩ ⟨later, _⟩ :=
    .moves before.length visit next later there moves
  rw [placed] at step
  exact step

end Visits

end Instrumentation
