import Instrumentation.Proofs.Registry.Conduct
import Instrumentation.Proofs.Registry.Growth
import Instrumentation.Proofs.Registry.Programs

namespace Instrumentation.Callers

open Binding

/-! Programs are callers. What a program does to registries and services, in whatever world
and in the middle of whatever other calls, is what a thread does step by step; and when it
ends the thread is in the calls that it was in before. -/

variable {Host Value : Type}

/-! ## Programs that only make calls -/

/-- A thread that is in these calls may come to be in those. -/
def Comes (shared : Shared) (stack : List Frame) (later : Shared) (stackLater : List Frame) :
    Prop :=
  ∀ (thread : ThreadId) (frames : ThreadId → List Frame) (past : List Visit), ∃ made,
    Scene.BecomesOn thread ⟨shared, Function.update frames thread stack, past⟩
      ⟨later, Function.update frames thread stackLater, past ++ made⟩

/-- All that the program does to registries and services is to call the library, and it is
in none of these calls any more when it ends. -/
def OnlyCalls (program : Program Host Value) : Prop :=
  ∀ world stack, IsFree stack → Comes (.of world) stack (.of (program world).2) stack

namespace Comes

variable {shared between later : Shared} {stack stackBetween stackLater : List Frame}

theorem refl (shared : Shared) (stack : List Frame) : Comes shared stack shared stack := by
  intro thread frames past
  refine ⟨[], ?_⟩
  rw [List.append_nil]

theorem trans (first : Comes shared stack between stackBetween)
    (second : Comes between stackBetween later stackLater) :
    Comes shared stack later stackLater := by
  intro thread frames past
  rcases first thread frames past with ⟨made, path⟩
  rcases second thread frames (past ++ made) with ⟨madeLater, pathLater⟩
  rw [List.append_assoc] at pathLater
  exact ⟨made ++ madeLater, path.trans pathLater⟩

theorem of_moves (moves : Moves shared stack later stackLater) :
    Comes shared stack later stackLater := by
  intro thread frames past
  refine ⟨[], ?_⟩
  rw [List.append_nil]
  let scene : Scene := ⟨shared, Function.update frames thread stack, past⟩
  have now : scene.frames thread = stack := Function.update_self ..
  have step : Scene.Step thread scene _ := .moves later stackLater (by rw [now]; exact moves)
  rw [Scene.after, Function.update_idem] at step
  exact .single step

theorem of_returns {visit : Visit} (ended : visit.HasEnded) (shared : Shared)
    (stack : List Frame) : Comes shared (.visit visit :: stack) shared stack := by
  intro thread frames past
  refine ⟨[visit], ?_⟩
  have step : Scene.Step thread
      ⟨shared, Function.update frames thread (.visit visit :: stack), past⟩ _ :=
    .returns visit stack (Function.update_self ..) ended
  rw [Scene.after, Function.update_idem] at step
  exact .single step

theorem goesOn {visit next : Visit} (moves : visit.Moves shared later next)
    (stack : List Frame) : Comes shared (.visit visit :: stack) later (.visit next :: stack) :=
  .of_moves (.goesOn visit next later stack moves)

/-- Among whatever other threads. -/
theorem among (comes : Comes shared stack later stackLater) {thread : ThreadId}
    {frames : ThreadId → List Frame} (there : frames thread = stack) (past : List Visit) :
    ∃ made, Scene.BecomesOn thread ⟨shared, frames, past⟩
      ⟨later, Function.update frames thread stackLater, past ++ made⟩ := by
  rcases comes thread frames past with ⟨made, path⟩
  rw [← there, Function.update_eq_self] at path
  exact ⟨made, path⟩

theorem keeps (comes : Comes shared stack later stackLater) : shared.Keeps later := by
  rcases comes ⟨0⟩ (fun _ => []) [] with ⟨made, path⟩
  exact path.becomes.keeps

end Comes

/-! ## Binds -/

section Binds

variable {key : Key PluginServices} {create : Creation Host}

theorem runs_comes (registries : Table Registry) {creation : CreationEnding}
    {before after : Table PluginServices × Attempt}
    (runs : Attempt.Runs key creation before after) (stack : List Frame) :
    Comes ⟨registries, before.1⟩ (.bind key before.2 :: stack) ⟨registries, after.1⟩
      (.bind key after.2 :: stack) := by
  induction runs with
  | refl => exact .refl _ _
  | @tail between after _ moves induction =>
      rcases moves with ⟨next, moves, _, stores⟩
      exact induction.trans (.of_moves (.attempts key between.2 after.2 next after.1 stack moves
        stores))

theorem created_comes (key : Key PluginServices) (creation : CreationEnding)
    (left : World Host) (stack : List Frame) :
    let ended := PluginServices.afterCreation key (left.services.get key).plugin creation left
    ∃ attempt : Attempt, attempt.stage = .ended ended.1 ∧
      Comes (.of left) (.bind key { stage := .creating, factoryCalls := 1 } :: stack)
        (.of ended.2) (.bind key attempt :: stack) := by
  intro ended
  rcases Attempt.created_runs key creation left with ⟨attempt, stage, runs⟩
  have registries : ended.2.registries = left.registries :=
    Visits.afterCreation_registries key _ creation left
  have comes := runs_comes left.registries runs stack
  rw [← registries] at comes
  refine ⟨attempt, stage, ?_⟩
  rw [Shared.of, ← registries]
  exact comes

theorem bind_comes (only : ∀ plugin, OnlyCalls (create plugin)) (world : World Host)
    (stack : List Frame) :
    ∃ attempt : Attempt,
      attempt.stage = .ended (PluginServices.bind key create world).1 ∧
      Comes (.of world) (.bind key {} :: stack)
        (.of (PluginServices.bind key create world).2) (.bind key attempt :: stack) := by
  cases claims : (world.services.get key).claim with
  | none =>
      rw [PluginServices.bind_of_refused claims]
      exact ⟨_, rfl, .of_moves (.attempts key {} _ _ world.services stack
        (.refused {} rfl claims) .nothing)⟩
  | some claimed =>
      have claim : Comes (.of world) (.bind key {} :: stack) (.of (world.setServices key claimed))
          (.bind key { stage := .creating, factoryCalls := 1 } :: stack) :=
        .of_moves (.attempts key {} _ claimed _ stack (.claims {} claimed rfl claims)
          (.written claimed))
      rcases creates : create claimed.plugin (world.setServices key claimed) with ⟨creation, left⟩
      have goesOn := only claimed.plugin (world.setServices key claimed)
        (.bind key { stage := .creating, factoryCalls := 1 } :: stack) rfl
      rw [creates] at goesOn
      rcases created_comes key creation left stack with ⟨attempt, stage, comes⟩
      -- The factory cannot have changed whose services these are.
      have plugin : (left.services.get key).plugin = claimed.plugin := by
        have kept := goesOn.keeps.kept key (world.services.lt_size_put key claimed)
        have held := World.get_setServices world key claimed
        exact kept.trans (congrArg PluginServices.plugin held)
      rw [plugin] at stage comes
      rw [PluginServices.bind_of_claimed claims creates]
      exact ⟨attempt, stage, claim.trans (goesOn.trans comes)⟩

theorem onlyCalls_bind (only : ∀ plugin, OnlyCalls (create plugin)) :
    OnlyCalls (PluginServices.bind key create) := by
  intro world stack free
  rcases bind_comes only world stack with ⟨attempt, ended, comes⟩
  exact (Comes.of_moves (.binds key stack free)).trans
    (comes.trans (.of_moves (.leaves key attempt _ stack ended free)))

theorem bindPending_of_bound {world : World Host}
    (bound : (world.services.get key).isBound = true) :
    PluginServices.bindPending key create world = (.ok (.ok ()), world) := by
  have reading : PluginServices.read key world = (.ok (world.services.get key), world) := rfl
  rw [PluginServices.bindPending, Program.bind_of_ok reading, bound]
  rfl

theorem bindPending_of_unbound {world : World Host}
    (unbound : (world.services.get key).isBound = false) :
    PluginServices.bindPending key create world =
      (excused (PluginServices.bind key create world).1,
        (PluginServices.bind key create world).2) := by
  have reading : PluginServices.read key world = (.ok (world.services.get key), world) := rfl
  rw [PluginServices.bindPending, Program.bind_of_ok reading, unbound]
  simp only [Bool.false_eq_true, if_false]
  rw [Program.bind_apply]
  rcases PluginServices.bind key create world with ⟨payload | error | _, later⟩
  · rfl
  · dsimp only [excused]
    split <;> rfl
  · rfl

theorem bindPending_comes (only : ∀ plugin, OnlyCalls (create plugin)) (world : World Host)
    {visit : Visit} {pending : List (Key PluginServices)}
    (binding : visit.stage = .binding (key :: pending)) (stack : List Frame) :
    let ended := PluginServices.bindPending key create world
    ∃ creation, Comes (.of world) (.visit visit :: stack) (.of ended.2)
      (.visit { visit with creation, stage := visit.request.after pending ended.1 } :: stack) := by
  intro ended
  cases bound : (world.services.get key).isBound with
  | true =>
      have skips : visit.Moves (.of world) (.of world) { visit with stage := .binding pending } :=
        .skips visit key pending binding bound
      rw [show ended = (.ok (.ok ()), world) from bindPending_of_bound bound]
      exact ⟨visit.creation, .goesOn skips stack⟩
  | false =>
      let waiting : Visit := { visit with stage := .awaiting key pending }
      rcases bind_comes only world (.visit waiting :: stack) with ⟨attempt, stage, comes⟩
      rw [show ended = _ from bindPending_of_unbound bound]
      have awaits : Comes (.of world) (.visit visit :: stack) (.of world)
          (.bind key {} :: .visit waiting :: stack) :=
        .of_moves (.awaits visit key pending stack binding bound)
      exact ⟨attempt.creation, awaits.trans (comes.trans
        (.of_moves (.answers key attempt _ waiting pending stack stage rfl)))⟩

theorem bindAll_comes (only : ∀ plugin, OnlyCalls (create plugin))
    (keys : List (Key PluginServices)) (world : World Host) {visit : Visit}
    (binding : visit.stage = .binding keys) (stack : List Frame) :
    let ended := Registry.bindAll create keys world
    ∃ creation, Comes (.of world) (.visit visit :: stack) (.of ended.2)
      (.visit { visit with creation, stage := visit.request.after [] ended.1 } :: stack) := by
  induction keys generalizing world visit with
  | nil =>
      refine ⟨visit.creation, ?_⟩
      have same : { visit with stage := visit.request.after [] (.ok (.ok ())) } = visit := by
        rw [Request.after, ← binding]
      rw [show Registry.bindAll create [] world = (.ok (.ok ()), world) from rfl, same]
      exact .refl _ _
  | cons key rest induction =>
      rcases bindPending_comes only world binding stack with ⟨creation, comes⟩
      rw [Registry.bindAll, Program.bind_apply]
      rcases ended : PluginServices.bindPending key create world with ⟨payload | error | _, between⟩
      · rw [ended] at comes
        exact ⟨creation, comes⟩
      · rw [ended] at comes
        exact ⟨creation, comes⟩
      · rw [ended] at comes
        let bound : Visit := { visit with creation, stage := .binding rest }
        have goesOn : bound.stage = .binding rest := rfl
        rcases induction between goesOn with ⟨creationLater, comesOn⟩
        exact ⟨creationLater, comes.trans comesOn⟩

end Binds

/-! ## Calls on registries -/

section Calls

variable {factories : Factories Host} {registry : Key Registry}

theorem start_comes {factory : Key Factory} (only : ∀ plugin, OnlyCalls (factories factory plugin))
    (world : World Host) (stack : List Frame) :
    let ended := Registry.start factories registry factory world
    ∃ visit : Visit, visit.stage = .ended ended.1 ∧
      Comes (.of world) (.visit { request := .start registry factory } :: stack) (.of ended.2)
        (.visit visit :: stack) := by
  intro ended
  let entering : Visit := { request := .start registry factory }
  cases started : (world.registries.get registry).isStarted with
  | true =>
      rw [show ended = _ from Registry.start_of_started factories registry factory world started]
      refine ⟨_, rfl, .goesOn (.refused entering registry factory rfl rfl ?_) stack⟩
      exact if_pos started
  | false =>
      let accepted : Visit := { entering with stage := .binding (world.registered registry) }
      have accepts : Comes (.of world) (.visit entering :: stack)
          (.of (Registry.accepting registry factory world)) (.visit accepted :: stack) := by
        refine .goesOn (.accepted entering registry factory (world.registered registry) _ rfl rfl
          ?_) stack
        exact if_neg (by simp [Shared.registry, Shared.of, started])
      have binding : accepted.stage = .binding (world.registered registry) := rfl
      rcases bindAll_comes only (world.registered registry)
        (Registry.accepting registry factory world) binding stack with ⟨creation, comes⟩
      rw [show ended = _ from
        Registry.start_of_not_started factories registry factory world started]
      rcases binds : Registry.bindAll (factories factory) (world.registered registry)
        (Registry.accepting registry factory world) with ⟨payload | error | _, left⟩ <;>
        rw [binds] at comes
      · exact ⟨_, rfl, accepts.trans comes⟩
      · let failed : Visit := { accepted with creation, stage := .takingBack error }
        have takesBack : failed.Moves (.of left)
            ((Shared.of left).setRegistry registry
              (((Shared.of left).registry registry).forgetFactory factory)) _ :=
          .takesBack failed registry factory error rfl rfl
        exact ⟨_, rfl, accepts.trans (comes.trans (.goesOn takesBack stack))⟩
      · exact ⟨_, rfl, accepts.trans (comes.trans (.goesOn (.returns _ rfl) stack))⟩

theorem onlyCalls_start {factory : Key Factory}
    (only : ∀ plugin, OnlyCalls (factories factory plugin)) :
    OnlyCalls (Registry.start factories registry factory) := by
  intro world stack free
  rcases start_comes only world stack with ⟨visit, ended, comes⟩
  exact (Comes.of_moves (.visits _ stack free)).trans
    (comes.trans (.of_returns ⟨_, ended⟩ _ stack))

theorem lookUp_comes {id : String} {plugin : PluginId} (named : PluginId.ofText id = .ok plugin)
    (world : World Host) (stack : List Frame) :
    let entering : Visit := { request := .get registry id }
    let factory := (world.registries.get registry).factory
    ∃ key between, Registry.lookUp registry plugin world = (.ok (key, factory), between) ∧
      Comes (.of world) (.visit entering :: stack) (.of between)
        (.visit (entering.finds key factory) :: stack) := by
  intro entering factory
  have reading : Registry.read registry world = (.ok (world.registries.get registry), world) := rfl
  rw [Registry.lookUp, Program.bind_of_ok reading]
  cases found : (world.registries.get registry).find? plugin with
  | some key =>
      have finds : entering.Moves (.of world) (.of world) (entering.finds key factory) :=
        .finds entering registry id plugin key rfl rfl named found
      exact ⟨key, world, rfl, .goesOn finds stack⟩
  | none =>
      dsimp only
      rw [Program.bind_of_ok (Registry.findOrInsert_of_absent found)]
      let missing : Visit := { entering with stage := .takingIn plugin }
      have misses : entering.Moves (.of world) (.of world) missing :=
        .misses entering registry id plugin rfl rfl named found
      have takesIn : missing.Moves (.of world) (.of (Registry.takingIn registry plugin world))
          (missing.finds world.services.nextKey factory) :=
        .takesIn missing registry id plugin rfl rfl found
      exact ⟨_, _, rfl, (Comes.goesOn misses stack).trans (.goesOn takesIn stack)⟩

/-- How a visit ends that asks for an instance: with the outcome of the call. -/
theorem getServices_comes (only : ∀ factory plugin, OnlyCalls (factories factory plugin))
    (id : String) (world : World Host) (stack : List Frame) :
    let ended := Registry.getServices factories registry id world
    ∃ visit : Visit, visit.request = .get registry id ∧ visit.outcome? = some ended.1 ∧
      (∀ key, ended.1 = .ok (.ok key) →
        visit.found = some ⟨key, (world.registries.get registry).factory⟩) ∧
      Comes (.of world) (.visit { request := .get registry id } :: stack) (.of ended.2)
        (.visit visit :: stack) := by
  intro ended
  let entering : Visit := { request := .get registry id }
  simp only [ended]
  rw [Registry.getServices]
  cases named : PluginId.ofText id with
  | error error =>
      have rejected : entering.Moves (.of world) (.of world)
          { entering with stage := .ended (.ok (.error error)) } :=
        .rejected entering registry id error rfl rfl named
      exact ⟨_, rfl, rfl, by rintro _ ⟨⟩, .goesOn rejected stack⟩
  | ok plugin =>
      rcases lookUp_comes named world stack with ⟨key, between, finds, comes⟩
      dsimp only
      rw [Program.bind_of_ok finds]
      cases recorded : (world.registries.get registry).factory with
      | none =>
          rw [recorded] at comes
          refine ⟨_, rfl, rfl, ?_, comes⟩
          rintro _ ⟨⟩
          rfl
      | some factory =>
          rw [recorded] at comes
          have binding : (entering.finds key (some factory)).stage = .binding [key] := rfl
          rcases bindPending_comes (only factory) between binding stack with ⟨creation, comesOn⟩
          dsimp only
          rw [Program.bind_apply]
          rcases binds : PluginServices.bindPending key (factories factory) between
            with ⟨payload | error | _, later⟩ <;> rw [binds] at comesOn
          · exact ⟨_, rfl, rfl, by rintro _ ⟨⟩, comes.trans comesOn⟩
          · exact ⟨_, rfl, rfl, by rintro _ ⟨⟩, comes.trans comesOn⟩
          · refine ⟨_, rfl, rfl, ?_, comes.trans (comesOn.trans (.goesOn (.returns _ rfl) stack))⟩
            rintro _ ⟨⟩
            rfl

theorem onlyCalls_getServices (only : ∀ factory plugin, OnlyCalls (factories factory plugin))
    (id : String) : OnlyCalls (Registry.getServices factories registry id) := by
  intro world stack free
  rcases getServices_comes only id world stack with ⟨visit, _, outcome, _, comes⟩
  exact (Comes.of_moves (.visits _ stack free)).trans
    (comes.trans (.of_returns (visit.hasEnded_of_outcome outcome) _ stack))

end Calls

/-! ## Conduct -/

namespace OnlyCalls

variable {Other : Type}

theorem of_same {program : Program Host Value}
    (same : ∀ world, Shared.of (program world).2 = Shared.of world) : OnlyCalls program := by
  intro world stack _
  rw [same]
  exact .refl _ stack

theorem bind {program : Program Host Value} {rest : Value → Program Host Other}
    (first : OnlyCalls program) (next : ∀ value, OnlyCalls (rest value)) :
    OnlyCalls (program >>= rest) := by
  intro world stack free
  have comes := first world stack free
  rw [Program.bind_apply]
  rcases running : program world with ⟨payload | value, between⟩ <;> rw [running] at comes
  · exact comes
  · exact comes.trans (next value between stack free)

theorem attempted {program : Program Host Value} (only : OnlyCalls program) :
    OnlyCalls (attempt program) :=
  fun world stack free => only world stack free

end OnlyCalls

section Conducts

variable {factories : Factories (Noted Host)}

theorem onlyCalls_startNoted {factory : Key Factory}
    (only : ∀ plugin, OnlyCalls (factories factory plugin)) (registry : Key Registry) :
    OnlyCalls (Registry.startNoted factories registry factory) := by
  intro world stack free
  have starts : OnlyCalls (Registry.start factories registry factory) := onlyCalls_start only
  have comes := starts world stack free
  rw [Registry.startNoted_apply]
  rcases starting : Registry.start factories registry factory world
    with ⟨payload | error | _, after⟩ <;>
    rw [starting] at comes <;> exact comes

theorem Conduct.onlyCalls (only : ∀ factory plugin, OnlyCalls (factories factory plugin))
    (conduct : Conduct Host Value) : OnlyCalls (conduct.run factories) := by
  induction conduct with
  | ends ending => exact .of_same fun _ => rfl
  | aside step rest induction =>
      have beside : OnlyCalls (Program.besideNotes step.program : Program (Noted Host) Unit) := by
        refine .of_same fun world => ?_
        have services := step.leavesServices world.plain
        have registries := step.leavesRegistries world.plain
        exact congrArg₂ Shared.mk registries services
      exact beside.attempted.bind fun _ =>
        .bind (.of_same fun _ => rfl) fun world => induction world.plain.host
  | binds services factory rest induction =>
      exact (onlyCalls_bind (only factory)).attempted.bind induction
  | gets registry id rest induction =>
      exact (onlyCalls_getServices only id).attempted.bind induction
  | starts registry factory rest induction =>
      exact (onlyCalls_startNoted (only factory) registry).attempted.bind induction

/-- Hosts and their factories only make calls, to whatever depth they do. -/
theorem Makers.onlyCalls (makers : Makers Host) (depth : Nat) (factory : Key Factory)
    (plugin : PluginId) : OnlyCalls (makers.factories depth factory plugin) := by
  induction depth generalizing factory plugin with
  | zero => exact .of_same fun _ => rfl
  | succ depth induction => exact Conduct.onlyCalls induction (makers factory plugin)

end Conducts

end Instrumentation.Callers
