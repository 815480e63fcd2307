import Instrumentation.Proofs.Registry.Start
import Instrumentation.Proofs.Registry.Visits

namespace Instrumentation.Visits

open Binding

/-! Gets and starts are visits. What a call on a registry does, in whatever world and
while whatever other visits are going on, is what one visit does step by step; the
factory may call the registry itself meanwhile, and those calls are visits too. -/

variable {Host Value : Type} {registry : Key Registry}

/-! ## Programs that make visits -/

def Shared.of (world : World Host) (registry : Key Registry)
    (attempts : Key PluginServices → List Attempt) : Shared where
  registry := world.registries.get registry
  services := world.services
  attempts

def Kept (before after : Key PluginServices → List Attempt) : Prop :=
  ∀ (key : Key PluginServices) (index : Nat) (attempt : Attempt),
    (before key)[index]? = some attempt → (after key)[index]? = some attempt

namespace Kept

variable {before between after : Key PluginServices → List Attempt} {key : Key PluginServices}

theorem refl (attempts : Key PluginServices → List Attempt) : Kept attempts attempts :=
  fun _ _ _ there => there

theorem trans (first : Kept before between) (second : Kept between after) : Kept before after :=
  fun key index attempt there => second key index attempt (first key index attempt there)

theorem update (kept : Kept before after) {attempts : List Attempt}
    (same : ∀ index < (before key).length, attempts[index]? = (after key)[index]?) :
    Kept before (Function.update after key attempts) := by
  intro other index attempt there
  have earlier := kept other index attempt there
  by_cases here : other = key
  · subst here
    rw [Function.update_self, same index (List.getElem?_eq_some_iff.mp there).1]
    exact earlier
  · rw [Function.update_of_ne here]
    exact earlier

theorem begun (attempts : Key PluginServices → List Attempt) (key : Key PluginServices) :
    Kept attempts (Function.update attempts key (attempts key ++ [({} : Attempt)])) :=
  (refl attempts).update fun _ within => List.getElem?_append_left within

theorem set (kept : Kept before after) (moved : Attempt) :
    Kept before
      (Function.update after key ((after key).set (before key).length moved)) :=
  kept.update fun _ within => List.getElem?_set_ne (Nat.ne_of_gt within)

theorem there (kept : Kept before after) {index : Nat} {attempt : Attempt}
    (there : (before key)[index]? = some attempt) : (after key)[index]? = some attempt :=
  kept key index attempt there

end Kept

/-- The visit comes to `next` while the world comes to `later`. Other visits may be made
meanwhile, and have ended then. -/
def Reaches (registry : Key Registry) (world : World Host) (visit : Visit)
    (later : World Host) (next : Visit) : Prop :=
  ∀ attempts before behind, ∃ attemptsLater made,
    Kept attempts attemptsLater ∧ (∀ visit ∈ made, visit.HasEnded) ∧
      Scene.Becomes ⟨.of world registry attempts, before ++ visit :: behind⟩
        ⟨.of later registry attemptsLater, before ++ next :: (behind ++ made)⟩

/-- All that the program does to the registry and its instances is visits, which have
ended when it ends. -/
def OnlyVisits (registry : Key Registry) (program : Program Host Value) : Prop :=
  ∀ world attempts visits, ∃ attemptsLater made,
    Kept attempts attemptsLater ∧ (∀ visit ∈ made, visit.HasEnded) ∧
      Scene.Becomes ⟨.of world registry attempts, visits⟩
        ⟨.of (program world).2 registry attemptsLater, visits ++ made⟩

def Creates (registry : Key Registry) (create : Creation Host) : Prop :=
  ∀ plugin, Leads (Orderly registry fun _ => True) Returns (create plugin) ∧
    OnlyVisits registry (create plugin)

namespace Reaches

variable {world between later : World Host} {visit next last : Visit}

theorem refl (world : World Host) (visit : Visit) : Reaches registry world visit world visit := by
  intro attempts before behind
  refine ⟨attempts, [], .refl attempts, List.forall_mem_nil _, ?_⟩
  rw [List.append_nil]

theorem trans (first : Reaches registry world visit between next)
    (second : Reaches registry between next later last) :
    Reaches registry world visit later last := by
  intro attempts before behind
  rcases first attempts before behind with ⟨attemptsBetween, made, kept, ended, path⟩
  rcases second attemptsBetween before (behind ++ made)
    with ⟨attemptsLater, madeLater, keptLater, endedLater, pathLater⟩
  rw [List.append_assoc] at pathLater
  refine ⟨attemptsLater, made ++ madeLater, kept.trans keptLater, ?_, path.trans pathLater⟩
  intro other member
  rcases List.mem_append.mp member with member | member
  · exact ended other member
  · exact endedLater other member

theorem of_moves (moves : ∀ attempts,
    visit.Moves (.of world registry attempts) (.of later registry attempts) next) :
    Reaches registry world visit later next := by
  intro attempts before behind
  refine ⟨attempts, [], .refl attempts, List.forall_mem_nil _, ?_⟩
  rw [List.append_nil]
  exact .single ((moves attempts).among before behind)

end Reaches

theorem onlyVisits_of_reaches (request : Request) {program : Program Host Value}
    (reaches : ∀ world, ∃ visit : Visit, visit.HasEnded ∧
      Reaches registry world { request } (program world).2 visit) :
    OnlyVisits registry program := by
  intro world attempts visits
  rcases reaches world with ⟨visit, ended, reaches⟩
  rcases reaches attempts visits [] with ⟨attemptsLater, made, kept, endedLater, path⟩
  refine ⟨attemptsLater, visit :: made, kept, ?_, .head (.begins request) path⟩
  intro other member
  rcases List.mem_cons.mp member with rfl | member
  · exact ended
  · exact endedLater other member

/-! ## Binds -/

section Binds

variable {visit : Visit} {key : Key PluginServices} {index : Nat}
  {pending : List (Key PluginServices)}

theorem visit_runs (attempting : visit.stage = .attempting key index pending) {shared : Shared}
    {creation : CreationEnding} (returned : ∀ payload, creation ≠ .error payload)
    {first : Attempt} (there : (shared.attempts key)[index]? = some first)
    {after : Table PluginServices × Attempt}
    (runs : Attempt.Runs key creation (shared.services, first) after)
    (before behind : List Visit) :
    Scene.Becomes ⟨shared, before ++ visit :: behind⟩
      ⟨shared.advance after.1 key ((shared.attempts key).set index after.2),
        before ++ visit :: behind⟩ := by
  have within := (List.getElem?_eq_some_iff.mp there).1
  induction runs with
  | refl =>
      have same : (shared.attempts key).set index first = shared.attempts key := by
        rcases List.getElem?_eq_some_iff.mp there with ⟨_, rfl⟩
        exact List.set_getElem_self within
      rw [same, Shared.advance_self]
  | @tail between after _ moves induction =>
      rcases moves with ⟨next, moves, answered, stores⟩
      let reached := shared.advance between.1 key ((shared.attempts key).set index between.2)
      have now : (reached.attempts key)[index]? = some between.2 := by
        rw [Shared.attempts_advance_same]
        exact List.getElem?_set_self within
      have step : visit.Moves reached
          (reached.advance after.1 key ((reached.attempts key).set index after.2)) visit :=
        .goesOn visit key index pending between.2 after.2 next after.1 attempting now moves
          (fun payload same => returned payload (Option.some.inj (answered.symm.trans same)))
          stores
      rw [Shared.attempts_advance_same, Shared.advance_advance, List.set_set] at step
      exact induction.tail (step.among before behind)

def passing : Except Error Unit → Except Error Unit
  | .ok () => .ok ()
  | .error error => if error.kind = .alreadyBound then .ok () else .error error

def Request.onward (request : Request) (pending : List (Key PluginServices)) :
    Except Error Unit → Stage
  | .ok () => .binding pending
  | .error error => request.afterFailure error

theorem visit_after (attempting : visit.stage = .attempting key index pending)
    {shared : Shared} {attempt : Attempt} {result : Except Error Unit}
    (there : (shared.attempts key)[index]? = some attempt)
    (ended : attempt.stage = .ended (.ok result)) :
    visit.Moves shared shared
      { visit with stage := visit.request.onward pending (passing result) } := by
  rcases result with error | _
  · rw [passing]
    by_cases refused : error.kind = .alreadyBound
    · rw [if_pos refused]
      refine .passes visit key index pending attempt _ attempting there ended ?_
      rintro _ ⟨⟩
      exact refused
    · rw [if_neg refused]
      exact .fails visit key index pending attempt error attempting there ended refused
  · exact .passes visit key index pending attempt _ attempting there ended nofun

theorem afterCreation_registries (key : Key PluginServices) (plugin : PluginId)
    (creation : CreationEnding) (left : World Host) :
    (PluginServices.afterCreation key plugin creation left).2.registries = left.registries := by
  rcases creation with payload | cause | engine
  · rfl
  · rfl
  · rw [PluginServices.afterCreation]
    split <;> rfl

theorem afterCreation_returns (key : Key PluginServices) (plugin : PluginId)
    (made : Except Error Engine) (left : World Host) :
    ∃ result later, PluginServices.afterCreation key plugin (.ok made) left =
      (.ok result, later) := by
  rcases made with cause | engine
  · exact ⟨_, _, rfl⟩
  · rw [PluginServices.afterCreation]
    split <;> exact ⟨_, _, rfl⟩

theorem bind_returns {create : Creation Host} (creates : Creates registry create)
    (key : Key PluginServices) (world : World Host) :
    ∃ result later, PluginServices.bind key create world = (.ok result, later) := by
  cases claims : (world.services.get key).claim with
  | none => exact ⟨_, _, PluginServices.bind_of_refused claims⟩
  | some claimed =>
      rcases (creates claimed.plugin).1.returned (world.setServices key claimed)
        with ⟨made, left, runs, _⟩
      rw [PluginServices.bind_of_claimed claims runs]
      exact afterCreation_returns key claimed.plugin made left

structure ComesThrough (registry : Key Registry) (world : World Host) (visit : Visit)
    (key : Key PluginServices) (index : Nat) (attempts : Key PluginServices → List Attempt)
    (before behind : List Visit) (result : Except Error Unit) (later : World Host)
    (attemptsLater : Key PluginServices → List Attempt) (made : List Visit) : Prop where
  attempt : ∃ attempt : Attempt, (attemptsLater key)[index]? = some attempt ∧
    attempt.stage = .ended (.ok result)
  kept : ∀ base, Kept base attempts → (base key).length = index → Kept base attemptsLater
  ended : ∀ visit ∈ made, visit.HasEnded
  path : Scene.Becomes ⟨.of world registry attempts, before ++ visit :: behind⟩
    ⟨.of later registry attemptsLater, before ++ visit :: (behind ++ made)⟩

theorem visit_created (registry : Key Registry)
    (attempting : visit.stage = .attempting key index pending)
    {made : Except Error Engine} {left later : World Host} {result : Except Error Unit}
    (returns : PluginServices.afterCreation key (left.services.get key).plugin (.ok made) left =
      (.ok result, later))
    {attempts : Key PluginServices → List Attempt}
    (there : (attempts key)[index]? = some { stage := .creating, factoryCalls := 1 })
    (before behind : List Visit) :
    ∃ attempt : Attempt, attempt.stage = .ended (.ok result) ∧
      Scene.Becomes ⟨.of left registry attempts, before ++ visit :: behind⟩
        ⟨.of later registry (Function.update attempts key ((attempts key).set index attempt)),
          before ++ visit :: behind⟩ := by
  have answered (payload : Payload) : (.ok made : CreationEnding) ≠ .error payload := nofun
  have registries := afterCreation_registries key (left.services.get key).plugin (.ok made) left
  rcases Attempt.created_runs key (.ok made) left with ⟨attempt, stage, runs⟩
  rw [returns] at stage runs registries
  have now : ((Shared.of left registry attempts).attempts key)[index]? =
      some { stage := .creating, factoryCalls := 1 } := there
  have path := visit_runs attempting answered now runs before behind
  have same : Shared.of later registry
      (Function.update attempts key ((attempts key).set index attempt)) =
      (Shared.of left registry attempts).advance later.services key
        ((attempts key).set index attempt) := by
    rw [Shared.of, registries]
    rfl
  refine ⟨attempt, stage, ?_⟩
  rw [same]
  exact path

theorem refused_comesThrough (registry : Key Registry)
    (attempting : visit.stage = .attempting key index pending) {world : World Host}
    (claims : (world.services.get key).claim = none)
    {attempts : Key PluginServices → List Attempt}
    (there : (attempts key)[index]? = some {}) (before behind : List Visit) :
    let plugin := (world.services.get key).plugin
    ∃ attemptsLater made,
      ComesThrough registry world visit key index attempts before behind
        (.error (PluginServices.refusal plugin)) (world.telling (.boundAgain plugin))
        attemptsLater made := by
  intro plugin
  have within := (List.getElem?_eq_some_iff.mp there).1
  let refused : Attempt :=
    { stage := .ended (.ok (.error (PluginServices.refusal plugin))) }
  have step : visit.Moves (.of world registry attempts)
      ((Shared.of world registry attempts).advance world.services key
        ((attempts key).set index refused)) visit :=
    .goesOn visit key index pending {} refused _ world.services attempting there
      (.refused {} rfl claims) nofun .nothing
  refine ⟨Function.update attempts key ((attempts key).set index refused), [],
    ⟨refused, ?_, rfl⟩, ?_, List.forall_mem_nil _, ?_⟩
  · rw [Function.update_self]
    exact List.getElem?_set_self within
  · rintro base kept rfl
    exact kept.set refused
  · rw [List.append_nil]
    exact .single (step.among before behind)

theorem claimed_comesThrough {create : Creation Host} (creates : Creates registry create)
    (attempting : visit.stage = .attempting key index pending) {world : World Host}
    {claimed : PluginServices} (claims : (world.services.get key).claim = some claimed)
    {attempts : Key PluginServices → List Attempt}
    (there : (attempts key)[index]? = some {}) (before behind : List Visit) :
    ∃ result later attemptsLater made,
      PluginServices.bind key create world = (.ok result, later) ∧
      ComesThrough registry world visit key index attempts before behind result later
        attemptsLater made := by
  have within := (List.getElem?_eq_some_iff.mp there).1
  let creating : Attempt := { stage := .creating, factoryCalls := 1 }
  let claiming := Function.update attempts key ((attempts key).set index creating)
  have step : visit.Moves (.of world registry attempts)
      (.of (world.setServices key claimed) registry claiming) visit :=
    .goesOn visit key index pending {} creating claimed _ attempting there
      (.claims {} claimed rfl claims) nofun (.written claimed)
  have now : claiming key = (attempts key).set index creating := Function.update_self ..
  have claimedThere : (claiming key)[index]? = some creating := by
    rw [now]
    exact List.getElem?_set_self within
  -- The factory runs while the attempt holds the right to bind.
  have ⟨creatingLeads, visits⟩ := creates claimed.plugin
  rcases creatingLeads.returned (world.setServices key claimed)
    with ⟨made, left, runs, _, orderly⟩
  rcases visits (world.setServices key claimed) claiming (before ++ visit :: behind)
    with ⟨attemptsLeft, visitsMade, kept, ended, path⟩
  rw [runs, List.append_assoc] at path
  have stillThere := kept.there claimedThere
  have leftWithin := (List.getElem?_eq_some_iff.mp stillThere).1
  have held : left.services.get key = claimed := by
    have settles := orderly.settles key (world.services.lt_size_put key claimed)
    rw [World.get_setServices] at settles
    rcases PluginServices.claim_eq_some claims with ⟨_, rfl⟩
    exact settles.eq_of_claimed rfl
  rcases afterCreation_returns key claimed.plugin made left with ⟨result, later, returns⟩
  have binds := (PluginServices.bind_of_claimed claims runs).trans returns
  rw [← held] at returns
  rcases visit_created registry attempting returns stillThere before (behind ++ visitsMade)
    with ⟨attempt, stage, last⟩
  refine ⟨result, later, Function.update attemptsLeft key ((attemptsLeft key).set index attempt),
    visitsMade, binds, ⟨attempt, ?_, stage⟩, ?_, ended, ?_⟩
  · rw [Function.update_self]
    exact List.getElem?_set_self leftWithin
  · rintro base keptBase rfl
    exact ((keptBase.set creating).trans kept).set attempt
  · exact .head (step.among before behind) (path.trans last)

theorem bind_comesThrough {create : Creation Host} (creates : Creates registry create)
    (attempting : visit.stage = .attempting key index pending) (world : World Host)
    {attempts : Key PluginServices → List Attempt}
    (there : (attempts key)[index]? = some {}) (before behind : List Visit) :
    ∃ result later attemptsLater made,
      PluginServices.bind key create world = (.ok result, later) ∧
      ComesThrough registry world visit key index attempts before behind result later
        attemptsLater made := by
  cases claims : (world.services.get key).claim with
  | none =>
      rcases refused_comesThrough registry attempting claims there before behind
        with ⟨attemptsLater, made, through⟩
      exact ⟨_, _, attemptsLater, made, PluginServices.bind_of_refused claims, through⟩
  | some claimed => exact claimed_comesThrough creates attempting claims there before behind

/-- The bind of a visit is the attempt that it makes. -/
theorem bind_reaches {create : Creation Host} (creates : Creates registry create)
    (binding : visit.stage = .binding (key :: pending)) (world : World Host)
    (unbound : (world.services.get key).isBound = false) :
    ∃ result later, PluginServices.bind key create world = (.ok result, later) ∧
      Reaches registry world visit later
        { visit with stage := visit.request.onward pending (passing result) } := by
  rcases bind_returns creates key world with ⟨result, later, runs⟩
  refine ⟨result, later, runs, ?_⟩
  intro attempts before behind
  let working : Visit := { visit with stage := .attempting key (attempts key).length pending }
  let beginning := Function.update attempts key (attempts key ++ [({} : Attempt)])
  have begins : visit.Moves (.of world registry attempts) (.of world registry beginning)
      working := .attempts visit key pending binding unbound
  have now : beginning key = attempts key ++ [({} : Attempt)] := Function.update_self ..
  have there : (beginning key)[(attempts key).length]? = some {} := by
    rw [now]
    exact List.getElem?_concat_length
  have attempting : working.stage = .attempting key (attempts key).length pending := rfl
  rcases bind_comesThrough creates attempting world there before behind
    with ⟨_, _, attemptsLater, made, returns, through⟩
  cases runs.symm.trans returns
  rcases through.attempt with ⟨attempt, ended, stage⟩
  have after : working.Moves (.of later registry attemptsLater) (.of later registry attemptsLater)
      { working with stage := working.request.onward pending (passing result) } :=
    visit_after attempting ended stage
  refine ⟨attemptsLater, made, ?_, through.ended, ?_⟩
  · exact through.kept attempts (.begun attempts key) rfl
  · exact .head (begins.among before behind)
      (through.path.tail (after.among before (behind ++ made)))

theorem bindPending_reaches {create : Creation Host} (creates : Creates registry create)
    (binding : visit.stage = .binding (key :: pending)) (world : World Host) :
    ∃ result later, PluginServices.bindPending key create world = (.ok result, later) ∧
      Reaches registry world visit later
        { visit with stage := visit.request.onward pending result } := by
  have reading : PluginServices.read key world = (.ok (world.services.get key), world) := rfl
  rw [PluginServices.bindPending, Program.bind_of_ok reading]
  cases bound : (world.services.get key).isBound with
  | true =>
      refine ⟨_, _, rfl, .of_moves fun attempts => ?_⟩
      exact .skips visit key pending binding bound
  | false =>
      rcases bind_reaches creates binding world bound with ⟨result, later, runs, reaches⟩
      refine ⟨passing result, later, ?_, reaches⟩
      simp only [Bool.false_eq_true, if_false]
      rw [Program.bind_of_ok runs]
      rcases result with error | _
      · dsimp only [passing]
        split <;> rfl
      · rfl

theorem bindAll_reaches {create : Creation Host} (creates : Creates registry create)
    (keys : List (Key PluginServices)) {visit : Visit} (binding : visit.stage = .binding keys)
    (world : World Host) :
    ∃ result later, Registry.bindAll create keys world = (.ok result, later) ∧
      Reaches registry world visit later
        { visit with stage := visit.request.onward [] result } := by
  induction keys generalizing visit world with
  | nil =>
      refine ⟨.ok (), world, rfl, ?_⟩
      rw [Request.onward, ← binding]
      exact .refl world visit
  | cons key rest induction =>
      rcases bindPending_reaches creates binding world with ⟨result, between, runs, reaches⟩
      rw [Registry.bindAll, Program.bind_of_ok runs]
      rcases result with error | _
      · exact ⟨.error error, between, rfl, reaches⟩
      · let bound : Visit := { visit with stage := .binding rest }
        have binding : bound.stage = .binding rest := rfl
        rcases induction binding between with ⟨result, later, runs, reachesOn⟩
        exact ⟨result, later, runs, reaches.trans reachesOn⟩

end Binds

/-! ## Calls on the registry -/

section Calls

variable {factories : Factories Host}

theorem start_reaches {factory : Key Factory} (creates : Creates registry (factories factory))
    (world : World Host) :
    ∃ result later, Registry.start factories registry factory world = (.ok result, later) ∧
      ∃ visit : Visit, visit.stage = .ended result ∧
        Reaches registry world { request := .start factory } later visit := by
  let entering : Visit := { request := .start factory }
  cases started : (world.registries.get registry).isStarted with
  | true =>
      refine ⟨_, _, Registry.start_of_started factories registry factory world started,
        { entering with stage := .ended (.error (.ofKind .alreadyBound)) }, rfl,
        .of_moves fun attempts => ?_⟩
      refine .refused entering factory rfl rfl ?_
      rw [Shared.of, Registry.recordFactory, started]
      rfl
  | false =>
      let accepted : Visit := { entering with stage := .binding (world.registered registry) }
      have binding : accepted.stage = .binding (world.registered registry) := rfl
      have accepts : Reaches registry world entering
          (Registry.accepting registry factory world) accepted := by
        refine .of_moves fun attempts => ?_
        rw [Shared.of, Shared.of, Registry.accepting, World.get_setRegistry]
        refine .accepted entering factory _ _ rfl rfl ?_
        rw [Registry.recordFactory, started]
        rfl
      rcases bindAll_reaches creates (world.registered registry) binding
        (Registry.accepting registry factory world) with ⟨result, later, runs, reaches⟩
      rw [Registry.start_of_not_started factories registry factory world started, runs]
      refine ⟨result, ?_⟩
      rcases result with error | _
      · refine ⟨_, rfl, { accepted with stage := .ended (.error error) }, rfl,
          accepts.trans (reaches.trans (.of_moves fun attempts => ?_))⟩
        rw [Shared.of, Shared.of, World.get_setRegistry]
        exact .takesBack _ factory error rfl rfl
      · refine ⟨_, rfl, { accepted with stage := .ended (.ok ()) }, rfl,
          accepts.trans (reaches.trans (.of_moves fun attempts => ?_))⟩
        exact .returns _ rfl

theorem lookUp_reaches {id : String} {plugin : PluginId} (named : PluginId.ofText id = .ok plugin)
    (world : World Host) :
    ∃ key between,
      Registry.lookUp registry plugin world =
        (.ok (key, (world.registries.get registry).factory), between) ∧
      Reaches registry world { request := .get id } between
        (Visit.finds { request := .get id } key (world.registries.get registry).factory) := by
  let entering : Visit := { request := .get id }
  have reading : Registry.read registry world = (.ok (world.registries.get registry), world) := rfl
  rw [Registry.lookUp, Program.bind_of_ok reading]
  cases found : (world.registries.get registry).find? plugin with
  | some key =>
      refine ⟨key, world, rfl, .of_moves fun attempts => ?_⟩
      exact .finds entering id plugin key rfl rfl named found
  | none =>
      dsimp only
      rw [Program.bind_of_ok (Registry.findOrInsert_of_absent found)]
      let missing : Visit := { entering with stage := .takingIn plugin }
      have misses : Reaches registry world entering world missing :=
        .of_moves fun attempts => .misses entering id plugin rfl rfl named found
      refine ⟨_, _, rfl, misses.trans (.of_moves fun attempts => ?_)⟩
      have taken : (Registry.takingIn registry plugin world).registries.get registry =
          (world.registries.get registry).insert plugin world.services.nextKey :=
        Table.get_put_same _ _ _
      have absent : (Shared.of world registry attempts).registry.find? plugin = none := found
      have step := Visit.Moves.takesIn missing plugin rfl absent
      rw [Shared.of, ← taken] at step
      exact step

theorem getServices_reaches (creates : ∀ factory, Creates registry (factories factory))
    (id : String) (world : World Host) :
    ∃ result later, Registry.getServices factories registry id world = (.ok result, later) ∧
      ∃ visit : Visit, visit.stage = .ended (result.map fun _ => ()) ∧
        (∀ key, result = .ok key → visit.found = some key) ∧
        Reaches registry world { request := .get id } later visit := by
  let entering : Visit := { request := .get id }
  rw [Registry.getServices]
  cases named : PluginId.ofText id with
  | error error =>
      refine ⟨.error error, world, rfl, { entering with stage := .ended (.error error) }, rfl,
        ?_, .of_moves fun attempts => ?_⟩
      · rintro _ ⟨⟩
      · exact .rejected entering id error rfl rfl named
  | ok plugin =>
      rcases lookUp_reaches named world with ⟨key, between, finds, reaches⟩
      dsimp only
      rw [Program.bind_of_ok finds]
      cases recorded : (world.registries.get registry).factory with
      | none =>
          rw [recorded] at reaches
          refine ⟨.ok key, between, rfl, entering.finds key none, rfl, ?_, reaches⟩
          rintro _ ⟨⟩
          rfl
      | some factory =>
          rw [recorded] at reaches
          have binding : (entering.finds key (some factory)).stage = .binding [key] := rfl
          rcases bindPending_reaches (creates factory) binding between
            with ⟨result, later, binds, reachesOn⟩
          dsimp only
          rw [Program.bind_of_ok binds]
          rcases result with error | _
          · refine ⟨.error error, later, rfl, _, ?_, ?_, reaches.trans reachesOn⟩
            · rfl
            · rintro _ ⟨⟩
          · refine ⟨.ok key, later, rfl,
              { entering with found := some key, stage := .ended (.ok ()) }, rfl, ?_,
              reaches.trans (reachesOn.trans (.of_moves fun attempts => .returns _ rfl))⟩
            rintro _ ⟨⟩
            rfl

end Calls

/-! ## Other programs -/

theorem onlyVisits_pure (value : Value) :
    OnlyVisits registry (pure value : Program Host Value) := by
  intro world attempts visits
  refine ⟨attempts, [], .refl attempts, List.forall_mem_nil _, ?_⟩
  rw [List.append_nil]
  exact .refl

theorem creates_answer (answer : Except Error Engine) :
    Creates registry (fun _ => pure answer : Creation Host) := by
  intro plugin
  exact ⟨.pure trivial, onlyVisits_pure answer⟩

/-- Whatever a program does to what the registry has not handed out goes on elsewhere. -/
theorem onlyVisits_of_elsewhere {program : Program Host Value}
    (same : ∀ world, (program world).2.registries.get registry = world.registries.get registry)
    (grows : ∀ world, world.services.size ≤ (program world).2.services.size)
    (kept : ∀ world, ∀ key ∈ world.registered registry,
      (program world).2.services.get key = world.services.get key) :
    OnlyVisits registry program := by
  intro world attempts visits
  refine ⟨attempts, [], .refl attempts, List.forall_mem_nil _, ?_⟩
  rw [List.append_nil, Shared.of, Shared.of, same]
  exact .single (.elsewhere (program world).2.services (grows world) (kept world))

theorem OnlyVisits.bind {Other : Type} {program : Program Host Value}
    {rest : Value → Program Host Other} (first : OnlyVisits registry program)
    (next : ∀ value, OnlyVisits registry (rest value)) :
    OnlyVisits registry (program >>= rest) := by
  intro world attempts visits
  rcases first world attempts visits with ⟨attemptsBetween, made, kept, ended, path⟩
  rcases running : program world with ⟨payload | value, between⟩ <;> rw [running] at path
  · rw [Program.bind_of_error running]
    exact ⟨attemptsBetween, made, kept, ended, path⟩
  · rw [Program.bind_of_ok running]
    rcases next value between attemptsBetween (visits ++ made)
      with ⟨attemptsLater, madeLater, keptLater, endedLater, pathLater⟩
    rw [List.append_assoc] at pathLater
    refine ⟨attemptsLater, made ++ madeLater, kept.trans keptLater, ?_, path.trans pathLater⟩
    intro visit member
    rcases List.mem_append.mp member with member | member
    · exact ended visit member
    · exact endedLater visit member

/-! ## Main statement -/

/-- The calls on a registry do nothing to it and to its instances that visits do not, if
that is so of the factories. -/
theorem calls_are_visits {factories : Factories Host}
    (creates : ∀ factory, Creates registry (factories factory)) :
    (∀ id, OnlyVisits registry (Registry.getServices factories registry id)) ∧
      ∀ factory, OnlyVisits registry (Registry.start factories registry factory) := by
  constructor
  · intro id
    refine onlyVisits_of_reaches (.get id) fun world => ?_
    rcases getServices_reaches creates id world
      with ⟨result, later, runs, visit, ended, _, reaches⟩
    rw [runs]
    exact ⟨visit, ⟨_, ended⟩, reaches⟩
  · intro factory
    refine onlyVisits_of_reaches (.start factory) fun world => ?_
    rcases start_reaches (creates factory) world with ⟨result, later, runs, visit, ended, reaches⟩
    rw [runs]
    exact ⟨visit, ⟨_, ended⟩, reaches⟩

/-- What a program leaves of a registry that was empty is a scene in which no visit goes
on. -/
theorem OnlyVisits.scene {program : Program Host Value} (only : OnlyVisits registry program)
    {world : World Host} {clock : Key Clock}
    (empty : world.registries.get registry = { clock }) :
    ∃ scene, (Scene.opening clock world.services).Becomes scene ∧
      scene.shared.registry = (program world).2.registries.get registry ∧
      scene.shared.services = (program world).2.services ∧
      ∀ visit ∈ scene.visits, visit.HasEnded := by
  rcases only world (fun _ => []) [] with ⟨attempts, made, _, ended, path⟩
  rw [Shared.of, empty] at path
  exact ⟨_, path, rfl, rfl, ended⟩

end Instrumentation.Visits
