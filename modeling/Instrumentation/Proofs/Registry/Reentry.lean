import Instrumentation.Proofs.Registry.Enclosure

namespace Instrumentation.Callers

open Binding

/-! One thread whose factories call the library again, to whatever depth. The right to bind
an instance is taken just while a bind of it is on the stack, or for ever by the one that
succeeded. So a started registry hands out an instance that is not bound only within the
bind of that instance itself. -/

variable {shared later : Shared} {services : Table PluginServices} {stack below : List Frame}
  {key : Key PluginServices} {attempt moved : Attempt} {visit next : Visit}

/-! ## Steps of a bind -/

namespace Governs

variable {later : Table PluginServices} {next : PluginServices}

theorem top (governs : Governs services (.bind key attempt :: below)) :
    Stands services below key attempt :=
  governs.stand.1

theorem unbound_of_unflagged (governs : Governs services stack)
    (unflagged : (services.get key).binding = false) :
    (services.get key).engine = none ∧ key ∉ held stack := by
  have free : ¬IsOrWillBe services stack key := by
    rw [← governs.flagged, unflagged]
    exact Bool.false_ne_true
  refine ⟨?_, fun member => free (.inr member)⟩
  rw [← Option.not_isSome_iff_eq_none]
  exact fun bound => free (.inl bound)

theorem distinct_below {frame : Frame} (distinct : (held (frame :: stack)).Nodup) :
    (held stack).Nodup := by
  rw [held, List.filterMap_cons] at distinct
  split at distinct
  · exact distinct
  · exact distinct.tail

theorem shaped_of_bind (shaped : Shaped (.bind key attempt :: below)) (moved : Attempt) :
    Shaped (.bind key moved :: below) := by
  cases shaped with
  | bind _ _ _ free shaped => exact .bind key moved below free shaped
  | waitedFor _ _ visit stack shaped => exact .waitedFor key moved visit stack shaped

theorem advanced (governs : Governs services (.bind key attempt :: below))
    (stores : Stores services key next later) {plugin : PluginId} {role : Role}
    (plays : Plays plugin role moved) (fits : role.Fits next)
    (spares : next = services.get key ∨ (services.get key).engine = none ∧ key ∉ held below)
    (flagged : next.binding = true ↔
      next.isBound = true ∨ key ∈ held (.bind key moved :: below))
    (distinct : (held (.bind key moved :: below)).Nodup)
    (refused : ∀ error, moved.stage = .ended (.ok (.error error)) → error.kind = .alreadyBound →
      next.isBound = true ∨ key ∈ held below) :
    Governs later (.bind key moved :: below) where
  flagged other := by
    by_cases same : other = key
    · rw [same, IsOrWillBe, stores.get_same]
      exact flagged
    · have before := governs.flagged other
      rw [IsOrWillBe, mem_held_bind same] at before
      rw [IsOrWillBe, mem_held_bind same, stores.get_other same]
      exact before
  distinct := distinct
  stand := by
    have spared : Spares services later below := by
      intro other
      by_cases same : other = key
      · rw [same, stores.get_same]
        exact spares
      · exact .inl (stores.get_other same)
    refine ⟨⟨⟨plugin, role, plays, ?_⟩, ?_⟩, spared.stand governs.stand.2⟩
    · rw [stores.get_same]
      exact fits
    · intro error ended kind
      rw [IsOrWillBe, stores.get_same]
      exact refused error ended kind
  shaped := shaped_of_bind governs.shaped moved

theorem attempts (governs : Governs services (.bind key attempt :: below))
    (moves : attempt.Moves (services.get key) next moved)
    (stores : Stores services key next later) : Governs later (.bind key moved :: below) := by
  rcases governs.top.plays with ⟨plugin, role, plays, fits⟩
  have flagged := governs.flagged key
  have distinct := governs.distinct
  have apart : (held below).Nodup := distinct_below distinct
  cases moves with
  | refused claiming claimed =>
      rcases plays.of_claiming claiming with ⟨rfl, rfl⟩
      have rejected : Plays (services.get key).plugin .idle
          { stage := .ended (.ok (.error (PluginServices.refusal (services.get key).plugin))) } :=
        .refused
      rw [IsOrWillBe, held_of_idle plays] at flagged
      refine governs.advanced stores rejected trivial (.inl rfl) ?_ ?_ ?_
      · rw [held_of_idle rejected]
        exact flagged
      · rw [held_of_idle rejected]
        exact apart
      · intro _ _ _
        refine flagged.1 ?_
        cases binding : (services.get key).binding with
        | true => rfl
        | false => simp [PluginServices.claim, binding] at claimed
  | claims next claiming claims =>
      rcases plays.of_claiming claiming with ⟨rfl, rfl⟩
      rcases PluginServices.claim_eq_some claims with ⟨unclaimed, rfl⟩
      rcases governs.unbound_of_unflagged unclaimed with ⟨unbound, free⟩
      rw [held_of_idle plays] at free
      have begun : Plays plugin .holder { stage := .creating, factoryCalls := 1 } := .creating
      refine governs.advanced stores begun ⟨rfl, unbound⟩ (.inr ⟨unbound, free⟩) ?_ ?_ ?_
      · rw [held_of_holder begun]
        exact ⟨fun _ => .inr List.mem_cons_self, fun _ => rfl⟩
      · rw [held_of_holder begun]
        exact List.nodup_cons.2 ⟨free, apart⟩
      · rintro _ ⟨⟩
  | creates creation creating =>
      rcases plays.of_creating creating with ⟨rfl, rfl⟩
      rw [IsOrWillBe, held_of_holder plays] at flagged
      rw [held_of_holder plays] at distinct
      have created : Plays (services.get key).plugin .holder
          (Attempt.created { stage := .creating, factoryCalls := 1 }
            (services.get key).plugin creation) := by
        rcases creation with payload | cause | engine
        · exact .failing _ _ (.unwound payload)
        · exact .failing _ _ (.failed cause)
        · exact .publishing engine
      refine governs.advanced stores created fits (.inl rfl) ?_ ?_ ?_
      · rw [held_of_holder created]
        exact flagged
      · rw [held_of_holder created]
        exact distinct
      · intro error ended
        rcases creation with payload | cause | engine <;> cases ended
  | publishes engine next publishing publishes =>
      rcases plays.of_publishing publishing with ⟨rfl, rfl⟩
      rcases PluginServices.publish_eq_some publishes with ⟨unbound, rfl⟩
      rw [held_of_holder plays] at distinct
      have published : Plays plugin (.winner engine)
          { stage := .leaving false (.ok (.ok ())), factoryCalls := 1
            creation := some (.ok (.ok engine)) } := .published engine
      refine governs.advanced stores published ⟨fits.1, rfl⟩
        (.inr ⟨unbound, (List.nodup_cons.1 distinct).1⟩) ?_ distinct ?_
      · exact ⟨fun _ => .inl rfl, fun _ => fits.1⟩
      · rintro _ ⟨⟩
  | slotWritten engine publishing written =>
      rcases plays.of_publishing publishing with ⟨rfl, _⟩
      -- No engine is published while an attempt holds the right.
      exact absurd fits.2 (PluginServices.publish_eq_none written)
  | leaves armed ending leaving =>
      cases armed with
      | true =>
          rcases plays.of_armed leaving with ⟨rfl, creation, fails, rfl⟩
          rw [held_of_holder plays] at distinct
          have free : key ∉ held below := (List.nodup_cons.1 distinct).1
          have failed : Plays plugin .idle
              { stage := .ended ending, factoryCalls := 1, creation := some creation } :=
            .failed creation ending fails
          refine governs.advanced stores failed trivial (.inr ⟨fits.2, free⟩) ?_ ?_ ?_
          · rw [held_of_idle failed]
            have unbound : (services.get key).isBound = false :=
              congrArg Option.isSome fits.2
            refine iff_of_false Bool.false_ne_true ?_
            rintro (bound | member)
            · exact Bool.false_ne_true (unbound.symm.trans bound)
            · exact free member
          · rw [held_of_idle failed]
            exact apart
          · intro error ended kind
            cases fails <;> cases ended
            cases kind
      | false =>
          rcases plays.of_disarmed leaving with ⟨rfl, engine, rfl, rfl⟩
          have won : Plays plugin (.winner engine)
              { stage := .ended (.ok (.ok ())), factoryCalls := 1
                creation := some (.ok (.ok engine)) } := .won engine
          refine governs.advanced stores won fits (.inl rfl) ?_ apart ?_
          · exact ⟨fun _ => .inl (Option.isSome_iff_exists.2 ⟨engine, fits.2⟩), fun _ => fits.1⟩
          · rintro _ ⟨⟩

end Governs

/-! ## Steps of calls on registries -/

namespace Visit.Secure

variable {registry : Key Registry} {id : String}

theorem asking (request : Request) (services : Table PluginServices) (below : List Frame) :
    ({ request } : Visit).Secure services below where
  knows := False.elim
  heads _ _ found := nomatch found
  made _ created := nomatch created

/-- Before its bind, a call has no engine from any factory. -/
theorem unmade (secure : visit.Secure services below) (bound : visit.stage ≠ .binding [])
    (ended : visit.stage ≠ .ended (.ok (.ok ()))) (engine : Engine) :
    visit.creation ≠ some (.ok (.ok engine)) :=
  fun created => (secure.made engine created).1.elim bound ended

theorem finds (secure : visit.Secure services below) (bound : visit.stage ≠ .binding [])
    (ended : visit.stage ≠ .ended (.ok (.ok ()))) (key : Key PluginServices)
    (factory : Option (Key Factory)) : (visit.finds key factory).Secure services below where
  knows needs := by
    cases factory with
    | none => exact needs.elim
    | some factory => exact ⟨key, factory, rfl⟩
  heads other found same := by
    cases same
    exact .binding
  made engine created := absurd created (secure.unmade bound ended engine)

theorem before (secure : visit.Secure services below) (bound : visit.stage ≠ .binding [])
    (ended : visit.stage ≠ .ended (.ok (.ok ()))) {stage : Stage}
    (idle : ¬stage.NeedsFactory) (heads : ∀ key secured, stage.Heads key secured) :
    ({ visit with stage } : Visit).Secure services below where
  knows needs := absurd needs idle
  heads key _ _ := heads key _
  made engine created := absurd created (secure.unmade bound ended engine)

theorem moves (secure : visit.Secure shared.services below)
    (asks : visit.request = .get registry id) (moves : visit.Moves shared later next) :
    next.Secure shared.services below := by
  cases moves with
  | rejected target name error _ entering =>
      exact secure.before (by simp [entering]) (by simp [entering]) (fun needs => needs) fun _ _ =>
        .failed error
  | finds target name plugin key _ entering =>
      exact secure.finds (by simp [entering]) (by simp [entering]) key _
  | misses target name plugin _ entering =>
      exact secure.before (by simp [entering]) (by simp [entering]) (fun needs => needs) fun _ _ =>
        .takingIn plugin
  | findsLate target name plugin key _ takingIn =>
      exact secure.finds (by simp [takingIn]) (by simp [takingIn]) key _
  | takesIn target name plugin _ takingIn =>
      exact secure.finds (by simp [takingIn]) (by simp [takingIn]) _ _
  | refused target factory request => cases asks.symm.trans request
  | accepted target factory pending started request => cases asks.symm.trans request
  | takesBack target factory error request => cases asks.symm.trans request
  | skips key pending binding bound =>
      refine ⟨fun _ => secure.knows (binding ▸ trivial), fun found factory finds => ?_,
        fun engine created => ?_⟩
      · have heads := secure.heads found factory finds
        rw [binding] at heads
        cases heads
        exact .bound (.inl bound)
      · exact absurd created (secure.unmade (by simp [binding]) (by simp [binding]) engine)
  | returns binding =>
      refine ⟨False.elim, fun found factory finds => ?_, fun engine created => ?_⟩
      · have heads := secure.heads found factory finds
        rw [binding] at heads
        cases heads with
        | bound secure => exact .returned secure
      · exact ⟨.inr rfl, (secure.made engine created).2⟩

theorem awaits (secure : visit.Secure services below) {pending : List (Key PluginServices)}
    (binding : visit.stage = .binding (key :: pending)) :
    ({ visit with stage := .awaiting key pending } : Visit).Secure services below where
  knows _ := secure.knows (binding ▸ trivial)
  heads found factory finds := by
    have heads := secure.heads found factory finds
    rw [binding] at heads
    cases heads
    exact .awaiting
  made engine created :=
    absurd created (secure.unmade (by simp [binding]) (by simp [binding]) engine)

theorem answered (secure : visit.Secure services below) (asks : visit.request = .get registry id)
    {pending : List (Key PluginServices)} (awaiting : visit.stage = .awaiting key pending)
    {ending : BindEnding} (ended : attempt.stage = .ended ending)
    (stands : Stands services below key attempt) :
    (visit.answered pending attempt.creation ending).Secure services below := by
  rcases secure.knows (awaiting ▸ trivial) with ⟨known, factory, finds⟩
  have heads := secure.heads known factory finds
  rw [awaiting] at heads
  cases heads
  rcases stands.plays with ⟨plugin, role, plays, fits⟩
  refine ⟨fun _ => ⟨key, factory, finds⟩, fun found other same => ?_, fun engine created => ?_⟩
  · cases finds.symm.trans same
    rw [Visit.answered, asks]
    rcases ending with payload | error | _
    · exact .unwound payload
    · by_cases kind : error.kind = .alreadyBound
      · simp only [excused, if_pos kind]
        exact .bound (stands.refused error ended kind)
      · simp only [excused, if_neg kind]
        exact .failed error
    · rcases plays.of_ended_ok ended with ⟨engine, rfl, _⟩
      exact .bound (.inl (Option.isSome_iff_exists.2 ⟨engine, fits.2⟩))
  · rcases plays.of_made ended created with ⟨rfl, rfl⟩
    exact ⟨.inl rfl, _, finds, fits.2⟩

end Visit.Secure

/-! ## Runs -/

namespace Governs

theorem get_add_beyond (services : Table PluginServices) (new : PluginServices)
    (beyond : services.size ≤ key.index) :
    (services.add new).get key = new ∨ (services.add new).get key = default := by
  rcases Nat.eq_or_lt_of_le beyond with same | further
  · have isNext : key = services.nextKey := by
      cases key
      exact congrArg Key.mk same.symm
    rw [isNext]
    exact .inl (services.get_add_nextKey new)
  · refine .inr (Table.get_beyond _ ?_)
    rw [Table.size_add]
    exact further

theorem added (governs : Governs services stack) (plugin : PluginId) (clock : Key Clock) :
    Governs (services.add { plugin, clock }) stack where
  flagged key := by
    rcases Nat.lt_or_ge key.index services.size with within | beyond
    · rw [IsOrWillBe, services.get_add_other _ within]
      exact governs.flagged key
    · have absent : services.get key = default := services.get_beyond beyond
      have free : key ∉ held stack := (governs.unbound_of_unflagged (by rw [absent]; rfl)).2
      refine iff_of_false ?_ ?_
      · rcases get_add_beyond services { plugin, clock } beyond with same | same <;>
          rw [same] <;> exact Bool.false_ne_true
      · rintro (bound | member)
        · rcases get_add_beyond services { plugin, clock } beyond with same | same <;>
            rw [same] at bound <;> cases bound
        · exact free member
  distinct := governs.distinct
  stand := (Spares.add (fun key member => (governs.flagged key).2 (.inr member)) _).stand
    governs.stand
  shaped := governs.shaped

theorem same_held (governs : Governs services stack) {stackLater : List Frame}
    (held : held stackLater = held stack) (stand : Stand services stackLater)
    (shaped : Shaped stackLater) : Governs services stackLater where
  flagged key := by
    rw [IsOrWillBe, held]
    exact governs.flagged key
  distinct := held ▸ governs.distinct
  stand := stand
  shaped := shaped

theorem visited (governs : Governs shared.services (.visit visit :: below))
    (moves : visit.Moves shared later next) : Governs later.services (.visit next :: below) := by
  have secure : Stand shared.services (.visit next :: below) := by
    refine ⟨fun registry id asks => ?_, governs.stand.2⟩
    have asked := moves.same_request.symm.trans asks
    exact (governs.stand.1 registry id asked).moves asked moves
  have shaped : Shaped (.visit next :: below) := by
    cases governs.shaped with
    | visit _ _ free shaped => exact .visit next below free shaped
  have goesOn : Governs shared.services (.visit next :: below) :=
    governs.same_held rfl secure shaped
  cases moves with
  | takesIn => exact goesOn.added _ _
  | rejected | finds | misses | findsLate | refused | accepted | skips | takesBack | returns =>
      exact goesOn

theorem tail_of_shaped (shaped : Shaped (.visit visit :: below)) : IsFree below ∧ Shaped below := by
  cases shaped with
  | visit _ _ free shaped => exact ⟨free, shaped⟩

theorem idle_of_ended {ending : BindEnding} (ended : attempt.stage = .ended ending)
    (key : Key PluginServices) (stack : List Frame) :
    held (.bind key attempt :: stack) = held stack := by
  simp [held, Frame.held?, ended]

/-- Whatever step a thread makes, all is well after it. -/
theorem moves {stackLater : List Frame} (governs : Governs shared.services stack)
    (moves : Moves shared stack later stackLater) : Governs later.services stackLater := by
  cases moves with
  | visits request _ free =>
      exact governs.same_held rfl ⟨fun _ _ _ => .asking request _ _, governs.stand⟩
        (.visit _ _ free governs.shaped)
  | binds key _ free =>
      refine governs.same_held rfl ⟨⟨⟨default, .idle, .waiting, trivial⟩, nofun⟩, governs.stand⟩
        (.bind key {} _ free governs.shaped)
  | goesOn visit next _ stack moves => exact governs.visited moves
  | awaits visit key pending stack binding unbound =>
      refine governs.same_held rfl ⟨⟨⟨default, .idle, .waiting, trivial⟩, nofun⟩,
        fun registry id asks => (governs.stand.1 registry id asks).awaits binding,
        governs.stand.2⟩ (.waitedFor key {} _ stack ?_)
      have ⟨free, shaped⟩ := tail_of_shaped governs.shaped
      exact .visit _ stack free shaped
  | attempts key attempt moved next services stack moves stores =>
      exact governs.attempts moves stores
  | answers key attempt ending visit pending stack ended awaiting =>
      refine governs.same_held (idle_of_ended ended key _).symm ⟨fun registry id asks => ?_,
        governs.stand.2.2⟩ ?_
      · have asked : visit.request = .get registry id := asks
        exact (governs.stand.2.1 registry id asked).answered asked awaiting ended
          ⟨governs.top.plays, governs.top.refused⟩
      · cases governs.shaped with
        | bind _ _ _ free => exact free.elim
        | waitedFor _ _ _ _ shaped =>
            have ⟨free, shaped⟩ := tail_of_shaped shaped
            exact .visit _ stack free shaped
  | leaves key attempt ending _ ended free =>
      refine governs.same_held (idle_of_ended ended key _).symm governs.stand.2 ?_
      cases governs.shaped with
      | bind _ _ _ _ shaped => exact shaped
      | waitedFor => exact free.elim

theorem opening (settled : ∀ key, (services.get key).IsSettled) : Governs services [] where
  flagged key := by
    rw [IsOrWillBe, settled key]
    exact ⟨.inl, fun will => will.resolve_right List.not_mem_nil⟩
  distinct := List.nodup_nil
  stand := trivial
  shaped := .nil

variable {thread : ThreadId} {scene sceneLater : Scene}

theorem step (governs : Governs scene.shared.services (scene.frames thread))
    (step : scene.Step thread sceneLater) :
    Governs sceneLater.shared.services (sceneLater.frames thread) := by
  cases step with
  | moves shared stack moves =>
      rw [Scene.frames_after_same]
      exact governs.moves moves
  | returns visit stack there ended =>
      rw [there] at governs
      rw [Scene.frames_after_same]
      exact governs.same_held rfl governs.stand.2 (tail_of_shaped governs.shaped).2
  | makes plugin clock => exact governs.added plugin clock

theorem becomesOn (governs : Governs scene.shared.services (scene.frames thread))
    (becomes : scene.BecomesOn thread sceneLater) :
    Governs sceneLater.shared.services (sceneLater.frames thread) := by
  induction becomes with
  | refl => exact governs
  | tail _ step induction => exact induction.step step

end Governs

/-! ## Main statement -/

structure Scene.Guards (scene : Scene) (thread : ThreadId) : Prop where
  flag : ∀ key, (scene.shared.services.get key).binding = true ↔
    (scene.shared.services.get key).isBound = true ∨
      ∃ attempt, .bind key attempt ∈ scene.frames thread ∧ attempt.Inside
  /-- Where a factory runs, or nothing of the library, each bind on the stack has taken the
  right and not given it back. -/
  inside : IsFree (scene.frames thread) → ∀ key attempt,
    .bind key attempt ∈ scene.frames thread → attempt.Inside
  handedOut : ∀ visit below registry id key factory,
    scene.frames thread = .visit visit :: below → visit.request = .get registry id →
    visit.outcome? = some (.ok (.ok key)) → visit.found = some ⟨key, some factory⟩ →
    (scene.shared.services.get key).isBound = true ∨ ∃ attempt, .bind key attempt ∈ below
  /-- A call whose factory made an engine returns its instance bound to that engine. -/
  made : ∀ visit below registry id engine,
    scene.frames thread = .visit visit :: below → visit.request = .get registry id →
    visit.HasEnded → visit.creation = some (.ok (.ok engine)) →
    ∃ key, visit.outcome? = some (.ok (.ok key)) ∧
      (scene.shared.services.get key).engine = some engine

theorem Governs.guards {scene : Scene} {thread : ThreadId}
    (governs : Governs scene.shared.services (scene.frames thread)) : scene.Guards thread where
  flag key := by
    rw [governs.flagged, IsOrWillBe, mem_held_iff]
  inside free key attempt member := by
    refine governs.shaped.inside (fun other made rest same => ?_) member
    rw [same] at free
    exact free
  handedOut visit below registry id key factory there asks returned finds := by
    rw [there] at governs
    have heads := (governs.stand.1 registry id asks).heads key factory finds
    rw [Visit.stage_of_returned returned] at heads
    cases heads with
    | returned secure =>
        exact secure.imp_right fun member =>
          (mem_held_iff.1 member).imp fun _ inside => inside.1
  made visit below registry id engine there asks ended created := by
    rw [there] at governs
    have ⟨stage, found, finds, bound⟩ := (governs.stand.1 registry id asks).made engine created
    rcases ended with ⟨ending, ended⟩
    rcases stage with stage | stage
    · cases ended.symm.trans stage
    · refine ⟨found.services, ?_, bound⟩
      rw [Visit.outcome?, stage, finds]
      rfl

theorem Comes.opening (comes : Comes shared [] later stack) (thread : ThreadId) :
    ∃ scene, (Scene.opening shared.registries shared.services).BecomesOn thread scene ∧
      scene.shared = later ∧ scene.frames thread = stack := by
  let nowhere : ThreadId → List Frame := fun _ => []
  have there : nowhere thread = [] := rfl
  rcases comes.among there [] with ⟨made, path⟩
  exact ⟨_, path, rfl, by simp⟩

theorem guards_of_becomesOn {registries : Table Registry}
    (settled : ∀ key, (services.get key).IsSettled) {thread : ThreadId} {scene : Scene}
    (becomes : (Scene.opening registries services).BecomesOn thread scene) :
    scene.Guards thread :=
  ((Governs.opening settled).becomesOn becomes).guards

theorem getServices_at_rest {Host : Type} {factories : Factories Host}
    (only : ∀ factory plugin, OnlyCalls (factories factory plugin)) {world : World Host}
    (settled : ∀ key, (world.services.get key).IsSettled) (registry : Key Registry)
    (id : String) :
    let ended := Registry.getServices factories registry id world
    (∀ key, (ended.2.services.get key).IsSettled) ∧
      ∀ key, (world.registries.get registry).isStarted → ended.1 = .ok (.ok key) →
        (ended.2.services.get key).isBound = true := by
  intro ended
  rcases getServices_comes only id world [] with ⟨visit, asks, outcome, finds, comes⟩
  have enters : Comes (.of world) [] (.of world) [.visit { request := .get registry id }] :=
    .of_moves (.visits _ [] trivial)
  rcases (enters.trans comes).opening ⟨0⟩ with ⟨scene, path, shared, there⟩
  have guards := guards_of_becomesOn settled path
  have services : scene.shared.services = ended.2.services := congrArg Shared.services shared
  constructor
  · intro key
    have unbinding : ¬∃ attempt, .bind key attempt ∈ scene.frames ⟨0⟩ ∧ attempt.Inside := by
      rw [there]
      rintro ⟨attempt, member, _⟩
      cases List.mem_singleton.1 member
    rw [PluginServices.IsSettled, Bool.eq_iff_iff, ← services, guards.flag]
    exact or_iff_left unbinding
  · intro key started returned
    rcases Option.isSome_iff_exists.1 started with ⟨factory, recorded⟩
    have found := finds key returned
    rw [recorded] at found
    rcases guards.handedOut visit [] registry id key factory there asks (returned ▸ outcome) found
      with bound | ⟨attempt, member⟩
    · rw [← services]
      exact bound
    · cases member

/-- A thread that is alone is handed out an instance by a started registry that is not bound
only within the bind of that instance. -/
theorem unbound_only_within_own_bind (Host : Type) (registries : Table Registry)
    (services : Table PluginServices) (settled : ∀ key, (services.get key).IsSettled)
    (thread : ThreadId) :
    (∀ scene, (Scene.opening registries services).BecomesOn thread scene → scene.Guards thread) ∧
      ∀ (factories : Factories Host), (∀ factory plugin, OnlyCalls (factories factory plugin)) →
        ∀ world : World Host, world.services = services → ∀ registry id,
          let ended := Registry.getServices factories registry id world
          (∀ key, (ended.2.services.get key).IsSettled) ∧
            ∀ key, (world.registries.get registry).isStarted → ended.1 = .ok (.ok key) →
              (ended.2.services.get key).isBound = true := by
  refine ⟨fun scene becomes => guards_of_becomesOn settled becomes, ?_⟩
  rintro factories only world rfl registry id
  exact getServices_at_rest only settled registry id

def startedWorld : World (Noted Unit) where
  services := ⟨[{ plugin := default, clock := ⟨0⟩ }]⟩
  registries := ⟨[({ clock := ⟨0⟩, factory := some ⟨0⟩ } : Registry).insert default ⟨0⟩]⟩
  host := ((), [])

theorem settled_startedWorld (key : Key PluginServices) :
    (startedWorld.services.get key).IsSettled := by
  rcases key with ⟨_ | index⟩ <;> rfl

def askingMakers : Makers Unit
  | _, _ => .gets ⟨0⟩ "plugin" fun _ => .ends (.ok (.ok (.recorder ⟨0⟩)))

def asking : Visit where
  request := .get ⟨0⟩ "plugin"

def askedWithin : Visit :=
  { asking with found := some ⟨⟨0⟩, some ⟨0⟩⟩, stage := .ended (.ok (.ok ())) }

def waiting : Visit :=
  { asking with found := some ⟨⟨0⟩, some ⟨0⟩⟩, stage := .awaiting ⟨0⟩ [] }

def claimed : Shared :=
  .of (startedWorld.setServices ⟨0⟩ { plugin := default, clock := ⟨0⟩, binding := true })

theorem asks_for_bind {shared : Shared} (free : IsFree stack)
    (found : (shared.registry ⟨0⟩).find? default = some ⟨0⟩)
    (started : (shared.registry ⟨0⟩).factory = some ⟨0⟩)
    (unbound : (shared.services.get ⟨0⟩).isBound = false) :
    Comes shared stack shared (.bind ⟨0⟩ {} :: .visit waiting :: stack) := by
  have asks : Comes shared stack shared (.visit asking :: stack) :=
    .of_moves (.visits asking.request stack free)
  have finds : asking.Moves shared shared (asking.finds ⟨0⟩ (some ⟨0⟩)) := by
    rw [← started]
    exact .finds asking ⟨0⟩ "plugin" default ⟨0⟩ rfl rfl rfl found
  exact asks.trans ((Comes.goesOn finds stack).trans
    (.of_moves (.awaits _ ⟨0⟩ [] stack rfl unbound)))

theorem comes_askedWithin :
    Comes (.of startedWorld) [] claimed [.visit askedWithin,
      .bind ⟨0⟩ { stage := .creating, factoryCalls := 1 }, .visit waiting] := by
  let outer : List Frame := [.visit waiting]
  let within : List Frame := .bind ⟨0⟩ { stage := .creating, factoryCalls := 1 } :: outer
  have claims : Comes (.of startedWorld) (.bind ⟨0⟩ {} :: outer) claimed within :=
    .of_moves (.attempts ⟨0⟩ {} _ _ _ outer (.claims {} _ rfl rfl) (.written _))
  -- The bind of the second call is refused, as the first one goes on.
  have refused : Comes claimed (.bind ⟨0⟩ {} :: .visit waiting :: within) claimed
      (.bind ⟨0⟩ { stage := .ended (.ok (.error (PluginServices.refusal default))) } ::
        .visit waiting :: within) :=
    .of_moves (.attempts ⟨0⟩ {} _ _ _ _ (.refused {} rfl rfl) .nothing)
  have excused : Comes claimed
      (.bind ⟨0⟩ { stage := .ended (.ok (.error (PluginServices.refusal default))) } ::
        .visit waiting :: within) claimed (.visit askedWithin :: within) :=
    (Comes.of_moves (.answers ⟨0⟩ _ _ waiting [] within rfl rfl)).trans
      (.goesOn (.returns _ rfl) within)
  have first : Comes (.of startedWorld) [] (.of startedWorld) (.bind ⟨0⟩ {} :: outer) :=
    asks_for_bind trivial rfl rfl rfl
  have second : Comes claimed within claimed (.bind ⟨0⟩ {} :: .visit waiting :: within) :=
    asks_for_bind rfl rfl rfl rfl
  exact first.trans (claims.trans (second.trans (refused.trans excused)))

/-- A factory that asks for the instance that it is to make an engine for gets it unbound,
within its bind; and who asked first gets it bound. -/
theorem factory_gets_own_instance_unbound :
    (∃ scene, (Scene.opening startedWorld.registries startedWorld.services).BecomesOn ⟨0⟩ scene ∧
      ∃ below, scene.frames ⟨0⟩ = .visit askedWithin :: below ∧
        (scene.shared.services.get ⟨0⟩).isBound = false ∧
        ∃ attempt, .bind ⟨0⟩ attempt ∈ below) ∧
      let ended := Registry.getServices (askingMakers.factories 2) ⟨0⟩ "plugin" startedWorld
      ended.1 = .ok (.ok ⟨0⟩) ∧ (ended.2.services.get ⟨0⟩).isBound = true := by
  have ⟨guards, ended⟩ := unbound_only_within_own_bind (Noted Unit)
    startedWorld.registries startedWorld.services settled_startedWorld ⟨0⟩
  constructor
  · rcases comes_askedWithin.opening ⟨0⟩ with ⟨scene, path, shared, there⟩
    have unbound : (scene.shared.services.get ⟨0⟩).isBound = false := by
      rw [shared]
      rfl
    refine ⟨scene, path, _, there, unbound, ?_⟩
    rcases (guards scene path).handedOut askedWithin _ ⟨0⟩ "plugin" ⟨0⟩ ⟨0⟩ there rfl rfl rfl
      with bound | within
    · cases unbound.symm.trans bound
    · exact within
  · have only := Makers.onlyCalls askingMakers 2
    have returns : (Registry.getServices (askingMakers.factories 2) ⟨0⟩ "plugin" startedWorld).1 =
        .ok (.ok ⟨0⟩) := rfl
    exact ⟨returns, (ended _ only startedWorld rfl ⟨0⟩ "plugin").2 ⟨0⟩ rfl returns⟩

end Instrumentation.Callers
