import Instrumentation.Proofs.Registry.Stacks
import Instrumentation.Proofs.Text.ByteOrder
import Instrumentation.Proofs.Text.Identities

namespace Instrumentation

/-! One instance for each plugin. Which instance a registry hands out is told by the trimmed
spelling of an identity alone, for ever: whoever asks for it first, and whatever becomes of
the binds of the instance and of the starts of the registry. -/

namespace Callers

open Binding

variable {shared later : Shared} {visit next : Visit} {registry : Key Registry} {id : String}

/-! ## Calls that ask for an instance -/

def Stage.HasLooked : Stage → Prop
  | .entering | .takingIn _ => False
  | .binding _ | .awaiting _ _ | .takingBack _ | .ended _ => True

/-- What a call has found that asks a registry for the instance of a plugin. -/
inductive Visit.Seeks (state : Registry) (id : String) (visit : Visit) : Prop
  | entering (entering : visit.stage = .entering) (unfound : visit.found = none)
  | takingIn (plugin : PluginId) (named : PluginId.ofText id = .ok plugin)
      (takingIn : visit.stage = .takingIn plugin) (unfound : visit.found = none)
  | rejected (error : Error) (rejects : PluginId.ofText id = .error error)
      (ended : visit.stage = .ended (.ok (.error error))) (unfound : visit.found = none)
  | found (plugin : PluginId) (found : Found) (named : PluginId.ofText id = .ok plugin)
      (finds : visit.found = some found) (is : state.find? plugin = some found.services)
      (looked : visit.stage.HasLooked)

namespace Visit.Seeks

theorem hasLooked_finds (visit : Visit) (services : Key PluginServices)
    (factory : Option (Key Factory)) : (visit.finds services factory).stage.HasLooked := by
  cases factory <;> trivial

theorem hasLooked_answered (visit : Visit) (pending : List (Key PluginServices))
    (creation : Option CreationEnding) (ending : BindEnding) :
    (visit.answered pending creation ending).stage.HasLooked := by
  rw [answered]
  rcases excused ending with payload | error | _
  · trivial
  · cases visit.request <;> trivial
  · trivial

theorem kept (seeks : visit.Seeks (shared.registry registry) id) (keeps : shared.Keeps later) :
    visit.Seeks (later.registry registry) id := by
  cases seeks with
  | entering entering unfound => exact .entering entering unfound
  | takingIn plugin named takingIn unfound => exact .takingIn plugin named takingIn unfound
  | rejected error rejects ended unfound => exact .rejected error rejects ended unfound
  | found plugin found named finds is looked =>
      exact .found plugin found named finds (keeps.registered registry plugin _ is) looked

theorem takingIn_named (seeks : visit.Seeks (shared.registry registry) id) {plugin : PluginId}
    (takingIn : visit.stage = .takingIn plugin) : PluginId.ofText id = .ok plugin := by
  cases seeks with
  | entering entering => cases takingIn.symm.trans entering
  | takingIn plugin named stage =>
      cases takingIn.symm.trans stage
      exact named
  | rejected error rejects ended => cases takingIn.symm.trans ended
  | found plugin found named finds is looked =>
      rw [takingIn] at looked
      exact looked.elim

theorem past (seeks : visit.Seeks (shared.registry registry) id) (looked : visit.stage.HasLooked)
    (goesOn : ∀ ending, visit.stage ≠ .ended ending) (same : next.found = visit.found)
    (looksOn : next.stage.HasLooked) : next.Seeks (shared.registry registry) id := by
  cases seeks with
  | entering entering => rw [entering] at looked; exact looked.elim
  | takingIn plugin named takingIn => rw [takingIn] at looked; exact looked.elim
  | rejected error rejects ended => exact absurd ended (goesOn _)
  | found plugin found named finds is =>
      exact .found plugin found named (same.trans finds) is looksOn

theorem moves (seeks : visit.Seeks (shared.registry registry) id)
    (asks : visit.request = .get registry id) (moves : visit.Moves shared later next)
    (keeps : shared.Keeps later) : next.Seeks (later.registry registry) id := by
  cases moves with
  | rejected target other error request entering rejects =>
      cases asks.symm.trans request
      cases seeks with
      | entering _ unfound => exact .rejected error rejects rfl unfound
      | takingIn _ _ takingIn => cases entering.symm.trans takingIn
      | rejected _ _ ended => cases entering.symm.trans ended
      | found _ _ _ _ _ looked => rw [entering] at looked; exact looked.elim
  | finds target other plugin services request entering named found =>
      cases asks.symm.trans request
      exact .found plugin _ named rfl found (hasLooked_finds ..)
  | misses target other plugin request entering named missing =>
      cases asks.symm.trans request
      cases seeks with
      | entering _ unfound => exact .takingIn plugin named rfl unfound
      | takingIn _ _ takingIn => cases entering.symm.trans takingIn
      | rejected _ _ ended => cases entering.symm.trans ended
      | found _ _ _ _ _ looked => rw [entering] at looked; exact looked.elim
  | findsLate target other plugin services request takingIn found =>
      cases asks.symm.trans request
      exact .found plugin _ (seeks.takingIn_named takingIn) rfl found (hasLooked_finds ..)
  | takesIn target other plugin request takingIn missing =>
      cases asks.symm.trans request
      refine .found plugin _ (seeks.takingIn_named takingIn) rfl ?_ (hasLooked_finds ..)
      rw [Shared.Grows.find?_takesIn, if_pos ⟨rfl, rfl⟩]
  | refused target factory request => cases asks.symm.trans request
  | accepted target factory pending started request => cases asks.symm.trans request
  | takesBack target factory error request => cases asks.symm.trans request
  | skips services pending binding bound =>
      exact seeks.past (by rw [binding]; trivial) (by simp [binding]) rfl trivial
  | returns binding =>
      exact seeks.past (by rw [binding]; trivial) (by simp [binding]) rfl trivial

theorem follows (seeks : visit.Seeks (shared.registry registry) id)
    (asks : visit.request = .get registry id) (follows : visit.Follows shared later next)
    (keeps : shared.Keeps later) : next.Seeks (later.registry registry) id := by
  cases follows with
  | stays => exact seeks.kept keeps
  | moves _ moves => exact seeks.moves asks moves keeps
  | awaits key pending binding =>
      have awaits : Seeks (shared.registry registry) id
          { visit with stage := .awaiting key pending } :=
        seeks.past (by rw [binding]; trivial) (by simp [binding]) rfl trivial
      exact awaits.kept keeps
  | answered key pending creation ending awaiting =>
      have answered : Seeks (shared.registry registry) id
          (visit.answered pending creation ending) :=
        seeks.past (by rw [awaiting]; trivial) (by simp [awaiting]) rfl (hasLooked_answered ..)
      exact answered.kept keeps

end Visit.Seeks

/-! ## The calls of all threads -/

namespace Scene

variable {scene later : Scene} {thread : ThreadId}

structure Filed (scene : Scene) (registry : Key Registry) : Prop where
  placed : scene.shared.Placed registry
  seeks : ∀ visit id, scene.Made visit → visit.request = .get registry id →
    visit.Seeks (scene.shared.registry registry) id
  asked : ∀ text ∈ (scene.shared.registry registry).pluginIds, ∃ visit id plugin,
    scene.Made visit ∧ visit.request = .get registry id ∧ PluginId.ofText id = .ok plugin ∧
      plugin.text = text
  ended : ∀ visit ∈ scene.past, visit.HasEnded

namespace Filed

theorem step (filed : scene.Filed registry) (step : scene.Step thread later) :
    later.Filed registry where
  placed := step.grows.placed filed.placed
  seeks next id made asks := by
    rcases step.from made with ⟨request, rfl⟩ | ⟨visit, made, follows⟩
    · exact .entering rfl rfl
    · have asked := follows.same_request.symm.trans asks
      exact (filed.seeks visit id made asked).follows asked follows step.grows.keeps
  asked text member := by
    obtain ⟨visit, id, plugin, made, asks, named, text⟩ :
        ∃ visit id plugin, scene.Made visit ∧ visit.request = .get registry id ∧
          PluginId.ofText id = .ok plugin ∧ plugin.text = text := by
      rcases step.grows.asked member with earlier | ⟨visit, id, plugin, made, asks, takingIn, text⟩
      · exact filed.asked text earlier
      · exact ⟨visit, id, plugin, made, asks,
          (filed.seeks visit id made asks).takingIn_named takingIn, text⟩
    rcases step.to made with ⟨next, made, request⟩
    exact ⟨next, id, plugin, made, request.trans asks, named, text⟩
  ended visit returned := by
    cases step with
    | moves => exact filed.ended visit returned
    | makes => exact filed.ended visit returned
    | returns returning stack there ended =>
        rcases List.mem_append.1 returned with earlier | last
        · exact filed.ended visit earlier
        · rw [List.mem_singleton.1 last]
          exact ended

theorem opening (services : Table PluginServices) {registries : Table Registry}
    (empty : (registries.get registry).services = .empty) :
    (Scene.opening registries services).Filed registry where
  placed plugin key found := by
    have found : (registries.get registry).services.find? plugin.text = some key := found
    rw [empty] at found
    cases found
  seeks visit id made := by
    rcases made with returned | ⟨thread, member⟩
    · cases returned
    · cases member
  asked text member := by
    have none : text ∈ (registries.get registry).services.keys := member
    rw [empty] at none
    cases none
  ended visit returned := by cases returned

theorem becomes (filed : scene.Filed registry) (becomes : scene.Becomes later) :
    later.Filed registry := by
  induction becomes with
  | refl => exact filed
  | tail _ step induction =>
      rcases step with ⟨thread, step⟩
      exact induction.step step

end Filed

end Scene

namespace Visit.Seeks

variable {state : Registry}

theorem ended (seeks : visit.Seeks state id) (ended : visit.HasEnded) :
    (Text.trim id.toList = [] ∧ visit.outcome? = some (.ok (.error PluginId.blankId))) ∨
      ∃ plugin found, PluginId.ofText id = .ok plugin ∧ visit.found = some found ∧
        state.find? plugin = some found.services := by
  rcases ended with ⟨ending, ended⟩
  cases seeks with
  | entering entering => cases ended.symm.trans entering
  | takingIn plugin named takingIn => cases ended.symm.trans takingIn
  | rejected error rejects stage =>
      have ⟨blank, same⟩ := PluginId.ofText_eq_error_iff.1 rejects
      refine .inl ⟨blank, ?_⟩
      rw [outcome?, stage, same]
  | found plugin found named finds is => exact .inr ⟨plugin, found, named, finds, is⟩

theorem outcome?_isSome (seeks : visit.Seeks state id) (ended : visit.HasEnded) :
    visit.outcome?.isSome := by
  rcases seeks.ended ended with ⟨_, outcome⟩ | ⟨plugin, found, _, finds, _⟩
  · rw [outcome]
    rfl
  · rcases ended with ⟨payload | error | _, ended⟩
    · rw [outcome?, ended]
      rfl
    · rw [outcome?, ended]
      rfl
    · rw [outcome?, ended, finds]
      rfl

/-- A call that returned an instance returned the one of the plugin that it named. -/
theorem returned (seeks : visit.Seeks state id) {key : Key PluginServices}
    (returned : visit.outcome? = some (.ok (.ok key))) :
    ∃ plugin, PluginId.ofText id = .ok plugin ∧ state.find? plugin = some key := by
  rw [outcome?] at returned
  split at returned
  · cases returned
  · cases returned
  · next ended =>
      rcases seeks.ended ⟨_, ended⟩ with ⟨_, outcome⟩ | ⟨plugin, found, named, finds, is⟩
      · rw [outcome?, ended] at outcome
        cases outcome.symm.trans returned
      · rw [finds] at returned
        cases returned
        exact ⟨plugin, named, is⟩
  · cases returned

end Visit.Seeks

/-! ## Main statement -/

structure Scene.HasOneEach (scene : Scene) (registry : Key Registry) : Prop where
  /-- Two calls returned one instance just if they named one plugin. -/
  same : ∀ visit other id name key otherKey, scene.Made visit → scene.Made other →
    visit.request = .get registry id → other.request = .get registry name →
    visit.outcome? = some (.ok (.ok key)) → other.outcome? = some (.ok (.ok otherKey)) →
    (key = otherKey ↔ Text.trim id.toList = Text.trim name.toList)
  own : ∀ plugin key, (scene.shared.registry registry).find? plugin = some key →
    (scene.shared.services.get key).plugin = plugin
  lasting : ∀ plugin key, (scene.shared.registry registry).find? plugin = some key →
    ∀ later, scene.Becomes later → (later.shared.registry registry).find? plugin = some key
  ends : ∀ visit id, scene.Made visit → visit.request = .get registry id → visit.HasEnded →
    visit.outcome?.isSome
  /-- A call that failed to bind the instance that it found has left it registered. -/
  failed : ∀ visit id error, scene.Made visit → visit.request = .get registry id →
    visit.outcome? = some (.ok (.error error)) → error.kind = .engineConstruction →
    ∃ plugin found, plugin.text.toList = Text.trim id.toList ∧ visit.found = some found ∧
      (scene.shared.registry registry).find? plugin = some found.services
  /-- A call that asks for something blank is refused in one step, which changes nothing. -/
  blank : ∀ visit id, scene.Made visit → visit.request = .get registry id →
    Text.trim id.toList = [] →
    let refusal := some (.ok (.error (.new .invalidArgument "plugin id cannot be empty")))
    (visit.stage = .entering ∨ visit.outcome? = refusal) ∧
      ∀ shared next, visit.Moves scene.shared shared next →
        shared = scene.shared ∧ next.outcome? = refusal
  increasing : ((scene.shared.registry registry).pluginIds.map Text.utf8Bytes).Pairwise (· < ·)
  size : (scene.shared.registry registry).pluginIds.length =
    (scene.shared.registry registry).services.size
  /-- Where no call goes on that asks for an instance, all that was asked for is there. -/
  idle : (∀ thread visit id, .visit visit ∈ scene.frames thread →
      visit.request ≠ .get registry id) →
    ∀ text, text ∈ (scene.shared.registry registry).pluginIds ↔ text.toList ≠ [] ∧
      ∃ visit ∈ scene.past, ∃ id, visit.request = .get registry id ∧
        Text.trim id.toList = text.toList

namespace Scene.Filed

variable {scene : Scene}

theorem blank (filed : scene.Filed registry) (made : scene.Made visit)
    (asks : visit.request = .get registry id) (blank : Text.trim id.toList = []) :
    (visit.stage = .entering ∨ visit.outcome? = some (.ok (.error PluginId.blankId))) ∧
      ∀ shared next, visit.Moves scene.shared shared next →
        shared = scene.shared ∧ next.outcome? = some (.ok (.error PluginId.blankId)) := by
  have rejects := PluginId.ofText_of_blank blank
  have unnamed (plugin : PluginId) : PluginId.ofText id ≠ .ok plugin := by
    rw [rejects]
    exact nofun
  cases filed.seeks visit id made asks with
  | takingIn plugin named => exact absurd named (unnamed plugin)
  | found plugin found named => exact absurd named (unnamed plugin)
  | rejected error named ended =>
      cases named.symm.trans rejects
      refine ⟨.inr (by rw [Visit.outcome?, ended]), fun shared next moves => ?_⟩
      exact absurd ⟨_, ended⟩ moves.not_ended
  | entering entering =>
      refine ⟨.inl entering, fun shared next moves => ?_⟩
      cases moves with
      | rejected target name error request _ named =>
          cases asks.symm.trans request
          cases named.symm.trans rejects
          exact ⟨rfl, rfl⟩
      | finds target name plugin key request _ named =>
          cases asks.symm.trans request
          exact absurd named (unnamed plugin)
      | misses target name plugin request _ named =>
          cases asks.symm.trans request
          exact absurd named (unnamed plugin)
      | refused target factory request => cases asks.symm.trans request
      | accepted target factory pending started request => cases asks.symm.trans request
      | takesBack target factory error request => cases asks.symm.trans request
      | findsLate target name plugin key _ takingIn => cases entering.symm.trans takingIn
      | takesIn target name plugin _ takingIn => cases entering.symm.trans takingIn
      | skips key pending binding => cases entering.symm.trans binding
      | returns binding => cases entering.symm.trans binding

theorem idle (filed : scene.Filed registry)
    (idle : ∀ thread visit id, .visit visit ∈ scene.frames thread →
      visit.request ≠ .get registry id) (text : String) :
    text ∈ (scene.shared.registry registry).pluginIds ↔ text.toList ≠ [] ∧
      ∃ visit ∈ scene.past, ∃ id, visit.request = .get registry id ∧
        Text.trim id.toList = text.toList := by
  constructor
  · intro member
    rcases filed.asked text member with ⟨visit, id, plugin, made, asks, named, rfl⟩
    refine ⟨plugin.visible, visit, ?_, id, asks, (PluginId.ofText_eq_ok_iff.1 named).symm⟩
    rcases made with returned | ⟨thread, member⟩
    · exact returned
    · exact absurd asks (idle thread visit id member)
  · rintro ⟨visible, visit, returned, id, asks, trimmed⟩
    have seeks := filed.seeks visit id (.inl returned) asks
    rcases seeks.ended (filed.ended visit returned) with ⟨blank, _⟩ | ⟨plugin, found, named, _, is⟩
    · exact absurd (trimmed.symm.trans blank) visible
    · have text : plugin.text = text :=
        String.toList_inj.1 ((PluginId.ofText_eq_ok_iff.1 named).trans trimmed)
      rw [← text]
      exact Dict.isSome_find?_iff.1 (Option.isSome_of_mem is)

theorem hasOneEach (filed : scene.Filed registry) : scene.HasOneEach registry where
  same visit other id name key otherKey made otherMade asks otherAsks returned otherReturned := by
    rcases (filed.seeks visit id made asks).returned returned with ⟨plugin, named, is⟩
    rcases (filed.seeks other name otherMade otherAsks).returned otherReturned
      with ⟨otherPlugin, otherNamed, otherIs⟩
    rw [eq_comm (a := Text.trim id.toList), ← PluginId.ofText_same_iff named]
    constructor
    · rintro rfl
      have own := (filed.placed plugin key is).2
      rw [← own, (filed.placed otherPlugin key otherIs).2]
      exact otherNamed
    · intro same
      cases same.symm.trans otherNamed
      exact Option.some.inj (is.symm.trans otherIs)
  own plugin key found := (filed.placed plugin key found).2
  lasting plugin key found later becomes := becomes.keeps.registered registry plugin key found
  ends visit id made asks ended := (filed.seeks visit id made asks).outcome?_isSome ended
  failed visit id error made asks failed kind := by
    have ended : visit.HasEnded := visit.hasEnded_of_outcome failed
    rcases (filed.seeks visit id made asks).ended ended
      with ⟨_, outcome⟩ | ⟨plugin, found, named, finds, is⟩
    · cases outcome.symm.trans failed
      cases kind
    · exact ⟨plugin, found, PluginId.ofText_eq_ok_iff.1 named, finds, is⟩
  blank visit id made asks blank := filed.blank made asks blank
  increasing := (scene.shared.registry registry).services.ordered.map Text.utf8Bytes
    fun left right => (Text.lt_iff_utf8Bytes_lt left right).1
  size := List.length_map _
  idle := filed.idle

end Scene.Filed

/-- A registry has one instance for each plugin that was ever asked for, whoever asks and
whatever becomes of the binds of instances and of starts, and it keeps that instance. -/
theorem one_instance_per_plugin (registries : Table Registry) (clock : Key Clock)
    (services : Table PluginServices) {scene : Scene}
    (reached : (Scene.opening (registries.add { clock }) services).Becomes scene) :
    scene.HasOneEach registries.nextKey := by
  have new : (registries.add { clock }).get registries.nextKey = { clock } :=
    registries.get_add_nextKey _
  exact ((Scene.Filed.opening services (congrArg Registry.services new)).becomes reached).hasOneEach

/-! Two threads ask a new registry for one plugin in two spellings, and both miss it. -/

def newShared : Shared where
  registries := Table.add {} { clock := ⟨0⟩ }
  services := {}

def takenIn : Shared :=
  (newShared.addServices default ⟨0⟩).setRegistry ⟨0⟩
    ((newShared.registry ⟨0⟩).insert default ⟨0⟩)

def missing (id : String) : Visit where
  request := .get ⟨0⟩ id
  stage := .takingIn default

theorem comes_missing {id : String} (named : PluginId.ofText id = .ok default) :
    Comes newShared [] newShared [.visit (missing id)] := by
  have misses : ({ request := .get ⟨0⟩ id } : Visit).Moves newShared newShared (missing id) :=
    .misses _ ⟨0⟩ id default rfl rfl named rfl
  exact (Comes.of_moves (.visits (.get ⟨0⟩ id) [] trivial)).trans (.goesOn misses [])

/-- The one who comes second finds the instance that the other has taken in. -/
theorem late_comer_finds_instance :
    ∃ scene key other, (Scene.opening newShared.registries newShared.services).Becomes scene ∧
      scene.Made ((missing " plugin").finds key none) ∧
      scene.Made ((missing "plugin").finds other none) ∧ key = other := by
  have first := comes_missing (PluginId.ofText_eq_ok_iff.2
    (by decide : _ = Text.trim " plugin".toList))
  have second := comes_missing (PluginId.ofText_eq_ok_iff.2
    (by decide : _ = Text.trim "plugin".toList))
  have takesIn : (missing "plugin").Moves newShared takenIn ((missing "plugin").finds ⟨0⟩ none) :=
    .takesIn _ ⟨0⟩ "plugin" default rfl rfl rfl
  have findsLate : (missing " plugin").Moves takenIn takenIn
      ((missing " plugin").finds ⟨0⟩ none) :=
    .findsLate _ ⟨0⟩ " plugin" default ⟨0⟩ rfl rfl rfl
  let nowhere : ThreadId → List Frame := fun _ => []
  let missed := Function.update nowhere ⟨0⟩ [.visit (missing " plugin")]
  let taken := Function.update missed ⟨1⟩ [.visit ((missing "plugin").finds ⟨0⟩ none)]
  have here : nowhere ⟨0⟩ = [] := rfl
  have there : missed ⟨1⟩ = [] := rfl
  have late : taken ⟨0⟩ = [.visit (missing " plugin")] := rfl
  rcases first.among here [] with ⟨_, misses⟩
  rcases (second.trans (.goesOn takesIn [])).among there _ with ⟨_, takes⟩
  rcases (Comes.goesOn findsLate []).among late _ with ⟨_, finds⟩
  have path := misses.becomes.trans (takes.becomes.trans finds.becomes)
  refine ⟨_, ⟨0⟩, ⟨0⟩, path, .inr ⟨⟨0⟩, .head _⟩, .inr ⟨⟨1⟩, .head _⟩, ?_⟩
  have one := one_instance_per_plugin {} ⟨0⟩ {} path
  exact (one.same _ _ " plugin" "plugin" ⟨0⟩ ⟨0⟩ (.inr ⟨⟨0⟩, .head _⟩) (.inr ⟨⟨1⟩, .head _⟩)
    rfl rfl rfl rfl).2 (by decide)

end Callers

end Instrumentation
