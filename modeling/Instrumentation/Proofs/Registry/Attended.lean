import Instrumentation.Proofs.Registry.Duties
import Mathlib.Algebra.BigOperators.Group.Finset.Basic

namespace Instrumentation.Visits

open Binding

/-! Who attends to an instance. While a registry is started, every instance that was
never tried to be bound is on the list of a visit that has still to bind it, or the start
is about to be taken back; and every attempt that has not ended belongs to a visit. -/

def Scene.LeadsAt (scene : Scene) (index : Nat) (factory : Key Factory) : Prop :=
  ∃ visit : Visit, scene.visits[index]? = some visit ∧ visit.leads? = some factory

structure Attended (scene : Scene) : Prop where
  filed : scene.shared.Filed
  asked : ∀ visit ∈ scene.visits, ∀ key ∈ visit.waiting,
    key ∈ scene.shared.registry.services.values
  shaped : ∀ visit ∈ scene.visits, visit.IsShaped
  returned : ∀ key, ∀ attempt ∈ scene.shared.attempts key, ∀ payload,
    attempt.creation ≠ some (.error payload)
  owned : ∀ key index attempt, (scene.shared.attempts key)[index]? = some attempt →
    attempt.HasEnded ∨ ∃ visit ∈ scene.visits, visit.Holds key index
  led : ∀ index factory, scene.LeadsAt index factory →
    scene.shared.registry.factory = some factory
  alone : ∀ first second one other, scene.LeadsAt first one → scene.LeadsAt second other →
    first = second
  owed : scene.shared.registry.factory.isSome →
    ∀ key ∈ scene.shared.registry.services.values,
      scene.shared.attempts key ≠ [] ∨ ∃ visit ∈ scene.visits, visit.Owes key

theorem visit_set_cases {visits : List Visit} {index other : Nat} {next visit : Visit}
    (there : (visits.set index next)[other]? = some visit) :
    (other = index ∧ visit = next) ∨ (other ≠ index ∧ visits[other]? = some visit) := by
  by_cases same : other = index
  · subst other
    have within := (List.getElem?_eq_some_iff.mp there).1
    rw [List.length_set] at within
    rw [List.getElem?_set_self within] at there
    exact .inl ⟨rfl, (Option.some.inj there).symm⟩
  · rw [List.getElem?_set_ne (Ne.symm same)] at there
    exact .inr ⟨same, there⟩

theorem exists_visit_set {visits : List Visit} {index : Nat} {visit next : Visit}
    (there : visits[index]? = some visit) {holds : Visit → Prop}
    (some : ∃ other ∈ visits, holds other) :
    (∃ other ∈ visits.set index next, holds other) ∨ holds visit := by
  rcases some with ⟨other, member, held⟩
  rcases List.mem_iff_getElem?.mp member with ⟨place, found⟩
  by_cases same : place = index
  · subst place
    cases there.symm.trans found
    exact .inr held
  · rw [← List.getElem?_set_ne (Ne.symm same)] at found
    exact .inl ⟨other, List.mem_of_getElem? found, held⟩

theorem mem_visit_set {visits : List Visit} {index : Nat} {visit : Visit}
    (there : visits[index]? = some visit) (next : Visit) : next ∈ visits.set index next :=
  List.mem_of_getElem? (List.getElem?_set_self (List.getElem?_eq_some_iff.mp there).1)

namespace Attended

variable {scene next : Scene}

theorem opening (clock : Key Clock) (services : Table PluginServices) :
    Attended (Scene.opening clock services) where
  filed := .opening clock services
  asked _ member := by cases member
  shaped _ member := by cases member
  returned _ _ member := by cases member
  owned _ _ _ there := by cases there
  led _ _ := by
    rintro ⟨_, there, _⟩
    cases there
  alone _ _ _ _ := by
    rintro ⟨_, there, _⟩
    cases there
  owed started := by cases started

theorem leadsAt_of_begins {request : Request} {index : Nat} {factory : Key Factory}
    (leads : Scene.LeadsAt { scene with visits := scene.visits ++ [{ request }] } index factory) :
    scene.LeadsAt index factory := by
  rcases leads with ⟨visit, there, leads⟩
  by_cases within : index < scene.visits.length
  · rw [List.getElem?_append_left within] at there
    exact ⟨visit, there, leads⟩
  · rw [List.getElem?_append_right (Nat.le_of_not_lt within)] at there
    rw [List.mem_singleton.mp (List.mem_of_getElem? there)] at leads
    cases request <;> cases leads

theorem begins (attended : Attended scene) (request : Request) :
    Attended { scene with visits := scene.visits ++ [{ request }] } where
  filed := attended.filed
  asked visit member := by
    rcases List.mem_append.mp member with earlier | new
    · exact attended.asked visit earlier
    · rw [List.mem_singleton.mp new]
      nofun
  shaped visit member := by
    rcases List.mem_append.mp member with earlier | new
    · exact attended.shaped visit earlier
    · rw [List.mem_singleton.mp new]
      cases request <;> trivial
  returned := attended.returned
  owned key index attempt there := by
    refine (attended.owned key index attempt there).imp_right ?_
    rintro ⟨visit, member, holds⟩
    exact ⟨visit, List.mem_append_left _ member, holds⟩
  led index factory leads := attended.led index factory (leadsAt_of_begins leads)
  alone first second one other leads others :=
    attended.alone first second one other (leadsAt_of_begins leads) (leadsAt_of_begins others)
  owed started key registered := by
    refine (attended.owed started key registered).imp_right ?_
    rintro ⟨visit, member, owes⟩
    exact ⟨visit, List.mem_append_left _ member, owes⟩

theorem leadsAt_set_cases {shared : Shared} {index place : Nat} {moved : Visit}
    {factory : Key Factory}
    (leads : Scene.LeadsAt { shared, visits := scene.visits.set index moved } place factory) :
    (place = index ∧ moved.leads? = some factory) ∨
      (place ≠ index ∧ scene.LeadsAt place factory) := by
  rcases leads with ⟨visit, found, leads⟩
  rcases visit_set_cases found with ⟨here, rfl⟩ | ⟨different, found⟩
  · exact .inl ⟨here, leads⟩
  · exact .inr ⟨different, visit, found, leads⟩

theorem leading (attended : Attended scene) {index : Nat} {visit moved : Visit} {shared : Shared}
    (there : scene.visits[index]? = some visit)
    (leading : Visit.Moves.Leading visit moved scene.shared.registry shared.registry) :
    let later : Scene := { shared, visits := scene.visits.set index moved }
    (∀ first second one other, later.LeadsAt first one → later.LeadsAt second other →
      first = second) ∧
      ∀ place factory, later.LeadsAt place factory → shared.registry.factory = some factory := by
  intro later
  cases leading with
  | follows same kept =>
      have earlier (place : Nat) (factory : Key Factory) (leads : later.LeadsAt place factory) :
          scene.LeadsAt place factory := by
        rcases leadsAt_set_cases leads with ⟨rfl, leading⟩ | ⟨_, earlier⟩
        · rcases kept with kept | none
          · rw [kept] at leading
            exact ⟨visit, there, leading⟩
          · rw [none] at leading
            cases leading
        · exact earlier
      refine ⟨fun first second one other leads others => ?_, fun place factory leads => ?_⟩
      · exact attended.alone first second one other (earlier first one leads)
          (earlier second other others)
      · rw [same]
        exact attended.led place factory (earlier place factory leads)
  | begins factory free leads recorded =>
      have only (place : Nat) (other : Key Factory) (others : later.LeadsAt place other) :
          place = index ∧ other = factory := by
        rcases leadsAt_set_cases others with ⟨here, leading⟩ | ⟨_, earlier⟩
        · exact ⟨here, Option.some.inj (leading.symm.trans leads)⟩
        · have taken := attended.led place other earlier
          rw [free] at taken
          cases taken
      refine ⟨fun first second one other leads others => ?_, fun place other others => ?_⟩
      · exact (only first one leads).1.trans (only second other others).1.symm
      · rw [(only place other others).2]
        exact recorded
  | ends factory led leads taken =>
      have gone (place : Nat) (other : Key Factory) : ¬ later.LeadsAt place other := by
        intro others
        rcases leadsAt_set_cases others with ⟨_, leading⟩ | ⟨different, earlier⟩
        · rw [leads] at leading
          cases leading
        · exact different (attended.alone place index other factory earlier ⟨visit, there, led⟩)
      exact ⟨fun first _ one _ leads => absurd leads (gone first one),
        fun place other others => absurd others (gone place other)⟩

theorem moves (attended : Attended scene) {index : Nat} {visit moved : Visit} {shared : Shared}
    (there : scene.visits[index]? = some visit)
    (moves : visit.Moves scene.shared shared moved) :
    Attended { shared, visits := scene.visits.set index moved } := by
  have member := List.mem_of_getElem? there
  have asked := attended.asked visit member
  have shaped := attended.shaped visit member
  have movedMember := mem_visit_set there moved
  have led (factory : Key Factory) (leads : visit.leads? = some factory) :
      scene.shared.registry.factory = some factory :=
    attended.led index factory ⟨visit, there, leads⟩
  have ⟨leads, recorded⟩ := attended.leading there (moves.leading shaped)
  constructor
  · exact moves.filed attended.filed asked
  · intro other found key waiting
    rcases List.mem_or_eq_of_mem_set found with earlier | rfl
    · exact moves.registered (attended.asked other earlier key waiting)
    · exact moves.waiting asked waiting
  · intro other found
    rcases List.mem_or_eq_of_mem_set found with earlier | rfl
    · exact attended.shaped other earlier
    · exact moves.shaped shaped
  · exact moves.returned attended.returned
  · intro key place attempt found
    rcases moves.attempts_cases found with earlier | holds
    · rcases attended.owned key place attempt earlier with ended | owner
      · exact .inl ended
      · rcases exists_visit_set there owner with other | holds
        · exact .inr other
        · rcases moves.holds holds with still | ⟨same, sameThere, ended⟩
          · exact .inr ⟨moved, movedMember, still⟩
          · cases sameThere.symm.trans earlier
            exact .inl ended
    · exact .inr ⟨moved, movedMember, holds⟩
  · exact recorded
  · exact leads
  · intro started key registered
    rcases moves.owed_cases started registered with ⟨earlier, before⟩ | owes
    · rcases attended.owed earlier key before with tried | owing
      · exact .inl (moves.attempted tried)
      · rcases exists_visit_set there owing with other | owes
        · exact .inr other
        · rcases moves.owes shaped attended.filed asked led owes with owes | tried | forgotten
          · exact .inr ⟨moved, movedMember, owes⟩
          · exact .inl tried
          · rw [forgotten] at started
            cases started
    · exact .inr ⟨moved, movedMember, owes⟩

theorem elsewhere (attended : Attended scene) {services : Table PluginServices}
    (grows : scene.shared.services.size ≤ services.size)
    (kept : ∀ key ∈ scene.shared.registry.services.values,
      services.get key = scene.shared.services.get key) :
    Attended { scene with shared := { scene.shared with services } } where
  filed := attended.filed.of_frame rfl rfl rfl grows kept
  asked := attended.asked
  shaped := attended.shaped
  returned := attended.returned
  owned := attended.owned
  led := attended.led
  alone := attended.alone
  owed := attended.owed

theorem of_becomes {clock : Key Clock} {services : Table PluginServices}
    (becomes : (Scene.opening clock services).Becomes scene) : Attended scene := by
  induction becomes with
  | refl => exact opening clock services
  | tail _ step induction =>
      cases step with
      | begins request => exact induction.begins request
      | moves _ _ _ _ there moves => exact induction.moves there moves
      | elsewhere _ grows kept => exact induction.elsewhere grows kept

end Attended

/-! ## When no visit goes on -/

def Scene.enginesMade (scene : Scene) (plugin : PluginId) : Nat :=
  ∑ index ∈ Finset.range scene.shared.services.size,
    if (scene.shared.services.get ⟨index⟩).plugin = plugin then
      (scene.shared.race ⟨index⟩).enginesMade
    else 0

def Scene.isBound (scene : Scene) (plugin : PluginId) : Bool :=
  (scene.shared.registry.find? plugin).any fun key => (scene.shared.services.get key).isBound

namespace Attended

variable {scene : Scene} {key : Key PluginServices}

theorem attempts_ended (attended : Attended scene)
    (quiet : ∀ visit ∈ scene.visits, visit.HasEnded) :
    ∀ attempt ∈ scene.shared.attempts key, attempt.HasEnded := by
  intro attempt member
  rcases List.mem_iff_getElem?.mp member with ⟨index, there⟩
  rcases attended.owned key index attempt there with ended | ⟨visit, owner, pending, holds⟩
  · exact ended
  · rcases quiet visit owner with ⟨ending, ended⟩
    cases ended.symm.trans holds

theorem tried (attended : Attended scene) (quiet : ∀ visit ∈ scene.visits, visit.HasEnded)
    (started : scene.shared.registry.isStarted = true)
    (member : key ∈ scene.shared.registry.services.values) : scene.shared.attempts key ≠ [] := by
  rcases attended.owed started key member with tried | ⟨visit, owner, owes⟩
  · exact tried
  · rcases quiet visit owner with ⟨ending, ended⟩
    rw [Visit.Owes, ended] at owes
    cases owes

/-- Nothing is made for services that are not the instance of their plugin. -/
theorem none_made (attended : Attended scene) {plugin : PluginId} {index : Nat}
    (other : scene.shared.registry.find? plugin ≠ some ⟨index⟩) :
    (if (scene.shared.services.get ⟨index⟩).plugin = plugin then
      (scene.shared.race ⟨index⟩).enginesMade else 0) = 0 := by
  split
  · next same =>
      have untried : scene.shared.attempts ⟨index⟩ = [] := by
        by_contra tried
        have found := attended.filed.filed ⟨index⟩ (attended.filed.attempted ⟨index⟩ tried)
        rw [same] at found
        exact other found
      rw [Race.enginesMade, Shared.race, untried]
      rfl
  · rfl

theorem enginesMade_eq (attended : Attended scene)
    (quiet : ∀ visit ∈ scene.visits, visit.HasEnded) (plugin : PluginId) :
    scene.enginesMade plugin = if scene.isBound plugin then 1 else 0 := by
  rw [Scene.enginesMade, Scene.isBound]
  cases found : scene.shared.registry.find? plugin with
  | none =>
      apply Finset.sum_eq_zero
      intro index _
      apply attended.none_made
      rw [found]
      nofun
  | some key =>
      have ⟨within, becomes⟩ := attended.filed.raced plugin key found
      rcases Governed.of_becomes becomes with ⟨right, governed⟩
      rw [Finset.sum_eq_single_of_mem key.index (Finset.mem_range.mpr within)]
      · have serves : (scene.shared.services.get key).plugin = plugin := governed.servesPlugin
        have made := Race.enginesMade_of_ended governed (attended.attempts_ended quiet)
        exact (if_pos serves).trans made
      · intro index _ different
        apply attended.none_made
        rw [found]
        intro same
        cases same
        exact different rfl

end Attended

/-- No instance is missed between gets and starts. When none of them goes on: if the
registry is started, every instance is bound or a factory failed for it, and one engine
was made for each plugin whose instance is bound, and none for another. -/
theorem no_instance_is_missed {clock : Key Clock} {services : Table PluginServices}
    {scene : Scene} (reached : (Scene.opening clock services).Becomes scene)
    (quiet : ∀ visit ∈ scene.visits, visit.HasEnded) :
    (scene.shared.registry.isStarted = true → ∀ plugin key,
      scene.shared.registry.find? plugin = some key →
      (scene.shared.services.get key).isBound = true ∨
        ∃ attempt ∈ scene.shared.attempts key, ∃ cause,
          attempt.creation = some (.ok (.error cause))) ∧
      ∀ plugin, scene.enginesMade plugin = if scene.isBound plugin then 1 else 0 := by
  have attended := Attended.of_becomes reached
  refine ⟨?_, attended.enginesMade_eq quiet⟩
  intro started plugin key found
  have tried := attended.tried quiet started (Dict.mem_values_of_find? found)
  have ⟨_, becomes⟩ := attended.filed.raced plugin key found
  rcases Race.tried_of_becomes becomes tried with bound | ⟨attempt, member, excuse⟩
  · exact .inl bound
  · rcases excuse with ⟨creation, created, failed⟩ | unended
    · rcases creation with payload | cause | engine
      · exact absurd created (attended.returned key attempt member payload)
      · exact .inr ⟨attempt, member, cause, created⟩
      · exact absurd rfl (failed engine)
    · exact absurd (attended.attempts_ended quiet attempt member) unended

def jdbc : PluginId :=
  ⟨"jdbc", by decide, by decide⟩

/-- A get that finds no instance while the registry is not started, and a start that is
accepted before the get takes the instance in: the start has nothing to bind. -/
theorem meeting_ends :
    ∃ scene, (Scene.opening ⟨0⟩ {}).Becomes scene ∧
      (∀ visit ∈ scene.visits, visit.HasEnded) ∧ scene.shared.registry.isStarted = true ∧
      scene.shared.registry.find? jdbc = some ⟨0⟩ ∧ scene.isBound jdbc = true := by
  refine ⟨_, .head (.begins (.get "jdbc")) <| .head (.begins (.start ⟨0⟩)) <|
    .head (.moves 0 _ _ _ rfl (.misses _ "jdbc" jdbc rfl rfl rfl rfl)) <|
    .head (.moves 1 _ _ _ rfl (.accepted _ ⟨0⟩ _ _ rfl rfl rfl)) <|
    .head (.moves 0 _ _ _ rfl (.takesIn _ jdbc rfl rfl)) <|
    .head (.moves 1 _ _ _ rfl (.returns _ rfl)) <|
    -- The get has seen the factory and binds the instance itself.
    .head (.moves 0 _ _ _ rfl (.attempts _ ⟨0⟩ [] rfl rfl)) <|
    .head (.moves 0 _ _ _ rfl
      (.goesOn _ ⟨0⟩ 0 [] _ _ _ _ rfl rfl (.claims _ _ rfl rfl) nofun (.written _))) <|
    .head (.moves 0 _ _ _ rfl
      (.goesOn _ ⟨0⟩ 0 [] _ _ _ _ rfl rfl (.creates _ (.ok (.ok (.recorder ⟨0⟩))) rfl)
        nofun .nothing)) <|
    .head (.moves 0 _ _ _ rfl
      (.goesOn _ ⟨0⟩ 0 [] _ _ _ _ rfl rfl (.publishes _ (.recorder ⟨0⟩) _ rfl rfl)
        nofun (.written _))) <|
    .head (.moves 0 _ _ _ rfl
      (.goesOn _ ⟨0⟩ 0 [] _ _ _ _ rfl rfl (.leaves _ false _ rfl) nofun .nothing)) <|
    .head (.moves 0 _ _ _ rfl (.passes _ ⟨0⟩ 0 [] _ _ rfl rfl rfl nofun)) <|
    .single (.moves 0 _ _ _ rfl (.returns _ rfl)), ?_, rfl, rfl, rfl⟩
  intro visit member
  rcases List.mem_cons.mp member with rfl | member
  · exact ⟨_, rfl⟩
  · rw [List.mem_singleton.mp member]
    exact ⟨_, rfl⟩

/-- That instance is bound all the same, to the one engine that was made for it. -/
theorem meeting_misses_none :
    ∃ scene, (Scene.opening ⟨0⟩ {}).Becomes scene ∧
      (∀ visit ∈ scene.visits, visit.HasEnded) ∧ scene.shared.registry.isStarted = true ∧
      (∀ plugin key, scene.shared.registry.find? plugin = some key →
        (scene.shared.services.get key).isBound = true ∨
          ∃ attempt ∈ scene.shared.attempts key, ∃ cause,
            attempt.creation = some (.ok (.error cause))) ∧
      scene.isBound jdbc = true ∧ scene.enginesMade jdbc = 1 := by
  rcases meeting_ends with ⟨scene, reached, quiet, started, _, bound⟩
  have ⟨attended, made⟩ := no_instance_is_missed reached quiet
  refine ⟨scene, reached, quiet, started, attended started, bound, ?_⟩
  rw [made, bound]
  rfl

end Instrumentation.Visits
