import Instrumentation.Proofs.Binding.Programs
import Instrumentation.Proofs.Registry.Callers

namespace Instrumentation

/-! What the steps of callers do to registries and to the calls on them. Registries only
grow, by one instance at a time, and no call is forgotten. -/

namespace Callers

open Binding

/-! ## What steps do to registries -/

/-- What a step leaves of registries and services. Only a look at a registry that missed
takes an instance in. -/
inductive Shared.Grows (made : Visit → Prop) (shared : Shared) : Shared → Prop
  | same (later : Shared)
      (registered : ∀ key, (later.registry key).services = (shared.registry key).services)
      (grows : shared.services.size ≤ later.services.size)
      (kept : ∀ key : Key PluginServices, key.index < shared.services.size →
        (later.services.get key).plugin = (shared.services.get key).plugin) :
      Grows made shared later
  | takesIn (visit : Visit) (is : made visit) (registry : Key Registry) (id : String)
      (plugin : PluginId) (asks : visit.request = .get registry id)
      (takingIn : visit.stage = .takingIn plugin)
      (missing : (shared.registry registry).find? plugin = none) :
      Grows made shared
        ((shared.addServices plugin (shared.registry registry).clock).setRegistry registry
          ((shared.registry registry).insert plugin shared.services.nextKey))

namespace Shared

variable {shared later last : Shared} {made : Visit → Prop}

structure Keeps (shared later : Shared) : Prop where
  registered : ∀ registry plugin key, (shared.registry registry).find? plugin = some key →
    (later.registry registry).find? plugin = some key
  grows : shared.services.size ≤ later.services.size
  kept : ∀ key : Key PluginServices, key.index < shared.services.size →
    (later.services.get key).plugin = (shared.services.get key).plugin

def Placed (shared : Shared) (registry : Key Registry) : Prop :=
  ∀ plugin key, (shared.registry registry).find? plugin = some key →
    key.index < shared.services.size ∧ (shared.services.get key).plugin = plugin

namespace Keeps

theorem refl (shared : Shared) : shared.Keeps shared :=
  ⟨fun _ _ _ found => found, Nat.le_refl _, fun _ _ => rfl⟩

theorem trans (first : shared.Keeps later) (second : later.Keeps last) : shared.Keeps last where
  registered registry plugin key found :=
    second.registered registry plugin key (first.registered registry plugin key found)
  grows := Nat.le_trans first.grows second.grows
  kept key within :=
    (second.kept key (Nat.lt_of_lt_of_le within first.grows)).trans (first.kept key within)

end Keeps

namespace Grows

theorem of_setRegistry {key : Key Registry} {registry : Registry}
    (registered : registry.services = (shared.registry key).services) :
    shared.Grows made (shared.setRegistry key registry) := by
  refine .same _ (fun other => ?_) (Nat.le_refl _) fun _ _ => rfl
  by_cases same : other = key
  · rw [same, registry_setRegistry, registered]
  · rw [registry_setRegistry_other _ _ _ same]

theorem of_add (plugin : PluginId) (clock : Key Clock) :
    shared.Grows made (shared.addServices plugin clock) := by
  refine .same _ (fun _ => rfl) (Nat.le_of_lt (shared.services.size_lt_add _)) ?_
  intro key within
  exact congrArg PluginServices.plugin (shared.services.get_add_other _ within)

theorem of_attempt {key : Key PluginServices} {attempt moved : Attempt}
    {next : PluginServices} {services : Table PluginServices}
    (moves : attempt.Moves (shared.services.get key) next moved)
    (stores : Stores shared.services key next services) :
    shared.Grows made { shared with services } := by
  refine .same _ (fun _ => rfl) stores.size_le fun other _ => ?_
  by_cases same : other = key
  · rw [same]
    exact (congrArg PluginServices.plugin stores.get_same).trans moves.same_plugin
  · exact congrArg PluginServices.plugin (stores.get_other same)

theorem refl (shared : Shared) : shared.Grows made shared :=
  .same shared (fun _ => rfl) (Nat.le_refl _) fun _ _ => rfl

theorem find?_takesIn (registry other : Key Registry) (plugin asked : PluginId) :
    (((shared.addServices plugin (shared.registry registry).clock).setRegistry registry
        ((shared.registry registry).insert plugin shared.services.nextKey)).registry
      other).find? asked =
      if other = registry ∧ asked = plugin then some shared.services.nextKey
      else (shared.registry other).find? asked := by
  by_cases same : other = registry
  · rw [same, registry_setRegistry, Registry.find?_insert]
    simp
  · rw [registry_setRegistry_other _ _ _ same, if_neg fun both => same both.1]
    rfl

theorem keeps (grows : shared.Grows made later) : shared.Keeps later := by
  cases grows with
  | same _ registered grows kept =>
      refine ⟨fun registry plugin key found => ?_, grows, kept⟩
      rw [Registry.find?, registered]
      exact found
  | takesIn visit is registry id plugin asks takingIn missing =>
      refine ⟨fun other asked key found => ?_, Nat.le_of_lt (shared.services.size_lt_add _),
        fun key within => ?_⟩
      · rw [find?_takesIn, if_neg]
        · exact found
        · rintro ⟨rfl, rfl⟩
          rw [missing] at found
          cases found
      · exact congrArg PluginServices.plugin (shared.services.get_add_other _ within)

theorem placed (grows : shared.Grows made later) {registry : Key Registry}
    (placed : shared.Placed registry) : later.Placed registry := by
  intro plugin key found
  have keeps := grows.keeps
  have earlier (found : (shared.registry registry).find? plugin = some key) :
      key.index < later.services.size ∧ (later.services.get key).plugin = plugin := by
    have ⟨within, own⟩ := placed plugin key found
    exact ⟨Nat.lt_of_lt_of_le within keeps.grows, (keeps.kept key within).trans own⟩
  cases grows with
  | same _ registered grows kept =>
      rw [Registry.find?, registered] at found
      exact earlier found
  | takesIn visit is taker id taken asks takingIn missing =>
      rw [find?_takesIn] at found
      split at found
      · next same =>
          cases found
          refine ⟨shared.services.size_lt_add _, ?_⟩
          exact (congrArg PluginServices.plugin (shared.services.get_add_nextKey _)).trans
            same.2.symm
      · exact earlier found

/-- An identity that is new to a registry was asked for by the visit that took its instance
in. -/
theorem asked (grows : shared.Grows made later) {registry : Key Registry} {text : String}
    (member : text ∈ (later.registry registry).pluginIds) :
    text ∈ (shared.registry registry).pluginIds ∨
      ∃ visit id plugin, made visit ∧ visit.request = .get registry id ∧
        visit.stage = .takingIn plugin ∧ plugin.text = text := by
  cases grows with
  | same _ registered =>
      rw [Registry.pluginIds, registered] at member
      exact .inl member
  | takesIn visit is taker id plugin asks takingIn missing =>
      by_cases same : registry = taker
      · rw [same, registry_setRegistry] at member
        rcases Dict.mem_insertEntry member with rfl | earlier
        · exact .inr ⟨visit, id, plugin, is, same ▸ asks, takingIn, rfl⟩
        · exact .inl (same ▸ earlier)
      · rw [registry_setRegistry_other _ _ _ same] at member
        exact .inl member

end Grows

end Shared

/-! ## What steps do to calls -/

inductive Visit.Follows (shared later : Shared) (visit : Visit) : Visit → Prop
  | stays : Follows shared later visit visit
  | moves (next : Visit) (moves : visit.Moves shared later next) : Follows shared later visit next
  | awaits (key : Key PluginServices) (pending : List (Key PluginServices))
      (binding : visit.stage = .binding (key :: pending)) :
      Follows shared later visit { visit with stage := .awaiting key pending }
  | answered (key : Key PluginServices) (pending : List (Key PluginServices))
      (creation : Option CreationEnding) (ending : BindEnding)
      (awaiting : visit.stage = .awaiting key pending) :
      Follows shared later visit (visit.answered pending creation ending)

section Steps

variable {shared later : Shared} {visit next : Visit} {stack stackLater : List Frame}

theorem Visit.Moves.same_request (moves : visit.Moves shared later next) :
    next.request = visit.request := by
  cases moves <;> rfl

theorem Visit.Moves.not_ended (moves : visit.Moves shared later next) : ¬visit.HasEnded := by
  rintro ⟨ending, ended⟩
  cases moves <;> simp_all

theorem Visit.Follows.same_request (follows : visit.Follows shared later next) :
    next.request = visit.request := by
  cases follows with
  | stays | awaits | answered => rfl
  | moves _ moves => exact moves.same_request

theorem Visit.Moves.grows (moves : visit.Moves shared later next) {made : Visit → Prop}
    (is : made visit) : shared.Grows made later := by
  cases moves with
  | rejected | finds | misses | findsLate | refused | skips | returns => exact .refl shared
  | takesIn registry id plugin asks takingIn missing =>
      exact .takesIn visit is registry id plugin asks takingIn missing
  | accepted registry factory pending started asks entering records =>
      rcases Registry.recordFactory_eq_some records with ⟨_, _, rfl⟩
      exact .of_setRegistry rfl
  | takesBack registry factory error asks takingBack =>
      exact .of_setRegistry (Registry.forgetFactory_services _ factory)

theorem Moves.grows (moves : Moves shared stack later stackLater) {made : Visit → Prop}
    (are : ∀ visit, .visit visit ∈ stack → made visit) : shared.Grows made later := by
  cases moves with
  | visits | binds | awaits | answers | leaves => exact .refl shared
  | goesOn visit next _ stack moves => exact moves.grows (are visit List.mem_cons_self)
  | attempts key attempt moved next services stack moves stores => exact .of_attempt moves stores

theorem Moves.from (moves : Moves shared stack later stackLater)
    (member : .visit next ∈ stackLater) :
    (∃ request, next = { request }) ∨
      ∃ visit, .visit visit ∈ stack ∧ visit.Follows shared later next := by
  have below {rest : List Frame} {top : Frame} (member : .visit next ∈ rest) :
      ∃ visit, .visit visit ∈ top :: rest ∧ visit.Follows shared later next :=
    ⟨next, List.mem_cons_of_mem top member, .stays⟩
  cases moves with
  | visits request free =>
      rcases List.mem_cons.1 member with same | member
      · exact .inl ⟨request, Frame.visit.inj same⟩
      · exact .inr ⟨next, member, .stays⟩
  | binds key free =>
      rcases List.mem_cons.1 member with same | member
      · cases same
      · exact .inr ⟨next, member, .stays⟩
  | goesOn visit moved _ rest moves =>
      rcases List.mem_cons.1 member with same | member
      · cases same
        exact .inr ⟨visit, List.mem_cons_self, .moves next moves⟩
      · exact .inr (below member)
  | awaits visit key pending rest binding unbound =>
      rcases List.mem_cons.1 member with same | member
      · cases same
      · rcases List.mem_cons.1 member with same | member
        · cases same
          exact .inr ⟨visit, List.mem_cons_self, .awaits key pending binding⟩
        · exact .inr (below member)
  | attempts key attempt moved _ services rest moves stores =>
      rcases List.mem_cons.1 member with same | member
      · cases same
      · exact .inr (below member)
  | answers key attempt ending visit pending rest ended awaiting =>
      rcases List.mem_cons.1 member with same | member
      · cases same
        exact .inr ⟨visit, by simp, .answered key pending _ ending awaiting⟩
      · exact .inr ⟨next, by simp [member], .stays⟩
  | leaves key attempt ending ended free => exact .inr (below member)

theorem Moves.to (moves : Moves shared stack later stackLater) (member : .visit visit ∈ stack) :
    ∃ next, .visit next ∈ stackLater ∧ next.request = visit.request := by
  cases moves with
  | visits | binds => exact ⟨visit, List.mem_cons_of_mem _ member, rfl⟩
  | goesOn moving moved _ rest moves =>
      rcases List.mem_cons.1 member with same | member
      · cases same
        exact ⟨moved, List.mem_cons_self, moves.same_request⟩
      · exact ⟨visit, List.mem_cons_of_mem _ member, rfl⟩
  | awaits moving key pending rest binding unbound =>
      rcases List.mem_cons.1 member with same | member
      · cases same
        exact ⟨_, List.mem_cons_of_mem _ List.mem_cons_self, rfl⟩
      · exact ⟨visit, by simp [member], rfl⟩
  | attempts key attempt moved _ services rest moves stores =>
      rcases List.mem_cons.1 member with same | member
      · cases same
      · exact ⟨visit, List.mem_cons_of_mem _ member, rfl⟩
  | answers key attempt ending waiting pending rest ended awaiting =>
      rcases List.mem_cons.1 member with same | member
      · cases same
      · rcases List.mem_cons.1 member with same | member
        · cases same
          exact ⟨_, List.mem_cons_self, rfl⟩
        · exact ⟨visit, List.mem_cons_of_mem _ member, rfl⟩
  | leaves key attempt ending ended free =>
      rcases List.mem_cons.1 member with same | member
      · cases same
      · exact ⟨visit, member, rfl⟩

end Steps

/-! ## The calls of all threads -/

namespace Scene

variable {scene later : Scene} {thread : ThreadId} {visit next : Visit}

def Made (scene : Scene) (visit : Visit) : Prop :=
  visit ∈ scene.past ∨ ∃ thread, .visit visit ∈ scene.frames thread

theorem Step.grows (step : scene.Step thread later) :
    scene.shared.Grows scene.Made later.shared := by
  cases step with
  | moves shared stack moves => exact moves.grows fun _ member => .inr ⟨thread, member⟩
  | returns => exact .refl scene.shared
  | makes plugin clock => exact .of_add plugin clock

theorem Step.from (step : scene.Step thread later) (made : later.Made next) :
    (∃ request, next = { request }) ∨
      ∃ visit, scene.Made visit ∧ visit.Follows scene.shared later.shared next := by
  cases step with
  | moves shared stack moves =>
      rcases made with returned | ⟨other, member⟩
      · exact .inr ⟨next, .inl returned, .stays⟩
      · by_cases same : other = thread
        · rw [same, frames_after_same] at member
          exact (moves.from member).imp_right fun ⟨visit, member, follows⟩ =>
            ⟨visit, .inr ⟨thread, member⟩, follows⟩
        · rw [frames_after_other _ _ _ _ _ same] at member
          exact .inr ⟨next, .inr ⟨other, member⟩, .stays⟩
  | returns visit stack there ended =>
      rcases made with returned | ⟨other, member⟩
      · rcases List.mem_append.1 returned with earlier | last
        · exact .inr ⟨next, .inl earlier, .stays⟩
        · rw [List.mem_singleton.1 last]
          exact .inr ⟨visit, .inr ⟨thread, there ▸ List.mem_cons_self⟩, .stays⟩
      · by_cases same : other = thread
        · rw [same, frames_after_same] at member
          exact .inr ⟨next, .inr ⟨thread, there ▸ List.mem_cons_of_mem _ member⟩, .stays⟩
        · rw [frames_after_other _ _ _ _ _ same] at member
          exact .inr ⟨next, .inr ⟨other, member⟩, .stays⟩
  | makes => exact .inr ⟨next, made, .stays⟩

theorem Step.to (step : scene.Step thread later) (made : scene.Made visit) :
    ∃ next, later.Made next ∧ next.request = visit.request := by
  cases step with
  | moves shared stack moves =>
      rcases made with returned | ⟨other, member⟩
      · exact ⟨visit, .inl returned, rfl⟩
      · by_cases same : other = thread
        · rw [same] at member
          rcases moves.to member with ⟨next, member, request⟩
          refine ⟨next, .inr ⟨thread, ?_⟩, request⟩
          rwa [frames_after_same]
        · refine ⟨visit, .inr ⟨other, ?_⟩, rfl⟩
          rwa [frames_after_other _ _ _ _ _ same]
  | returns returning stack there ended =>
      rcases made with returned | ⟨other, member⟩
      · exact ⟨visit, .inl (List.mem_append_left _ returned), rfl⟩
      · by_cases same : other = thread
        · rw [same, there] at member
          rcases List.mem_cons.1 member with last | below
          · cases last
            exact ⟨visit, .inl (List.mem_append_right _ (List.mem_singleton.2 rfl)), rfl⟩
          · refine ⟨visit, .inr ⟨thread, ?_⟩, rfl⟩
            rwa [frames_after_same]
        · refine ⟨visit, .inr ⟨other, ?_⟩, rfl⟩
          rwa [frames_after_other _ _ _ _ _ same]
  | makes => exact ⟨visit, made, rfl⟩

theorem BecomesOn.becomes (becomes : scene.BecomesOn thread later) : scene.Becomes later :=
  becomes.lift id fun _ _ step => ⟨thread, step⟩

theorem Becomes.keeps (becomes : scene.Becomes later) : scene.shared.Keeps later.shared := by
  induction becomes with
  | refl => exact .refl scene.shared
  | tail _ step induction =>
      rcases step with ⟨thread, step⟩
      exact induction.trans step.grows.keeps

end Scene

end Callers

end Instrumentation
