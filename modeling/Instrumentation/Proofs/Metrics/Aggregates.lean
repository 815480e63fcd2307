import Instrumentation.Proofs.Metrics.Naming

namespace Instrumentation

/-! One aggregate for each name. A search that misses a name may meet others that missed it
as well, but only the first of them takes in an aggregate: what a collector knows by a name
never changes, and so all samples for a name come together in what it shows for the name. -/

/-! ## What a collector knows -/

namespace Collector

variable {collector : Collector} {name : String} (fresh : Key MetricStats)

theorem findOrInsertStats_of_known {stats : Key MetricStats}
    (known : collector.findStats? name = some stats) :
    collector.findOrInsertStats name fresh = (stats, collector) := by
  rw [findStats?] at known
  rw [findOrInsertStats, known]

theorem findOrInsertStats_of_missing (missing : collector.findStats? name = none) :
    collector.findOrInsertStats name fresh =
      (fresh, { collector with metrics := collector.metrics.insert name fresh }) := by
  rw [findStats?] at missing
  rw [findOrInsertStats, missing]

end Collector

namespace Naming

open Counters

namespace Scene

variable {scene later : Scene}

def known (scene : Scene) (name : String) : Option (Key MetricStats) :=
  scene.collector.findStats? name

inductive Learns (scene later : Scene) : Prop
  | nothing (known : later.known = scene.known) (grows : scene.stats.size ≤ later.stats.size)
  | takesIn (name : String) (missing : scene.known name = none)
      (known : ∀ other, later.known other =
        if other = name then some scene.stats.nextKey else scene.known other)
      (ended : { name, stage := .ended scene.stats.nextKey } ∈ later.searches)
      (stats : later.stats = scene.stats.add .empty)

theorem takingIn_of_known {index : Nat} {name : String} {stats : Key MetricStats}
    (known : scene.known name = some stats) :
    scene.takingIn index name =
      { scene with
        searches := scene.searches.set index { name, stage := .ended stats } } := by
  rw [Scene.known] at known
  rw [takingIn, Collector.findOrInsertStats_of_known _ known, known]
  rfl

theorem takingIn_of_missing {index : Nat} {name : String} (missing : scene.known name = none) :
    scene.takingIn index name =
      { scene with
        collector :=
          { scene.collector with
            metrics := scene.collector.metrics.insert name scene.stats.nextKey }
        stats := scene.stats.add .empty
        searches :=
          scene.searches.set index { name, stage := .ended scene.stats.nextKey } } := by
  rw [known] at missing
  rw [takingIn, Collector.findOrInsertStats_of_missing _ missing, missing]
  rfl

theorem Step.learns (step : scene.Step later) : scene.Learns later := by
  cases step with
  | searches | finds | misses | samples | asks | lacks | opens | reads =>
      exact .nothing rfl (Nat.le_refl _)
  | takesUp => exact .nothing rfl (scene.stats.size_le_put _ _)
  | elsewhere collector stats names grows =>
      refine .nothing (funext fun name => ?_) grows
      rw [known, Collector.findStats?, names]
      rfl
  | takesIn index name there =>
      have within := (List.getElem?_eq_some_iff.1 there).1
      cases sought : scene.known name with
      | some stats =>
          rw [takingIn_of_known sought]
          exact .nothing rfl (Nat.le_refl _)
      | none =>
          rw [takingIn_of_missing sought]
          refine .takesIn name sought ?_ (List.mem_set within _) rfl
          exact fun other => Dict.find?_insert scene.collector.metrics name other _

/-- What is known by a name is never replaced. -/
theorem Step.keeps (step : scene.Step later) {name : String} {stats : Key MetricStats}
    (known : scene.known name = some stats) : later.known name = some stats := by
  cases step.learns with
  | nothing same => rwa [same]
  | takesIn other missing learnt =>
      rw [learnt, if_neg, known]
      rintro rfl
      exact nomatch missing.symm.trans known

inductive Cites (scene : Scene) (name : String) (stats : Key MetricStats) : Prop
  | search (there : { name, stage := .ended stats } ∈ scene.searches)
  | sampling (intake : Intake) (there : { name, delivery := { stats, intake } } ∈ scene.samplings)
  | question (look : Look) (there : { name, reply := .reading stats look } ∈ scene.questions)

section Cited

variable {name : String} {stats : Key MetricStats}

theorem Step.cites_search (step : scene.Step later)
    (there : { name, stage := .ended stats } ∈ later.searches) :
    { name, stage := .ended stats } ∈ scene.searches ∨ later.known name = some stats := by
  cases step with
  | searches other =>
      rcases List.mem_append.1 there with there | new
      · exact .inl there
      · cases List.mem_singleton.1 new
  | finds index other found _ known =>
      rcases List.mem_or_eq_of_mem_set there with there | new
      · exact .inl there
      · cases new
        exact .inr known
  | misses =>
      rcases List.mem_or_eq_of_mem_set there with there | new
      · exact .inl there
      · cases new
  | takesIn index other =>
      cases sought : scene.known other with
      | some found =>
          rw [takingIn_of_known sought] at there ⊢
          rcases List.mem_or_eq_of_mem_set there with there | new
          · exact .inl there
          · cases new
            exact .inr sought
      | none =>
          rw [takingIn_of_missing sought] at there ⊢
          rcases List.mem_or_eq_of_mem_set there with there | new
          · exact .inl there
          · cases new
            exact .inr ((Dict.find?_insert _ _ _ _).trans (if_pos rfl))
  | samples | takesUp | asks | lacks | opens | reads | elsewhere => exact .inl there

/-- Samples are only taken through handles that a search has come to. -/
theorem Step.cites_sampling (step : scene.Step later) {intake : Intake}
    (there : { name, delivery := { stats, intake } } ∈ later.samplings) :
    scene.Cites name stats := by
  cases step with
  | samples index other found nanoseconds ended =>
      rcases List.mem_append.1 there with there | new
      · exact .sampling intake there
      · cases List.mem_singleton.1 new
        exact .search (List.mem_of_getElem? ended)
  | takesUp index sampling taken =>
      rcases List.mem_or_eq_of_mem_set there with there | new
      · exact .sampling intake there
      · cases new
        exact .sampling _ (List.mem_of_getElem? taken)
  | searches | finds | misses | takesIn | asks | lacks | opens | reads | elsewhere =>
      exact .sampling intake there

theorem Step.cites_question (step : scene.Step later) {look : Look}
    (there : { name, reply := .reading stats look } ∈ later.questions) :
    scene.Cites name stats ∨ scene.known name = some stats := by
  cases step with
  | asks other =>
      rcases List.mem_append.1 there with there | new
      · exact .inl (.question look there)
      · cases List.mem_singleton.1 new
  | lacks =>
      rcases List.mem_or_eq_of_mem_set there with there | new
      · exact .inl (.question look there)
      · cases new
  | opens index other found _ known =>
      rcases List.mem_or_eq_of_mem_set there with there | new
      · exact .inl (.question look there)
      · cases new
        exact .inr known
  | reads index other found earlier reading =>
      rcases List.mem_or_eq_of_mem_set there with there | new
      · exact .inl (.question look there)
      · cases new
        exact .inl (.question earlier (List.mem_of_getElem? reading))
  | searches | finds | misses | takesIn | samples | takesUp | elsewhere =>
      exact .inl (.question look there)

theorem Step.cites (step : scene.Step later) (cites : later.Cites name stats) :
    scene.Cites name stats ∨ later.known name = some stats := by
  cases cites with
  | search there => exact (step.cites_search there).imp_left .search
  | sampling intake there => exact .inl (step.cites_sampling there)
  | question look there => exact (step.cites_question there).imp_right step.keeps

end Cited

theorem Step.search_stays (step : scene.Step later) {index : Nat} {search : Search}
    (there : scene.searches[index]? = some search) (ended : search.HasEnded) :
    later.searches[index]? = some search := by
  have other {place : Nat} {found : Search} (moving : scene.searches[place]? = some found)
      (goesOn : ¬ found.HasEnded) (next : Search) :
      (scene.searches.set place next)[index]? = some search := by
    rw [List.getElem?_set_ne, there]
    rintro rfl
    cases there.symm.trans moving
    exact goesOn ended
  cases step with
  | searches =>
      have within := (List.getElem?_eq_some_iff.1 there).1
      exact (List.getElem?_append_left within).trans there
  | finds index name stats looking => exact other looking nofun _
  | misses index name looking => exact other looking nofun _
  | takesIn index name taking => exact other taking nofun _
  | samples | takesUp | asks | lacks | opens | reads | elsewhere => exact there

/-! ## Counters -/

theorem Step.traffic (step : scene.Step later) :
    scene.traffic.Moves later.traffic ∨
      later.samplings = scene.samplings ∧
        ∀ name stats, scene.known name = some stats →
          later.stats.get stats = scene.stats.get stats := by
  cases step with
  | samples index name stats nanoseconds =>
      left
      have moves := @Traffic.Moves.begins scene.traffic scene.traffic.deliveries [] stats
        nanoseconds (List.append_nil _).symm
      let sampling : Sampling := .begun name stats nanoseconds
      have grown : (scene.samplings ++ [sampling]).map Sampling.delivery =
          scene.traffic.deliveries ++ [.begun stats nanoseconds] :=
        List.map_append
      rwa [← grown] at moves
  | takesUp index sampling there goesOn =>
      left
      have delivery : scene.traffic.deliveries[index]? = some sampling.delivery := by
        rw [Scene.traffic, List.getElem?_map, there]
        rfl
      have moves := Traffic.Moves.takesUpAt delivery goesOn
      have moved : (scene.samplings.set index sampling.advanced).map Sampling.delivery =
          scene.traffic.deliveries.set index sampling.delivery.advanced :=
        List.map_set
      rwa [← moved] at moves
  | takesIn index name =>
      refine .inr ⟨rfl, fun _ stats _ => ?_⟩
      rw [takingIn]
      split
      · rfl
      · exact scene.stats.get_add_default stats
  | elsewhere _ _ _ _ kept => exact .inr ⟨rfl, kept⟩
  | searches | finds | misses | asks | lacks | opens | reads => exact .inl .rests

theorem Step.account (step : scene.Step later) {name : String} {stats : Key MetricStats}
    (known : scene.known name = some stats) :
    (scene.traffic.account stats).Goes (later.traffic.account stats) := by
  rcases step.traffic with moves | ⟨samplings, kept⟩
  · exact moves.account stats
  · have same : later.traffic.account stats = scene.traffic.account stats := by
      apply Traffic.account_of_same (kept name stats known)
      rw [Scene.traffic, Scene.traffic, samplings]
    rw [same]
    exact .turned _ (.idle [])

/-! ## Invariant -/

/-- What is known by names was found by searches, no aggregate is known by two names, and the
counters of each come to the samples that are on their way to it. -/
structure Filed (scene : Scene) : Prop where
  within : ∀ name stats, scene.known name = some stats → stats.index < scene.stats.size
  apart : ∀ name other stats, scene.known name = some stats → scene.known other = some stats →
    name = other
  cited : ∀ name stats, scene.Cites name stats → scene.known name = some stats
  sought : ∀ name stats, scene.known name = some stats →
    { name, stage := .ended stats } ∈ scene.searches
  tallied : ∀ name stats, scene.known name = some stats →
    (scene.traffic.account stats).Tallied

namespace Filed

theorem opening (opens : scene.IsOpening) : scene.Filed := by
  have nothing (name : String) (stats : Key MetricStats) : scene.known name ≠ some stats := by
    rw [known, Collector.findStats?, opens.names]
    exact nofun
  constructor
  · exact fun name stats known => absurd known (nothing name stats)
  · exact fun name _ stats known => absurd known (nothing name stats)
  · intro name stats cites
    cases cites with
    | search there => rw [opens.searches] at there; cases there
    | sampling _ there => rw [opens.samplings] at there; cases there
    | question _ there => rw [opens.questions] at there; cases there
  · exact fun name stats known => absurd known (nothing name stats)
  · exact fun name stats known => absurd known (nothing name stats)

theorem ne_nextKey (filed : scene.Filed) {name : String} {stats : Key MetricStats}
    (known : scene.known name = some stats) : stats ≠ scene.stats.nextKey := by
  rintro rfl
  exact Nat.lt_irrefl _ (filed.within name _ known)

/-- No sample is on its way yet to an aggregate that is just being taken in. -/
theorem unsampled (filed : scene.Filed) (step : scene.Step later) :
    (later.traffic.account scene.stats.nextKey).intakes = [] := by
  rw [Traffic.account, List.filterMap_eq_nil_iff]
  intro delivery member
  rcases List.mem_map.1 member with ⟨sampling, there, rfl⟩
  exact if_neg (filed.ne_nextKey (filed.cited _ _ (step.cites_sampling there)))

theorem step (filed : scene.Filed) (step : scene.Step later) : later.Filed := by
  have cited (name : String) (stats : Key MetricStats) (cites : later.Cites name stats) :
      later.known name = some stats :=
    (step.cites cites).elim (fun cites => step.keeps (filed.cited name stats cites)) id
  have stays {name : String} {stats : Key MetricStats} (known : scene.known name = some stats) :
      { name, stage := .ended stats } ∈ later.searches := by
    rcases List.mem_iff_getElem?.1 (filed.sought name stats known) with ⟨index, there⟩
    exact List.mem_of_getElem? (step.search_stays there ⟨stats, rfl⟩)
  have counted {name : String} {stats : Key MetricStats} (known : scene.known name = some stats) :
      (later.traffic.account stats).Tallied :=
    (step.account known).tallied (filed.tallied name stats known)
  cases step.learns with
  | nothing same grows =>
      constructor
      · exact fun name stats known => (filed.within name stats (same ▸ known)).trans_le grows
      · rw [same]
        exact filed.apart
      · exact cited
      · exact fun name stats known => stays (same ▸ known)
      · exact fun name stats known => @counted name stats (same ▸ known)
  | takesIn taken missing learnt ended grown =>
      -- What is known now was known before, or is what was taken in.
      have cases {name : String} {stats : Key MetricStats}
          (known : later.known name = some stats) :
          name = taken ∧ stats = scene.stats.nextKey ∨ scene.known name = some stats := by
        rw [learnt] at known
        split at known
        · next same => exact .inl ⟨same, (Option.some.inj known).symm⟩
        · exact .inr known
      constructor
      · intro name stats known
        rw [grown, Table.size_add]
        rcases cases known with ⟨_, rfl⟩ | known
        · exact Nat.lt_succ_self _
        · exact (filed.within name stats known).trans (Nat.lt_succ_self _)
      · intro name other stats known also
        rcases cases known with ⟨rfl, rfl⟩ | known <;> rcases cases also with ⟨rfl, same⟩ | also
        · rfl
        · exact absurd rfl (filed.ne_nextKey also)
        · exact absurd same (filed.ne_nextKey known)
        · exact filed.apart name other stats known also
      · exact cited
      · intro name stats known
        rcases cases known with ⟨rfl, rfl⟩ | known
        · exact ended
        · exact stays known
      · intro name stats known
        rcases cases known with ⟨rfl, rfl⟩ | known
        · apply Counters.Scene.tallied_of_fresh
          · rw [Traffic.account, Scene.traffic, grown]
            exact Table.get_add_nextKey _ _
          · rw [filed.unsampled step]
            exact List.forall_mem_nil _
        · exact counted known

theorem becomes (filed : scene.Filed) (becomes : scene.Becomes later) : later.Filed := by
  induction becomes with
  | refl => exact filed
  | tail _ step induction => exact induction.step step

end Filed

/-! ## Samples by name -/

def intakesOf (scene : Scene) (name : String) : List Intake :=
  scene.samplings.filterMap fun sampling =>
    if sampling.name = name then some sampling.delivery.intake else none

def taken (scene : Scene) (name : String) : List Nat :=
  (scene.intakesOf name).map (·.sample)

def past (scene : Scene) (name : String) (steps : Nat) : List Nat :=
  (scene.intakesOf name).flatMap (·.past steps)

def begun (scene : Scene) (name : String) : List Nat :=
  scene.past name 1

def finished (scene : Scene) (name : String) : List Nat :=
  scene.past name 4

def IsAtRest (scene : Scene) (name : String) : Prop :=
  ∀ intake ∈ scene.intakesOf name, ¬ intake.IsUnderway

namespace Filed

variable {name : String} {stats : Key MetricStats}

theorem intakes_account (filed : scene.Filed) (known : scene.known name = some stats) :
    (scene.traffic.account stats).intakes = scene.intakesOf name := by
  rw [Traffic.account, Scene.traffic, List.filterMap_map, intakesOf]
  refine List.filterMap_congr fun sampling there => ?_
  have cited := filed.cited _ _ (.sampling sampling.delivery.intake there)
  have same : sampling.delivery.stats = stats ↔ sampling.name = name := by
    constructor
    · rintro rfl
      exact filed.apart _ _ _ cited known
    · rintro rfl
      exact Option.some.inj (cited.symm.trans known)
  simp only [Function.comp_apply, Delivery.intakeFor?, same]

theorem past_account (filed : scene.Filed) (known : scene.known name = some stats)
    (steps : Nat) : (scene.traffic.account stats).past steps = scene.past name steps := by
  rw [Counters.Scene.past, filed.intakes_account known, Scene.past]

theorem intakesOf_missing (filed : scene.Filed) (missing : scene.known name = none) :
    scene.intakesOf name = [] := by
  rw [intakesOf, List.filterMap_eq_nil_iff]
  intro sampling there
  refine if_neg fun same => ?_
  have cited := filed.cited _ _ (.sampling sampling.delivery.intake there)
  rw [same, missing] at cited
  cases cited

theorem grows (filed : scene.Filed) (step : scene.Step later) (name : String) {steps : Nat}
    (some : 0 < steps) : (scene.past name steps).Sublist (later.past name steps) := by
  cases known : scene.known name with
  | none =>
      rw [past, filed.intakesOf_missing known]
      exact List.nil_sublist _
  | some stats =>
      rw [← filed.past_account known, ← (filed.step step).past_account (step.keeps known)]
      exact (step.account known).grows some

/-- When no sample for a name is there in part, its aggregate is that of all of them. -/
theorem recordAll_finished (filed : scene.Filed) (known : scene.known name = some stats)
    (rests : scene.IsAtRest name) :
    scene.stats.get stats = MetricStats.empty.recordAll (scene.finished name) := by
  have atRest : (scene.traffic.account stats).IsAtRest := by
    rw [Counters.Scene.IsAtRest, filed.intakes_account known]
    exact rests
  have whole := (filed.tallied name stats known).of_rest atRest
  rwa [Counters.Scene.finished, filed.past_account known] at whole

end Filed

theorem Becomes.keeps (becomes : scene.Becomes later) {name : String} {stats : Key MetricStats}
    (known : scene.known name = some stats) : later.known name = some stats := by
  induction becomes with
  | refl => exact known
  | tail _ step induction => exact step.keeps induction

theorem Becomes.grows (becomes : scene.Becomes later) (filed : scene.Filed) (name : String)
    {steps : Nat} (some : 0 < steps) :
    (scene.past name steps).Sublist (later.past name steps) := by
  induction becomes with
  | refl => exact .refl _
  | tail earlier step induction =>
      exact induction.trans ((filed.becomes earlier).grows step name some)

end Scene

/-! ## Questions -/

/-- What may be answered to a question that is asked of this name in the first of these
scenes. -/
def Reply.Sound (asked now : Scene) (name : String) : Reply → Prop
  | .awaited => True
  | .unknown => asked.known name = none
  | .reading stats look =>
      now.known name = some stats ∧ look.Covers (asked.finished name) (now.begun name)

section Questions

variable {asked scene later : Scene} {name : String} {reply : Reply}

theorem Reply.Sound.stays (sound : reply.Sound asked scene name) (filed : scene.Filed)
    (step : scene.Step later) : reply.Sound asked later name := by
  cases reply with
  | awaited => trivial
  | unknown => exact sound
  | reading stats look =>
      exact ⟨step.keeps sound.1, sound.2.later (filed.grows step name (by decide))⟩

/-- Whatever step is made, what a question has been answered so far is sound. -/
theorem Scene.Step.answers (step : scene.Step later) (filed : asked.Filed)
    (becomes : asked.Becomes scene) {index : Nat}
    (there : scene.questions[index]? = some { name, reply })
    (sound : reply.Sound asked scene name) :
    ∃ reply, later.questions[index]? = some { name, reply } ∧ reply.Sound asked later name := by
  have filedNow := filed.becomes becomes
  have still := sound.stays filedNow step
  -- A question that moves on is this one, or this one stays as it is.
  have moved {place : Nat} {other : String} {before after : Reply}
      (moving : scene.questions[place]? = some { name := other, reply := before })
      (next : other = name → before = reply → after.Sound asked later name) :
      ∃ reply, (scene.questions.set place { name := other, reply := after })[index]? =
        some { name, reply } ∧ reply.Sound asked later name := by
    by_cases here : place = index
    · subst here
      cases moving.symm.trans there
      have within := (List.getElem?_eq_some_iff.1 there).1
      exact ⟨after, List.getElem?_set_self within, next rfl rfl⟩
    · exact ⟨reply, (List.getElem?_set_ne here).trans there, still⟩
  cases step with
  | asks =>
      have within := (List.getElem?_eq_some_iff.1 there).1
      exact ⟨reply, (List.getElem?_append_left within).trans there, still⟩
  | lacks place other asking missing =>
      refine moved asking fun same _ => ?_
      subst same
      by_contra known
      rcases Option.ne_none_iff_exists'.1 known with ⟨stats, known⟩
      exact nomatch missing.symm.trans (becomes.keeps known)
  | opens place other stats asking known =>
      refine moved asking fun same _ => ?_
      subst same
      exact ⟨known, trivial⟩
  | reads place other stats look reading =>
      refine moved reading fun same before => ?_
      subst same
      subst before
      have ⟨known, covers⟩ := sound
      have begun : (scene.traffic.account stats).begun = scene.begun other :=
        filedNow.past_account known 1
      have finished : (scene.traffic.account stats).finished = scene.finished other :=
        filedNow.past_account known 4
      have grown : (asked.finished other).Sublist (scene.finished other) :=
        becomes.grows filed other (by decide)
      rw [← begun] at covers
      rw [← finished] at grown
      have advanced := covers.advanced (filedNow.tallied other stats known) grown
      rw [begun] at advanced
      exact ⟨known, advanced⟩
  | searches | finds | misses | takesIn | samples | takesUp | elsewhere =>
      exact ⟨reply, there, still⟩

theorem Scene.Becomes.answers (becomes : scene.Becomes later) (filed : scene.Filed) {index : Nat}
    (asks : scene.questions[index]? = some { name }) :
    ∃ reply, later.questions[index]? = some { name, reply } ∧ reply.Sound scene later name := by
  induction becomes with
  | refl => exact ⟨.awaited, asks, trivial⟩
  | tail earlier step induction =>
      rcases induction with ⟨reply, there, sound⟩
      exact step.answers filed earlier there sound

end Questions

section Searches

variable {scene : Scene} {index : Nat} {name : String}

theorem getElem?_moved {search : Search} (there : scene.searches[index]? = some search)
    (next : Search) : (scene.searches.set index next)[index]? = some next :=
  List.getElem?_set_self (List.getElem?_eq_some_iff.1 there).1

theorem takingIn_ends (there : scene.searches[index]? = some { name, stage := .takingIn }) :
    ∃ next stats, scene.Becomes next ∧
      next.searches[index]? = some { name, stage := .ended stats } :=
  ⟨_, _, .single (.takesIn index name there), getElem?_moved there _⟩

/-- A search that nobody interrupts comes to an end. -/
theorem search_ends {stage : Stage} (there : scene.searches[index]? = some { name, stage }) :
    ∃ next stats, scene.Becomes next ∧
      next.searches[index]? = some { name, stage := .ended stats } := by
  cases stage with
  | ended stats => exact ⟨scene, stats, .refl, there⟩
  | takingIn => exact takingIn_ends there
  | looking =>
      cases known : scene.known name with
      | some stats =>
          exact ⟨_, stats, .single (.finds index name stats there known), getElem?_moved there _⟩
      | none =>
          let missing : Search := { name, stage := .takingIn }
          let missed : Scene := { scene with searches := scene.searches.set index missing }
          have waits : missed.searches[index]? = some missing := getElem?_moved there missing
          rcases takingIn_ends waits with ⟨next, stats, becomes, ended⟩
          exact ⟨next, stats, .head (.misses index name there known) becomes, ended⟩

end Searches

theorem Scene.Filed.mem_metricNames_iff {scene : Scene} (filed : scene.Filed) {name : String} :
    name ∈ scene.collector.metricNames ↔
      ∃ search ∈ scene.searches, search.name = name ∧ search.HasEnded := by
  rw [Collector.metricNames, ← Dict.isSome_find?_iff, Option.isSome_iff_exists]
  constructor
  · rintro ⟨stats, known⟩
    exact ⟨_, filed.sought name stats known, rfl, stats, rfl⟩
  · rintro ⟨⟨_, _⟩, there, rfl, stats, rfl⟩
    exact ⟨stats, filed.cited _ _ (.search there)⟩

end Naming

end Instrumentation
