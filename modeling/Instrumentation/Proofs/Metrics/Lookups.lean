import Instrumentation.Proofs.Metrics.Accounts
import Instrumentation.Proofs.Metrics.Aggregates

namespace Instrumentation.Naming

/-! Programs that look up aggregates. What making a handle, taking a sample through it and
asking a collector for a name do when nobody interrupts them is a search, a sample that is taken
up and a question; and so each name has one aggregate for all of them, whoever interrupts whom. -/

open Counters

variable {Host : Type} {key : Key Collector} {world : World Host} {scene : Scene}
  {name : String}

namespace Scene

structure Shows (scene : Scene) (key : Key Collector) (world : World Host) : Prop where
  collector : scene.collector = world.collectors.get key
  stats : scene.stats = world.stats

end Scene

/-! ## Handles -/

/-- Looking up an aggregate is a search that comes to it. -/
theorem statsFor_becomes {view : CollectorView} (shows : scene.Shows view.collector world)
    (name : String) :
    ∃ stats left later, view.statsFor name world = (.ok stats, left) ∧ scene.Becomes later ∧
      later.Shows view.collector left ∧
      later.searches = scene.searches ++ [{ name, stage := .ended stats }] := by
  let looking : Scene := { scene with searches := scene.searches ++ [{ name }] }
  have begun : scene.Step looking := .searches name
  have there : looking.searches[scene.searches.length]? = some { name } :=
    List.getElem?_concat_length
  have same : scene.known name = (world.collectors.get view.collector).findStats? name := by
    rw [Scene.known, shows.collector]
  cases known : scene.known name with
  | some stats =>
      rw [view.statsFor_of_known (same ▸ known)]
      have found := Scene.Step.finds _ name stats there known
      exact ⟨stats, world, _, rfl, .head begun (.single found),
        ⟨shows.collector, shows.stats⟩, set_last scene.searches _ _⟩
  | none =>
      rw [view.statsFor_of_missing (same ▸ known)]
      let missing : Search := { name, stage := .takingIn }
      let missed : Scene := { scene with searches := scene.searches ++ [missing] }
      have misses : looking.Step missed := by
        have step := Scene.Step.misses _ name there known
        rwa [set_last] at step
      have waits : missed.searches[scene.searches.length]? = some missing :=
        List.getElem?_concat_length
      have taken := Scene.Step.takesIn _ name waits
      have unknown : missed.known name = none := known
      rw [Scene.takingIn_of_missing unknown] at taken
      refine ⟨_, _, _, rfl, .head begun (.head misses (.single taken)), ⟨?_, ?_⟩, ?_⟩
      · rw [World.withAggregate, World.setCollector, Table.get_put_same, ← shows.stats,
          ← shows.collector]
      · exact congrArg (·.add .empty) shows.stats
      · rw [← shows.stats]
        exact set_last scene.searches _ _

def Scene.Creates (scene : Scene) (view : CollectorView) (name : String) (world : World Host) :
    Prop :=
  ∃ metric left later, view.createMetric name world = (.ok metric, left) ∧
    scene.Becomes later ∧ later.Shows view.collector left ∧
    later.searches = scene.searches ++ [{ name, stage := .ended metric.stats }]

theorem createMetric_becomes {view : CollectorView} (shows : scene.Shows view.collector world)
    (name : String) : scene.Creates view name world := by
  rcases statsFor_becomes shows name with ⟨stats, left, later, looks, becomes, shown, ended⟩
  rw [Scene.Creates, CollectorView.createMetric, Program.bind_of_ok looks]
  exact ⟨_, left, later, rfl, becomes, shown, ended⟩

/-! ## Samples -/

theorem takesUp_last {earlier : List Sampling} {sampling : Sampling}
    (last : scene.samplings = earlier ++ [sampling])
    (goesOn : sampling.delivery.intake.steps < 4) :
    scene.Step
      { scene with
        stats := scene.traffic.takingUp sampling.delivery
        samplings := earlier ++ [sampling.advanced] } := by
  have there : scene.samplings[earlier.length]? = some sampling := by
    rw [last]
    exact List.getElem?_concat_length
  have step := Scene.Step.takesUp _ sampling there goesOn
  rwa [last, set_last] at step

def Scene.Takes (scene : Scene) (key : Key Collector) (metric : Metric) (name : String)
    (nanoseconds : Nat) (world : World Host) : Prop :=
  ∃ left later, metric.record nanoseconds world = (.ok (), left) ∧ scene.Becomes later ∧
    later.Shows key left ∧
    later.samplings = scene.samplings ++
      [{ name, delivery := { stats := metric.stats, intake := ⟨nanoseconds, 4⟩ } }]

theorem record_becomes {metric : Metric} (shows : scene.Shows key world)
    (found : { name, stage := .ended metric.stats } ∈ scene.searches) (nanoseconds : Nat) :
    scene.Takes key metric name nanoseconds world := by
  rcases List.mem_iff_getElem?.1 found with ⟨index, there⟩
  let underway (table : Table MetricStats) (steps : Nat) : Scene :=
    { scene with
      stats := table
      samplings := scene.samplings ++
        [{ name, delivery := { stats := metric.stats, intake := ⟨nanoseconds, steps⟩ } }] }
  have begun : scene.Step (underway scene.stats 0) := .samples index name metric.stats _ there
  have step (table : Table MetricStats) (steps : Nat) (goesOn : steps < 4) :
      (underway table steps).Step
        (underway (table.modify metric.stats (Intake.touch ⟨nanoseconds, steps⟩)) (steps + 1)) :=
    @takesUp_last (underway table steps) scene.samplings
      { name, delivery := { stats := metric.stats, intake := ⟨nanoseconds, steps⟩ } } rfl goesOn
  refine ⟨_, _, rfl, .head begun <| .head (step _ 0 (by decide)) <|
    .head (step _ 1 (by decide)) <| .head (step _ 2 (by decide)) <|
    .single (step _ 3 (by decide)), ⟨shows.collector, ?_⟩, rfl⟩
  rw [shows.stats]
  exact modify_touches world.stats metric.stats nanoseconds

/-! ## Snapshots -/

theorem reads_last {earlier : List Question} {stats : Key MetricStats} {look : Look}
    (last : scene.questions = earlier ++ [{ name, reply := .reading stats look }]) :
    scene.Step
      { scene with
        questions := earlier ++
          [{ name, reply := .reading stats (look.advanced (scene.stats.get stats)) }] } := by
  have there : scene.questions[earlier.length]? =
      some { name, reply := .reading stats look } := by
    rw [last]
    exact List.getElem?_concat_length
  have step := Scene.Step.reads _ name stats look there
  rwa [last, set_last] at step

def Scene.Answers (scene : Scene) (key : Key Collector) (name : String) (world : World Host) :
    Prop :=
  ∃ (answer : Option Snapshot) (later : Scene) (reply : Reply),
    Collector.metricSnapshot key name world = (.ok answer, world) ∧
    scene.Becomes later ∧ later.Shows key world ∧
    later.questions = scene.questions ++ [{ name, reply : Question }] ∧
    (answer = none ∧ reply = .unknown ∨
      ∃ stats snapshot, answer = some snapshot ∧ reply = .reading stats (.ended snapshot))

theorem metricSnapshot_becomes (shows : scene.Shows key world) (name : String) :
    scene.Answers key name world := by
  let asking : Scene := { scene with questions := scene.questions ++ [{ name }] }
  have asked : scene.Step asking := .asks name
  have there : asking.questions[scene.questions.length]? = some { name } :=
    List.getElem?_concat_length
  have same : scene.known name = (world.accounts.metrics key).find? name := by
    rw [Scene.known, shows.collector]
    rfl
  rw [Scene.Answers, Collector.metricSnapshot_apply, ← same]
  cases known : scene.known name with
  | none =>
      have lacks := Scene.Step.lacks _ name there known
      exact ⟨none, _, .unknown, rfl, .head asked (.single lacks),
        ⟨shows.collector, shows.stats⟩, set_last scene.questions _ _, .inl ⟨rfl, rfl⟩⟩
  | some stats =>
      let reading (look : Look) : Scene :=
        { scene with
          questions := scene.questions ++ [{ name, reply := .reading stats look }] }
      have opens : asking.Step (reading .opening) := by
        have step := Scene.Step.opens _ name stats there known
        rwa [set_last] at step
      have reads (look : Look) :
          (reading look).Step (reading (look.advanced (scene.stats.get stats))) :=
        @reads_last (reading look) name scene.questions stats look rfl
      refine ⟨_, _, _, rfl, .head asked <| .head opens <| .head (reads _) <|
        .head (reads _) <| .head (reads _) <| .single (reads _),
        ⟨shows.collector, shows.stats⟩, rfl, .inr ⟨stats, _, ?_, rfl⟩⟩
      rw [shows.stats]
      rfl

/-! ## Programs -/

/-- What programs do with the collector when nobody interrupts them. -/
structure Scene.Performs (scene : Scene) (key : Key Collector) (world : World Host) : Prop where
  creates : ∀ (view : CollectorView) name, view.collector = key → scene.Creates view name world
  takes : ∀ (metric : Metric) name nanoseconds,
    { name, stage := .ended metric.stats } ∈ scene.searches →
    scene.Takes key metric name nanoseconds world
  answers : ∀ name, scene.Answers key name world

theorem Scene.Shows.performs (shows : scene.Shows key world) : scene.Performs key world where
  creates view name mine := by
    subst mine
    exact createMetric_becomes shows name
  takes _ _ nanoseconds found := record_becomes shows found nanoseconds
  answers := metricSnapshot_becomes shows

/-! ## The statement -/

/-- Any number of searches for names, samples through the handles that they come to, and
questions, step by step in any interleaving: searches for one name come to one aggregate and
those for two to two, and every search comes to an end. What is known by a name stays known by
it. All samples for a name are on their way to its aggregate, which comes to all of them; and
whoever asks for a name meanwhile is shown each that was finished before. The names that are
listed are those that were searched for, each once. And what programs do with the collector
when nobody interrupts them are such searches, samples and questions. -/
theorem each_name_has_one_aggregate {opening scene later : Scene} (opens : opening.IsOpening)
    (reached : opening.Becomes scene) (goesOn : scene.Becomes later) :
    (∀ first ∈ scene.searches, ∀ second ∈ scene.searches, ∀ stats other,
      first.stage = .ended stats → second.stage = .ended other →
      (first.name = second.name ↔ stats = other)) ∧
    (∀ (index : Nat) name stage, scene.searches[index]? = some { name, stage } →
      ∃ next stats, scene.Becomes next ∧
        next.searches[index]? = some { name, stage := .ended stats }) ∧
    (∀ name stats, scene.known name = some stats → later.known name = some stats) ∧
    (∀ sampling ∈ scene.samplings, scene.known sampling.name = some sampling.delivery.stats) ∧
    (∀ name stats, scene.known name = some stats → scene.IsAtRest name →
      ∀ order, order.Perm (scene.finished name) →
        scene.stats.get stats = MetricStats.empty.recordAll order) ∧
    (∀ (index : Nat) name, scene.questions[index]? = some { name } →
      (later.questions[index]? = some { name, reply := .unknown } →
        scene.known name = none ∧ scene.taken name = []) ∧
      ∀ stats snapshot,
        later.questions[index]? = some { name, reply := .reading stats (.ended snapshot) } →
        Covers (scene.finished name) (later.begun name) snapshot) ∧
    scene.collector.metricNames.Pairwise (· < ·) ∧
    (∀ name, name ∈ scene.collector.metricNames ↔
      ∃ search ∈ scene.searches, search.name = name ∧ search.HasEnded) ∧
    ∀ (Host : Type) (key : Key Collector) (world : World Host), scene.Shows key world →
      scene.Performs key world := by
  have filed := (Scene.Filed.opening opens).becomes reached
  refine ⟨?_, fun _ _ _ => search_ends, fun _ _ => goesOn.keeps, ?_, ?_, ?_,
    scene.collector.metrics.ordered, fun _ => filed.mem_metricNames_iff,
    fun _ _ _ shows => shows.performs⟩
  · rintro ⟨name, _⟩ there ⟨otherName, _⟩ alsoThere stats other rfl rfl
    have known := filed.cited name stats (.search there)
    have alsoKnown := filed.cited otherName other (.search alsoThere)
    constructor
    · rintro rfl
      exact Option.some.inj (known.symm.trans alsoKnown)
    · rintro rfl
      exact filed.apart _ _ _ known alsoKnown
  · exact fun sampling there => filed.cited _ _ (.sampling sampling.delivery.intake there)
  · intro name stats known rests order perm
    rw [filed.recordAll_finished known rests]
    exact MetricStats.empty.recordAll_perm perm.symm
  · intro index name asks
    rcases goesOn.answers filed asks with ⟨reply, there, sound⟩
    constructor
    · intro unknown
      cases there.symm.trans unknown
      refine ⟨sound, ?_⟩
      rw [Scene.taken, filed.intakesOf_missing sound]
      rfl
    · intro stats snapshot reading
      cases there.symm.trans reading
      exact sound.2

/-- Two searches that have both missed a name, and a sample that is taken through the handle
of the first before the second takes the name in. A question for the name sees a further
sample, which comes through the handle of the second, in part. -/
theorem rush_ends :
    ∃ opening scene later : Scene, opening.IsOpening ∧ opening.Becomes scene ∧
      scene.Becomes later ∧
      scene.searches = [⟨"sql", .ended ⟨0⟩⟩, ⟨"sql", .ended ⟨0⟩⟩, ⟨"http", .ended ⟨1⟩⟩] ∧
      scene.questions[0]? = some { name := "sql" } ∧ scene.finished "sql" = [7] ∧
      later.begun "sql" = [7, 5] ∧
      later.questions[0]? =
        some { name := "sql", reply := .reading ⟨0⟩ (.ended ⟨2, 7, 7, 7⟩) } := by
  refine ⟨{ collector := default }, _, _, ⟨rfl, rfl, rfl, rfl⟩, .head (.searches "sql") <|
    .head (.searches "sql") <| .head (.searches "http") <|
    .head (.misses 0 "sql" rfl rfl) <| .head (.misses 1 "sql" rfl rfl) <|
    .head (.misses 2 "http" rfl rfl) <| .head (.takesIn 0 "sql" rfl) <|
    .head (.samples 0 "sql" ⟨0⟩ 7 rfl) <| .head (.takesUp 0 _ rfl (by decide)) <|
    .head (.takesUp 0 _ rfl (by decide)) <| .head (.takesUp 0 _ rfl (by decide)) <|
    .head (.takesUp 0 _ rfl (by decide)) <| .head (.takesIn 1 "sql" rfl) <|
    .head (.takesIn 2 "http" rfl) <| .single (.asks "sql"),
    .head (.samples 1 "sql" ⟨0⟩ 5 rfl) <| .head (.takesUp 1 _ rfl (by decide)) <|
    .head (.opens 0 "sql" ⟨0⟩ rfl rfl) <| .head (.reads 0 "sql" ⟨0⟩ _ rfl) <|
    .head (.reads 0 "sql" ⟨0⟩ _ rfl) <| .head (.reads 0 "sql" ⟨0⟩ _ rfl) <|
    .single (.reads 0 "sql" ⟨0⟩ _ rfl), rfl, rfl, rfl, rfl, rfl⟩

/-- The two come to one aggregate all the same, and what is shown counts the first sample in
full and the second as far as it is there. -/
theorem rush_comes_to_one_aggregate :
    ∃ opening scene later : Scene, opening.IsOpening ∧ opening.Becomes scene ∧
      scene.Becomes later ∧ scene.searches.map (·.name) = ["sql", "sql", "http"] ∧
      (∀ name stats, scene.known name = some stats → later.known name = some stats) ∧
      (∀ first ∈ scene.searches, ∀ second ∈ scene.searches, ∀ stats other,
        first.stage = .ended stats → second.stage = .ended other →
        (first.name = second.name ↔ stats = other)) ∧
      Covers [7] [7, 5] ⟨2, 7, 7, 7⟩ ∧ "sql" ∈ scene.collector.metricNames ∧
      ∃ world : World Unit, scene.Shows ⟨0⟩ world ∧ scene.Performs ⟨0⟩ world := by
  rcases rush_ends with
    ⟨opening, scene, later, opens, reached, goesOn, searches, asks, finished, begun, reading⟩
  have ⟨same, _, keeps, _, _, answers, _, listed, performs⟩ :=
    each_name_has_one_aggregate opens reached goesOn
  have covers := (answers 0 "sql" asks).2 _ _ reading
  rw [finished, begun] at covers
  let world : World Unit :=
    { collectors := ⟨[scene.collector]⟩, stats := scene.stats, host := () }
  have shows : scene.Shows ⟨0⟩ world := ⟨rfl, rfl⟩
  refine ⟨opening, scene, later, opens, reached, goesOn, ?_, keeps, same, covers, ?_, world,
    shows, performs Unit ⟨0⟩ world shows⟩
  · rw [searches]
    rfl
  · rw [listed, searches]
    exact ⟨_, .head _, rfl, _, rfl⟩

end Instrumentation.Naming
