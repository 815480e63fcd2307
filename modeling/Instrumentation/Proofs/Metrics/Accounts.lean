import Instrumentation.Proofs.Metrics.Metering

namespace Instrumentation

/-! The aggregates that there are, and what making a handle comes to for them. A handle is on
an aggregate that its collector knows by the name already, or on a new one. -/

variable {Host : Type}

structure Accounts where
  stats : Table MetricStats
  metrics : Key Collector → Dict (Key MetricStats)

def World.accounts (world : World Host) : Accounts where
  stats := world.stats
  metrics key := (world.collectors.get key).metrics

theorem KeepsMetrics.accounts {before after : World Host} (keeps : KeepsMetrics before after) :
    after.accounts = before.accounts := by
  rw [World.accounts, World.accounts, keeps.stats, funext keeps.metrics]

theorem Collector.metricSnapshot_apply (collector : Key Collector) (name : String)
    (world : World Host) :
    Collector.metricSnapshot collector name world =
      (.ok (((world.accounts.metrics collector).find? name).map fun stats =>
        (world.stats.get stats).snapshot), world) := by
  have looks : Collector.read collector world = (.ok (world.collectors.get collector), world) :=
    rfl
  rw [metricSnapshot, Program.bind_of_ok looks, World.accounts, findStats?]
  cases (world.collectors.get collector).metrics.find? name <;> rfl

namespace Accounts

def sample (accounts : Accounts) (metric : Metric) (nanoseconds : Nat) : Accounts :=
  { accounts with stats := accounts.stats.modify metric.stats (·.record nanoseconds) }

structure Makes (before : Accounts) (maker : Maker) (name : String) (metric : Metric)
    (after : Accounts) : Prop where
  named : metric.name = name
  owned : metric.engineOwned = maker.isEngine
  stats : ∀ stats, after.stats.get stats = before.stats.get stats
  grows : before.stats.size ≤ after.stats.size
  metrics : ∀ collector other, (after.metrics collector).find? other =
    if maker.collector? = some collector ∧ other = name then some metric.stats
    else (before.metrics collector).find? other
  source :
    (∃ collector, maker.collector? = some collector ∧
      (before.metrics collector).find? name = some metric.stats) ∨
    (metric.stats = before.stats.nextKey ∧ before.stats.size < after.stats.size ∧
      ∀ collector, maker.collector? = some collector →
        (before.metrics collector).find? name = none)

end Accounts

def World.withAggregate (world : World Host) (key : Key Collector) (name : String) :
    World Host :=
  let state := world.collectors.get key
  ({ world with stats := world.stats.add .empty }).setCollector key
    { state with metrics := state.metrics.insert name world.stats.nextKey }

theorem World.find?_withAggregate (world : World Host) (key : Key Collector) (name : String)
    (collector : Key Collector) (other : String) :
    ((world.withAggregate key name).accounts.metrics collector).find? other =
      if some key = some collector ∧ other = name then some world.stats.nextKey
      else (world.accounts.metrics collector).find? other := by
  let state := world.collectors.get key
  change ((world.collectors.put key
      { state with metrics := state.metrics.insert name world.stats.nextKey }).get
        collector).metrics.find? other = _
  rw [Table.get_put]
  by_cases mine : collector = key
  · subst mine
    rw [if_pos rfl, Dict.find?_insert]
    simp only [true_and]
    rfl
  · have others : some key ≠ some collector := fun same => mine (Option.some.inj same).symm
    rw [if_neg mine, if_neg fun asked => others asked.1]
    rfl

namespace CollectorView

variable (view : CollectorView) {name : String} {world : World Host}

theorem readCollector_apply :
    view.readCollector world = (.ok (world.collectors.get view.collector), world) := rfl

theorem statsFor_of_known {stats : Key MetricStats}
    (known : (world.collectors.get view.collector).findStats? name = some stats) :
    view.statsFor name world = (.ok stats, world) := by
  rw [statsFor, Program.bind_of_ok view.readCollector_apply, known]
  rfl

theorem statsFor_of_missing
    (missing : (world.collectors.get view.collector).findStats? name = none) :
    view.statsFor name world =
      (.ok world.stats.nextKey, world.withAggregate view.collector name) := by
  have creates : MetricStats.create world =
      (.ok world.stats.nextKey, { world with stats := world.stats.add .empty }) := rfl
  have absent : (world.collectors.get view.collector).metrics.find? name = none := missing
  rw [statsFor, Program.bind_of_ok view.readCollector_apply, missing]
  refine (Program.bind_of_ok creates _).trans ?_
  rw [onCollector_apply, Collector.findOrInsertStats, absent]
  rfl

end CollectorView

namespace Maker

variable (name : String) (world : World Host)

theorem create_fresh {maker : Maker} {clock : Key Clock} (outside : maker.collector? = none) :
    Accounts.Makes world.accounts maker name
      { name, engineOwned := maker.isEngine, stats := world.stats.nextKey, clock }
      ({ world with stats := world.stats.add .empty } : World Host).accounts where
  named := rfl
  owned := rfl
  stats := world.stats.get_add_default
  grows := Nat.le_of_lt (world.stats.size_lt_add .empty)
  metrics collector other := by
    rw [outside, if_neg (by simp)]
    rfl
  source := by
    refine .inr ⟨rfl, world.stats.size_lt_add .empty, ?_⟩
    intro collector inside
    rw [outside] at inside
    cases inside

theorem view_makes (view : CollectorView) :
    ∃ metric later, view.createMetric name world = (.ok metric, later) ∧
      later.host = world.host ∧
      Accounts.Makes world.accounts (.view view) name metric later.accounts := by
  rw [CollectorView.createMetric]
  cases found : (world.collectors.get view.collector).findStats? name with
  | some stats =>
      rw [Program.bind_of_ok (view.statsFor_of_known found)]
      refine ⟨_, _, rfl, rfl, ?_⟩
      exact {
        named := rfl
        owned := rfl
        stats _ := rfl
        grows := Nat.le_refl _
        metrics collector other := by
          split
          · next asked =>
              rcases asked with ⟨mine, rfl⟩
              cases mine
              exact found
          · rfl
        source := .inl ⟨view.collector, rfl, found⟩ }
  | none =>
      rw [Program.bind_of_ok (view.statsFor_of_missing found)]
      refine ⟨_, _, rfl, rfl, ?_⟩
      exact {
        named := rfl
        owned := rfl
        stats := world.stats.get_add_default
        grows := Nat.le_of_lt (world.stats.size_lt_add .empty)
        metrics := world.find?_withAggregate view.collector name
        source := by
          refine .inr ⟨rfl, world.stats.size_lt_add .empty, ?_⟩
          intro collector mine
          cases mine
          exact found }

theorem create_makes (maker : Maker) :
    ∃ metric later, maker.create name world = (.ok metric, later) ∧ later.host = world.host ∧
      Accounts.Makes world.accounts maker name metric later.accounts := by
  cases maker with
  | view view => exact view_makes name world view
  | standalone clock => exact ⟨_, _, rfl, rfl, create_fresh name world rfl⟩
  | foreign clock => exact ⟨_, _, rfl, rfl, create_fresh name world rfl⟩

end Maker

end Instrumentation
