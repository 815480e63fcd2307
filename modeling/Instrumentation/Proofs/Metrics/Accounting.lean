import Instrumentation.Proofs.Metrics.Balance

namespace Instrumentation

/-! What programs that measure come to. The ledger of a run accounts for every aggregate:
it holds the samples that were taken through the handles on it, one for each call that
returned, and nothing else. -/

variable {Host Fault Value Other : Type}

/-! ## Steps -/

theorem Balanced.onlyTraced {opening : Table MetricStats} {before after : World (Metered Host)}
    (balanced : Balanced opening before.accounts before.notes)
    (only : OnlyTraced before after) : Balanced opening after.accounts after.notes := by
  have notes : after.notes = before.notes := congrArg Prod.snd only.host
  rw [only.accounts, notes]
  exact balanced

def KeepsBalance (opening : Table MetricStats) (program : Program (Metered Host) Other) : Prop :=
  ∀ world : World (Metered Host), Balanced opening world.accounts world.notes →
    Balanced opening (program world).2.accounts (program world).2.notes

namespace KeepsBalance

variable {opening : Table MetricStats} {Value : Type}

theorem bind {program : Program (Metered Host) Other} {rest : Other → Program (Metered Host) Value}
    (first : KeepsBalance opening program) (second : ∀ value, KeepsBalance opening (rest value)) :
    KeepsBalance opening (program >>= rest) := by
  intro world balanced
  have after := first world balanced
  rcases ran : program world with ⟨payload | value, later⟩
  · rw [Program.bind_of_error ran]
    rw [ran] at after
    exact after
  · rw [Program.bind_of_ok ran]
    rw [ran] at after
    exact second value later after

theorem of_keepsMetrics {program : Program (Metered Host) Other}
    (keeps : ∀ world, KeepsMetrics world (program world).2)
    (notes : ∀ world, (program world).2.notes = world.notes) : KeepsBalance opening program := by
  intro world balanced
  rw [(keeps world).accounts, notes]
  exact balanced

end KeepsBalance

namespace Metering

variable {opening : Table MetricStats} {describe : Fault → String}

theorem created_keepsBalance (maker : Maker) (name : String) :
    KeepsBalance opening (created maker name : Program (Metered Host) Metric) := by
  intro world balanced
  rcases maker.create_makes name world with ⟨metric, later, creates, host, makes⟩
  let handle : Handle := { maker, name, metric }
  have notes : later.notes = world.notes := congrArg Prod.snd host
  have whole : created maker name world = (.ok metric, later.posting (.made handle)) := by
    rw [created, Program.bind_of_ok creates]
    rfl
  rw [whole]
  change Balanced opening later.accounts (later.notes ++ [.made handle])
  rw [notes]
  exact balanced.made makes

theorem looked_keepsBalance (collector : Key Collector) (name : String) :
    KeepsBalance opening (looked collector name : Program (Metered Host) (Option Snapshot)) := by
  intro world balanced
  rw [looked, Program.bind_of_ok (Collector.metricSnapshot_apply collector name world)]
  exact balanced.looked (balanced.shows collector name)

theorem recorded_keepsBalance (metric : Metric) (nanoseconds : Nat) :
    KeepsBalance opening (recorded metric nanoseconds : Program (Metered Host) Unit) :=
  fun _ balanced => balanced.sampled metric nanoseconds

theorem stopped_keepsBalance (timer : MetricTimer) :
    KeepsBalance opening (stopped timer : Program (Metered Host) Nat) := by
  intro world balanced
  let lasted := (world.clocks.get timer.metric.clock).elapsedSince timer.start
  exact balanced.sampled timer.metric lasted

theorem dropped_keepsBalance (timer : MetricTimer) :
    KeepsBalance opening (dropped timer : Program (Metered Host) Unit) := by
  intro world balanced
  let lasted := (world.clocks.get timer.metric.clock).elapsedSince timer.start
  have elapsed : Clock.elapsed timer.metric.clock timer.start world = (.ok lasted, world) := rfl
  rw [dropped, Program.bind_of_ok elapsed, MetricTimer.drop]
  cases timer.stopped with
  | true => exact balanced
  | false => exact balanced.sampled timer.metric lasted

theorem timed_apply (view : CollectorView) (metric : Metric) (start : UInt64)
    (work : Program (Metered Host) (Except Fault Value)) (world : World (Metered Host)) :
    timed view metric start work world =
      match work world with
      | (.ok result, left) =>
          (.ok result, left.posting (.sampled metric (view.lasting start left)))
      | (.error payload, left) => (.error payload, left) := by
  rw [timed, Program.bind_apply]
  rcases work world with ⟨payload | result, left⟩ <;> rfl

theorem called_keepsBalance (view : CollectorView) (metric : Metric) (call : Call)
    {work : Program (Metered Host) (Except Fault Value)} (keeps : KeepsBalance opening work) :
    KeepsBalance opening (called view metric call describe work) := by
  intro world balanced
  let start := view.showing world
  have reads : view.readClock world = (.ok start, world) := rfl
  rw [called, Program.bind_of_ok reads, Program.attempt_apply, view.runIntercepted_call]
  have entering := view.enterCall_onlyTraced metric world call
  rcases enters : view.enterCall metric world call with ⟨entry, entered⟩
  rw [enters] at entering
  have worked := keeps entered (balanced.onlyTraced entering)
  dsimp only
  rw [timed_apply]
  -- The sample is taken through the handle just if it was posted.
  rcases ran : work entered with ⟨payload | result, left⟩
  · rw [ran] at worked
    exact worked.onlyTraced (view.close_onlyTraced _ _ _ _ _)
  · rw [ran] at worked
    let posted := left.posting (.sampled metric (view.lasting start left))
    let ending : Except Payload (Except Fault Value) := .ok result
    have sampled : Balanced opening (view.sampled metric posted start ending).accounts
        posted.notes :=
      worked.sampled metric (view.lasting start left)
    exact sampled.onlyTraced (view.close_onlyTraced _ _ _ _ _)

theorem run_keepsBalance (program : Metering Host Fault Value) :
    KeepsBalance opening (program.run describe) := by
  induction program with
  | ends ending => exact fun _ balanced => balanced
  | acts unmetered rest induction =>
      refine .bind (.of_keepsMetrics ?_ fun _ => rfl) fun _ => ?_
      · intro world
        have keeps := unmetered.keepsMetrics world.plain
        exact ⟨keeps.stats, keeps.metrics, keeps.clock⟩
      · exact .bind (fun _ balanced => balanced) fun world => induction world.plain
  | creates maker name rest induction => exact (created_keepsBalance maker name).bind induction
  | looks collector name rest induction =>
      exact (looked_keepsBalance collector name).bind induction
  | records metric nanoseconds rest induction =>
      exact (recorded_keepsBalance metric nanoseconds).bind fun _ => induction
  | starts metric rest induction =>
      exact .bind (fun _ balanced => balanced) induction
  | stops timer rest induction => exact (stopped_keepsBalance timer).bind induction
  | drops timer rest induction => exact (dropped_keepsBalance timer).bind fun _ => induction
  | calls view metric call work rest workInduction restInduction =>
      exact (called_keepsBalance view metric call workInduction).bind restInduction

end Metering

/-- A call through a view takes one sample if its work returns, of the time that has passed
since it was entered by the clock of the collector, and through the handle that it was
given. It takes none if its work is unwound through. -/
def CollectorView.SamplesOnce (view : CollectorView) (metric : Metric) (call : Call)
    (describe : Fault → String) (work : Program Host (Except Fault Value))
    (world : World Host) : Prop :=
  ∃ entered : World Host, KeepsMetrics world entered ∧
    let (ending, left) := work entered
    let (result, later) := runIntercepted (call.onEngine view.methods metric)
      (call.classify describe) work world
    result = ending ∧ KeepsMetrics (view.sampled metric left (view.showing world) ending) later

theorem CollectorView.samplesOnce (view : CollectorView) (metric : Metric) (call : Call)
    (describe : Fault → String) (work : Program Host (Except Fault Value))
    (world : World Host) : view.SamplesOnce metric call describe work world := by
  have entering := view.enterCall_onlyTraced metric world call
  rcases enters : view.enterCall metric world call with ⟨entry, entered⟩
  rw [enters] at entering
  refine ⟨entered, entering.toKeepsMetrics, ?_⟩
  rw [view.runIntercepted_call, enters]
  exact ⟨rfl, (view.close_onlyTraced _ _ _ _ _).toKeepsMetrics⟩

structure Accounted (opening : Table MetricStats) (later : World (Metered Host)) : Prop where
  /-- Whenever a collector was looked at, it showed what had come of its handles by then. -/
  looked : ∀ earlier collector name answer,
    earlier ++ [.looked collector name answer] <+: later.notes →
    Ledger.Shows earlier collector name answer
  shows : ∀ collector name, ∃ answer,
    Collector.metricSnapshot collector name later = (.ok answer, later) ∧
      Ledger.Shows later.notes collector name answer
  owned : ∀ handle ∈ Ledger.handles later.notes,
    handle.metric.engineOwned = handle.maker.isEngine
  shared : (Ledger.handles later.notes).Pairwise fun first second =>
    first.metric.sameAs second.metric = true ↔ first.Together second
  totals : ∀ handle ∈ Ledger.handles later.notes,
    later.stats.get handle.metric.stats =
      Ledger.total later.notes .empty handle.metric.stats
  /-- So it is with all other aggregates, whatever they began with. -/
  stats : ∀ stats,
    later.stats.get stats = Ledger.total later.notes (opening.get stats) stats

theorem Balanced.accounted {opening : Table MetricStats} {later : World (Metered Host)}
    (balanced : Balanced opening later.accounts later.notes) : Accounted opening later where
  looked := balanced.shown
  shows collector name :=
    ⟨_, Collector.metricSnapshot_apply collector name later, balanced.shows collector name⟩
  owned := balanced.listed.owned
  shared := by
    refine balanced.listed.apart.imp_of_mem fun {first second} made alsoMade shares => ?_
    rw [Metric.sameAs, Bool.and_eq_true, decide_eq_true_iff, beq_iff_eq]
    constructor
    · exact fun same => shares.mp same.2
    · intro together
      rw [balanced.listed.owned first made, balanced.listed.owned second alsoMade]
      exact ⟨together.isEngine, shares.mpr together⟩
  totals handle made := by
    have fresh := opening.get_beyond (balanced.listed.later handle made)
    have total := balanced.stats handle.metric.stats
    rw [fresh] at total
    exact total
  stats := balanced.stats

theorem Balanced.opening (world : World Host)
    (new : ∀ collector, (world.collectors.get collector).metrics = .empty) :
    Balanced world.stats world.accounts [] where
  listed := {
    grows := Nat.le_refl _
    known := by
      intro collector name stats
      have empty : (world.accounts.metrics collector).find? name = none :=
        congrArg (Dict.find? · name) (new collector)
      rw [empty]
      constructor
      · exact nofun
      · rintro ⟨_, made, _⟩
        cases made
    named := fun _ made => nomatch made
    owned := fun _ made => nomatch made
    later := fun _ made => nomatch made
    within := fun _ made => nomatch made
    apart := .nil }
  stats _ := rfl
  shown earlier _ _ _ begins := by
    rcases List.append_eq_nil_iff.mp (List.prefix_nil.mp begins) with ⟨_, absurd⟩
    cases absurd

def Unmetered.moving (clock : Key Clock) (nanoseconds : Nat) : Unmetered Host where
  change world := { world with clocks := world.clocks.modify clock (·.advance nanoseconds) }
  keepsMetrics _ := ⟨rfl, fun _ => rfl, fun _ => rfl⟩

namespace Metering

/-- A call through a view takes a sample of its own time just if its work returns, through
the handle that it was given. So whatever a program does, through however many views: a
collector shows a name just if a view of it made a handle for that name; the handles that its
views made for one name share an aggregate, and no two others do; and each aggregate comes to
the samples that were taken through the handles on it. -/
theorem aggregates_are_accounted (describe : Fault → String)
    (program : Metering Host Fault Value) (world : World Host)
    (new : ∀ collector, (world.collectors.get collector).metrics = .empty) :
    (∀ (view : CollectorView) (metric : Metric) (call : Call)
      (work : Program Host (Except Fault Value)) (within : World Host),
      view.SamplesOnce metric call describe work within) ∧
    Accounted world.stats (program.run describe (world.noting [])).2 := by
  refine ⟨fun view metric call => view.samplesOnce metric call describe, ?_⟩
  exact (program.run_keepsBalance _ (.opening (world.noting []) new)).accounted

/-- Two views that share a name, a standalone handle of the same name, and a root span that
is unwound through: the root span within it had returned, and so does a call that is made
once the panic was caught, through the standalone handle. -/
def unwoundPage : Metering Unit Unit Unit :=
  let shop : CollectorView := ⟨⟨0⟩, ⟨"shop", by decide, by decide⟩⟩
  let store : CollectorView := ⟨⟨0⟩, ⟨"store", by decide, by decide⟩⟩
  let passing (nanoseconds : Nat) : Metering Unit Unit Unit :=
    .acts (.moving ⟨0⟩ nanoseconds) fun _ => .ends (.ok (.ok ()))
  .creates (.view shop) "sql" fun mine =>
  .creates (.view store) "sql" fun yours =>
  .creates (.standalone ⟨0⟩) "sql" fun alone =>
  .calls shop mine (.rootSpan { description := "page" })
    (.calls store yours (.rootSpan { description := "part" }) (passing 3) fun _ =>
      .records alone 7 (.ends (.error (.fixed "stop"))))
    fun _ => .calls store alone .record (passing 2) .ends

theorem unwoundPage_is_accounted :
    let later := (unwoundPage.run (fun _ => "") (World.noting { host := () } [])).2
    Accounted {} later ∧
      Ledger.samples later.notes ⟨0⟩ = [3] ∧ Ledger.samples later.notes ⟨1⟩ = [7, 2] := by
  have ⟨_, accounted⟩ := aggregates_are_accounted (fun _ : Unit => "") unwoundPage { host := () }
    fun _ => rfl
  exact ⟨accounted, by decide +kernel, by decide +kernel⟩

end Metering

end Instrumentation
