import Instrumentation.Proofs.Collector.Entries
import Instrumentation.Proofs.Interception.Observation

namespace Instrumentation

/-! Programs that measure, and the ledger that is kept of them beside the host: which
handles were made, which samples were taken and what collectors were seen to hold. A sample
may be taken through any handle at all, whoever made it. -/

variable {Host Fault Value : Type}

/-! ## Handles -/

inductive Maker where
  | view (engine : CollectorView)
  | standalone (clock : Key Clock)
  | foreign (clock : Key Clock)

namespace Maker

def collector? : Maker → Option (Key Collector)
  | .view engine => some engine.collector
  | .standalone _ | .foreign _ => none

def isEngine : Maker → Bool
  | .view _ | .foreign _ => true
  | .standalone _ => false

def create (name : String) : Maker → Program Host Metric
  | .view engine => engine.methods.createMetric name
  | .standalone clock => Metric.createStandalone name clock
  | .foreign clock => do return .ofEngine name (← MetricStats.create) clock

end Maker

structure Handle where
  maker : Maker
  name : String
  metric : Metric

namespace Handle

structure IsFor (handle : Handle) (collector : Key Collector) (name : String) : Prop where
  maker : handle.maker.collector? = some collector
  name : handle.name = name

def Together (first second : Handle) : Prop :=
  ∃ collector name, first.IsFor collector name ∧ second.IsFor collector name

end Handle

/-! ## The ledger -/

inductive Posting where
  | made (handle : Handle)
  | sampled (metric : Metric) (nanoseconds : Nat)
  | looked (collector : Key Collector) (name : String) (answer : Option Snapshot)

namespace Posting

def handle? : Posting → Option Handle
  | made handle => some handle
  | sampled _ _ | looked _ _ _ => none

def sampleOf? (stats : Key MetricStats) : Posting → Option Nat
  | sampled metric nanoseconds => if metric.stats = stats then some nanoseconds else none
  | made _ | looked _ _ _ => none

end Posting

namespace Ledger

variable (ledger : List Posting)

def handles : List Handle :=
  ledger.filterMap Posting.handle?

def samples (stats : Key MetricStats) : List Nat :=
  ledger.filterMap (Posting.sampleOf? stats)

def total (opening : MetricStats) (stats : Key MetricStats) : MetricStats :=
  (samples ledger stats).foldl MetricStats.record opening

/-- A collector that is asked for a name answers just if a view of it made a handle for that
name, and then with all the samples of the aggregate of the handle. -/
structure Shows (collector : Key Collector) (name : String) (answer : Option Snapshot) :
    Prop where
  known : answer.isSome ↔ ∃ handle ∈ handles ledger, handle.IsFor collector name
  summed : ∀ handle ∈ handles ledger, handle.IsFor collector name →
    answer = some (total ledger .empty handle.metric.stats).snapshot

end Ledger

abbrev Metered (Host : Type) := Host × List Posting

def World.posting (world : World (Metered Host)) (posting : Posting) : World (Metered Host) :=
  world.plain.noting (world.notes ++ [posting])

def post (posting : Posting) : Program (Metered Host) Unit :=
  modify (·.posting posting)

/-! ## Programs -/

/-- Anything that takes no sample and touches no aggregate. -/
structure Unmetered (Host : Type) where
  change : World Host → World Host
  keepsMetrics : ∀ world, KeepsMetrics world (change world)

inductive Metering (Host Fault Value : Type) where
  | ends (ending : Except Payload (Except Fault Value))
  | acts (unmetered : Unmetered Host) (rest : World Host → Metering Host Fault Value)
  | creates (maker : Maker) (name : String) (rest : Metric → Metering Host Fault Value)
  | looks (collector : Key Collector) (name : String)
      (rest : Option Snapshot → Metering Host Fault Value)
  | records (metric : Metric) (nanoseconds : Nat) (rest : Metering Host Fault Value)
  | starts (metric : Metric) (rest : MetricTimer → Metering Host Fault Value)
  | stops (timer : MetricTimer) (rest : Nat → Metering Host Fault Value)
  | drops (timer : MetricTimer) (rest : Metering Host Fault Value)
  | calls (view : CollectorView) (metric : Metric) (call : Call)
      (work : Metering Host Fault Value)
      (rest : Except Payload (Except Fault Value) → Metering Host Fault Value)

namespace Metering

def looked (collector : Key Collector) (name : String) :
    Program (Metered Host) (Option Snapshot) := do
  let answer ← Collector.metricSnapshot collector name
  post (.looked collector name answer)
  return answer

def created (maker : Maker) (name : String) : Program (Metered Host) Metric := do
  let metric ← maker.create name
  post (.made { maker, name, metric })
  return metric

def recorded (metric : Metric) (nanoseconds : Nat) : Program (Metered Host) Unit := do
  metric.record nanoseconds
  post (.sampled metric nanoseconds)

def stopped (timer : MetricTimer) : Program (Metered Host) Nat := do
  let (elapsed, stopped) ← timer.stop
  stopped.drop
  post (.sampled timer.metric elapsed)
  return elapsed

def dropped (timer : MetricTimer) : Program (Metered Host) Unit := do
  let elapsed ← Clock.elapsed timer.metric.clock timer.start
  timer.drop
  if !timer.stopped then
    post (.sampled timer.metric elapsed)

/-- The work of a call: if it returns, the time that it took by the clock of the collector
is posted as a sample of the handle that the call was given, and nothing if it unwinds. -/
def timed (view : CollectorView) (metric : Metric) (start : UInt64)
    (work : Program (Metered Host) (Except Fault Value)) :
    Program (Metered Host) (Except Fault Value) := do
  let result ← work
  post (.sampled metric (← view.elapsed start))
  return result

def called (view : CollectorView) (metric : Metric) (call : Call) (describe : Fault → String)
    (work : Program (Metered Host) (Except Fault Value)) :
    Program (Metered Host) (Except Payload (Except Fault Value)) := do
  let start ← view.readClock
  attempt (runIntercepted (call.onEngine view.methods metric) (call.classify describe)
    (timed view metric start work))

def run (describe : Fault → String) :
    Metering Host Fault Value → Program (Metered Host) (Except Fault Value)
  | ends ending => finish ending
  | acts unmetered rest => do
      modify fun world => (unmetered.change world.plain).noting world.notes
      (rest (← get).plain).run describe
  | creates maker name rest => do (rest (← created maker name)).run describe
  | looks collector name rest => do (rest (← looked collector name)).run describe
  | records metric nanoseconds rest => do
      recorded metric nanoseconds
      rest.run describe
  | starts metric rest => do (rest (← metric.start)).run describe
  | stops timer rest => do (rest (← stopped timer)).run describe
  | drops timer rest => do
      dropped timer
      rest.run describe
  | calls view metric call work rest => do
      (rest (← called view metric call describe (work.run describe))).run describe

end Metering

end Instrumentation
