import Instrumentation.Event
import Instrumentation.Registry.Basic

namespace Instrumentation

/-! The state that programs share, and the programs. The host has a part of the
state to itself, which the library never touches. A program either returns or is
unwound through with a payload. -/

inductive Payload where
  | text (text : String)
  | number (number : UInt64)
  | fixed (text : String)
  deriving DecidableEq, Repr

structure World (Host : Type) where
  clocks : Table Clock := {}
  stats : Table MetricStats := {}
  collectors : Table Collector := {}
  recorders : Table Recorder := {}
  probes : Table Probe := {}
  services : Table PluginServices := {}
  registries : Table Registry := {}
  events : List Event := []
  thread : ThreadId := ⟨0⟩
  threads : Nat := 1
  traces : Nat := 0
  host : Host

abbrev Program (Host : Type) := ExceptT Payload (StateM (World Host))

variable {Host Value : Type}

def attempt (work : Program Host Value) : Program Host (Except Payload Value) :=
  ExceptT.mk fun world =>
    let (result, world) := work world
    (.ok result, world)

def finish (ending : Except Payload Value) : Program Host Value :=
  ExceptT.mk (pure ending)

def emit (event : Event) : Program Host Unit :=
  modify fun world => { world with events := world.events ++ [event] }

def currentThread : Program Host ThreadId :=
  return (← get).thread

def onNewThread (work : Program Host Value) : Program Host Value := do
  let caller ← currentThread
  modify fun world => { world with thread := ⟨world.threads⟩, threads := world.threads + 1 }
  let ending ← attempt work
  modify fun world => { world with thread := caller }
  finish ending

/-! Access to the shared objects. -/

namespace Clock

def create (clock : Clock) : Program Host (Key Clock) := do
  let key := (← get).clocks.nextKey
  modify fun world => { world with clocks := world.clocks.add clock }
  return key

def read (clock : Key Clock) : Program Host UInt64 :=
  return ((← get).clocks.get clock).reading

def moveOn (clock : Key Clock) (nanoseconds : Nat) : Program Host Unit :=
  modify fun world =>
    { world with clocks := world.clocks.modify clock (advance · nanoseconds) }

def elapsed (clock : Key Clock) (start : UInt64) : Program Host Nat :=
  return ((← get).clocks.get clock).elapsedSince start

end Clock

namespace MetricStats

def create : Program Host (Key MetricStats) := do
  let key := (← get).stats.nextKey
  modify fun world => { world with stats := world.stats.add empty }
  return key

def take (stats : Key MetricStats) (nanoseconds : Nat) : Program Host Unit :=
  modify fun world =>
    { world with stats := world.stats.modify stats (record · nanoseconds) }

def read (stats : Key MetricStats) : Program Host Snapshot :=
  return ((← get).stats.get stats).snapshot

end MetricStats

namespace Metric

def createStandalone (name : String) (clock : Key Clock) : Program Host Metric := do
  return { name, engineOwned := false, stats := ← MetricStats.create, clock }

def ofEngine (name : String) (stats : Key MetricStats) (clock : Key Clock) : Metric :=
  { name, engineOwned := true, stats, clock }

def record (metric : Metric) (nanoseconds : Nat) : Program Host Unit :=
  MetricStats.take metric.stats nanoseconds

def snapshot (metric : Metric) : Program Host Snapshot :=
  MetricStats.read metric.stats

def start (metric : Metric) : Program Host MetricTimer := do
  return { metric, start := ← Clock.read metric.clock }

end Metric

namespace MetricTimer

def stop (timer : MetricTimer) : Program Host (Nat × MetricTimer) := do
  let elapsed ← Clock.elapsed timer.metric.clock timer.start
  timer.metric.record elapsed
  return (elapsed, { timer with stopped := true })

def drop (timer : MetricTimer) : Program Host Unit := do
  if !timer.stopped then
    let _ ← timer.stop

end MetricTimer

namespace Collector

def create (collector : Collector) : Program Host (Key Collector) := do
  let key := (← get).collectors.nextKey
  modify fun world => { world with collectors := world.collectors.add collector }
  return key

def read (collector : Key Collector) : Program Host Collector :=
  return (← get).collectors.get collector

def write (key : Key Collector) (collector : Collector) : Program Host Unit :=
  modify fun world => { world with collectors := world.collectors.put key collector }

def metricSnapshot (key : Key Collector) (name : String) : Program Host (Option Snapshot) := do
  match (← read key).findStats? name with
  | some stats => return some (← MetricStats.read stats)
  | none => return none

end Collector

namespace Recorder

def create (recorder : Recorder) : Program Host (Key Recorder) := do
  let key := (← get).recorders.nextKey
  modify fun world => { world with recorders := world.recorders.add recorder }
  return key

def read (recorder : Key Recorder) : Program Host Recorder :=
  return (← get).recorders.get recorder

def update (recorder : Key Recorder) (change : Recorder → Recorder) : Program Host Unit :=
  modify fun world => { world with recorders := world.recorders.modify recorder change }

end Recorder

namespace Probe

def create (probe : Probe) : Program Host (Key Probe) := do
  let key := (← get).probes.nextKey
  modify fun world => { world with probes := world.probes.add probe }
  return key

def read (probe : Key Probe) : Program Host Probe :=
  return (← get).probes.get probe

def update (probe : Key Probe) (change : Probe → Probe) : Program Host Unit :=
  modify fun world => { world with probes := world.probes.modify probe change }

end Probe

namespace PluginServices

def create (plugin : PluginId) (clock : Key Clock) : Program Host (Key PluginServices) := do
  let key := (← get).services.nextKey
  modify fun world => { world with services := world.services.add { plugin, clock } }
  return key

def read (services : Key PluginServices) : Program Host PluginServices :=
  return (← get).services.get services

def write (key : Key PluginServices) (services : PluginServices) : Program Host Unit :=
  modify fun world => { world with services := world.services.put key services }

end PluginServices

namespace Registry

def create (clock : Key Clock) : Program Host (Key Registry) := do
  let key := (← get).registries.nextKey
  modify fun world => { world with registries := world.registries.add { clock } }
  return key

def read (registry : Key Registry) : Program Host Registry :=
  return (← get).registries.get registry

def write (key : Key Registry) (registry : Registry) : Program Host Unit :=
  modify fun world => { world with registries := world.registries.put key registry }

end Registry

end Instrumentation
