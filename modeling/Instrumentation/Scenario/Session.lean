import Instrumentation.Engine.CountingFactory
import Instrumentation.Registry.Operations
import Instrumentation.Scenario.Answer
import Instrumentation.Scenario.Step

namespace Instrumentation.Scenario

/-! The state of a scenario: its names and what they stand for, and the notes taken
of its steps. -/

inductive Maker (Value : Type) where
  | counting (factory : CountingFactory)
  | collecting (collector : Key Collector)
  /-- Rules by plugin, with the calls made so far for each. -/
  | scripted (path name : String) (rules : Dict (List (Rule Value))) (calls : Dict Nat)

instance {Value : Type} : Inhabited (Maker Value) := ⟨.counting { product := .error "" }⟩

structure Session (Value : Type) where
  clocks : Dict (Key Clock) := .empty
  configs : Dict EngineConfig := .empty
  collectors : Dict (Key Collector) := .empty
  engines : Dict Engine := .empty
  recorders : Dict (Key Recorder) := .empty
  probes : Dict (Key Probe) := .empty
  factories : Dict (Key Factory) := .empty
  services : Dict (Key PluginServices) := .empty
  registries : Dict (Key Registry) := .empty
  metrics : Dict Metric := .empty
  statistics : Dict (Key MetricStats) := .empty
  timers : Dict MetricTimer := .empty
  makers : Table (Maker Value) := {}
  runs : Table Nat := {}
  log : List (Entry Value) := []

abbrev Play (Value : Type) := Program (Session Value)

variable {Value Object : Type}

def updateSession (change : Session Value → Session Value) : Play Value Unit :=
  modify fun world => { world with host := change world.host }

def withNamed (names : Session Value → Dict Object) (name : String)
    (use : Object → Play Value (Answer Value)) : Play Value (Answer Value) := do
  match (names (← get).host).find? name with
  | some object => use object
  | none => return .unknown name

def note (path label : String) (result : Except Payload (Answer Value)) : Play Value Unit := do
  let events := (← get).events.length
  updateSession fun session =>
    { session with log := session.log ++ [{ path, label, result, events }] }

def noted (path label : String) (step : Play Value (Answer Value)) :
    Play Value (Answer Value) := do
  let ending ← attempt step
  note path label ending
  finish ending

def nameEngine (name : String) (engine : Engine) : Play Value Unit :=
  updateSession fun session => { session with engines := session.engines.insert name engine }

def nameMetric (name : String) (metric : Metric) : Play Value Unit :=
  updateSession fun session => { session with metrics := session.metrics.insert name metric }

def nameServices (name : String) (services : Key PluginServices) : Play Value Unit :=
  updateSession fun session =>
    { session with services := session.services.insert name services }

def factoryKey (maker : Key (Maker Value)) : Key Factory :=
  ⟨maker.index⟩

def makerOf (factory : Key Factory) : Play Value (Maker Value) :=
  return (← get).host.makers.get ⟨factory.index⟩

def setMaker (factory : Key Factory) (maker : Maker Value) : Play Value Unit :=
  updateSession fun session =>
    { session with makers := session.makers.put ⟨factory.index⟩ maker }

def nameFactory (name : String) (maker : Maker Value) : Play Value Unit :=
  updateSession fun session => { session with
    factories := session.factories.insert name (factoryKey session.makers.nextKey)
    makers := session.makers.add maker }

/-! Reports on objects. -/

def reportMetric (world : World (Session Value)) (metric : Metric) : MetricReport where
  name := metric.name
  engineOwned := metric.engineOwned
  snapshot := (world.stats.get metric.stats).snapshot

def reportCollector (world : World (Session Value)) (key : Key Collector) :
    CollectorReport :=
  let collector := world.collectors.get key
  { active := collector.activeCount
    traces := collector.completed
    metrics := collector.metrics.entries.map fun entry =>
      (entry.1, (world.stats.get entry.2).snapshot) }

def reportRecorder (world : World (Session Value)) (key : Key Recorder) : RecorderReport :=
  let recorder := world.recorders.get key
  { calls := recorder.calls, outcomes := recorder.outcomes }

def reportProbe (world : World (Session Value)) (key : Key Probe) : ProbeReport :=
  let probe := world.probes.get key
  { forwarded := probe.forwarded, caught := probe.caught }

def reportMaker : Maker Value → Option FactoryReport
  | .counting factory => some { plugins := factory.plugins }
  | _ => none

def reportFactory (world : World (Session Value)) (key : Key Factory) :
    Option FactoryReport :=
  reportMaker (world.host.makers.get ⟨key.index⟩)

def reportRegistry (world : World (Session Value)) (key : Key Registry) : RegistryReport :=
  let registry := world.registries.get key
  { started := registry.isStarted, plugins := registry.pluginIds }

def reportServices (world : World (Session Value)) (key : Key PluginServices) :
    ServicesReport :=
  let services := world.services.get key
  { plugin := services.plugin
    bound := services.isBound
    sameAs := (world.host.services.entries.filter fun entry => entry.2 == key).map Prod.fst }

structure FinalReport where
  clocks : List (String × UInt64)
  collectors : List (String × CollectorReport)
  recorders : List (String × RecorderReport)
  probes : List (String × ProbeReport)
  factories : List (String × Option FactoryReport)
  registries : List (String × RegistryReport)
  services : List (String × ServicesReport)
  metrics : List (String × MetricReport)

def reportAll {Report : Type} (names : Dict Object) (report : Object → Report) :
    List (String × Report) :=
  names.entries.map fun entry => (entry.1, report entry.2)

def reportFinal (world : World (Session Value)) : FinalReport where
  clocks := reportAll world.host.clocks fun key => (world.clocks.get key).reading
  collectors := reportAll world.host.collectors (reportCollector world)
  recorders := reportAll world.host.recorders (reportRecorder world)
  probes := reportAll world.host.probes (reportProbe world)
  factories := reportAll world.host.factories (reportFactory world)
  registries := reportAll world.host.registries (reportRegistry world)
  services := reportAll world.host.services (reportServices world)
  metrics := reportAll world.host.metrics (reportMetric world)

end Instrumentation.Scenario
