import Instrumentation.Scenario.Session
import Instrumentation.Services.Calls

namespace Instrumentation.Scenario

/-! A host's ordinary start: a collector, services of one plugin that are bound to
it, a metric, and a root span for each of some descriptions. -/

structure StartupReport where
  monotonic : Bool
  elapsedSinceMax : Nat
  bound : Bool
  config : EngineConfig
  enabled : Bool
  traces : List String
  distinctNumbers : Nat
  samples : UInt64
  sameUnbound : Bool

def runRoots (services : Key PluginServices) (metric : Metric) :
    List String → Program Unit Unit
  | [] => return
  | description :: rest => do
      let work : Program Unit (Except String Unit) := return .ok ()
      let _ ← PluginServices.executeRootSpan services metric { description } id work
      runRoots services metric rest

def sameUnboundServices (registry : Key Registry) (factories : Factories Unit)
    (plugin : PluginId) : Program Unit Bool := do
  match ← Registry.getServices factories registry plugin.text,
      ← Registry.getServices factories registry plugin.text with
  | .ok first, .ok second =>
      return decide (first = second) && !(← PluginServices.read first).isBound
  | _, _ => return false

def startUp (collector : Collector) (plugin : PluginId) (roots : List String) :
    Program Unit (Except Error StartupReport) := do
  let clock ← Clock.create {}
  let key ← Collector.create { collector with clock }
  let factories : Factories Unit := fun _ plugin => return .ok (.view key plugin)
  let earlier ← Clock.read clock
  let services ← PluginServices.create plugin clock
  match ← PluginServices.bind services (factories ⟨0⟩) with
  | .error error => return .error error
  | .ok () =>
      let metric ← PluginServices.createMetric services "metric"
      runRoots services metric roots
      let finished := (← Collector.read key).completed
      let registry ← Registry.create clock
      let report : StartupReport := {
        monotonic := decide (earlier ≤ (← Clock.read clock))
        elapsedSinceMax := ← Clock.elapsed clock 0xffffffffffffffff
        bound := (← PluginServices.read services).isBound
        config := (← Collector.read key).config
        enabled := ← PluginServices.isEnabled services
        traces := finished.map (·.description)
        distinctNumbers := (finished.map (·.number)).eraseDups.length
        samples := (← metric.snapshot).count
        sameUnbound := ← sameUnboundServices registry factories plugin }
      return .ok report

/-- The first of configuration, collector and plugin id that is refused is reported. -/
def runStartup (source : ConfigSource) (plugin : String) (roots : List String) :
    Except Error StartupReport := do
  let collector ← Collector.new (← source.load) ⟨0⟩
  let plugin ← PluginId.ofText plugin
  match (startUp collector plugin roots { host := () }).1 with
  | .ok report => report
  | .error _ => .error (.ofKind .internal)

end Instrumentation.Scenario
