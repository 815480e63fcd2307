import Instrumentation.Config.Reader
import Instrumentation.Services.Calls

namespace Instrumentation.Scenario

/-! Scenarios: programs over named objects of the library. Each step is performed
and answered in turn. A name stands for the object that was made last under it. -/

inductive ConfigSource where
  | json (text : String)
  | file (source : EngineConfig.Source)
  | build (enabled : Option Bool) (maxCompletedTraces maxTraceAttributes : Option UInt64)
      (plugins : List (String × List (String × Property)))

namespace ConfigSource

def buildPlugin (properties : List (String × Property)) : PluginConfig :=
  properties.foldl (fun config property => config.withProperty property.1 property.2) {}

/-- A configuration that is built is not checked. -/
def load : ConfigSource → Except Error EngineConfig
  | json text => EngineConfig.ofJson text
  | file source => EngineConfig.ofFile source
  | build enabled maxCompletedTraces maxTraceAttributes plugins =>
      let fields : EngineConfig := EngineConfig.ofFields
        { enabled, maxCompletedTraces, maxTraceAttributes }
      .ok (plugins.foldl (fun config plugin =>
        config.withPlugin plugin.1 (buildPlugin plugin.2)) fields)

end ConfigSource

inductive Diagnosed where
  | services (name : String)
  | registry (name : String)
  | recorder (name : String)
  | factory (name : String)
  | collector (name : String)
  | view (name : String)
  | continuation

inductive Making where
  | clock (name : String) (reading : Nat)
  | config (name : String) (source : ConfigSource)
  | collector (name clock : String) (config : String ⊕ ConfigSource)
  | view (name collector plugin : String)
  | recorder (name clock : String) (state : Recorder)
  | probe (name clock : String) (catches : Bool)
  | handingFactory (name engine : String)
  | failingFactory (name message : String)
  | collectorFactory (name collector : String)
  | services (name plugin clock : String)
  | registry (name clock : String)
  | standaloneMetric (name clock handle : String)
  | engineMetric (name stats clock handle : String)
  | metricClone (metric handle : String)

/-- Steps that run no other steps of the scenario and call no factory. -/
inductive Command where
  | make (object : Making)
  | advance (clock : String) (nanoseconds : Nat)
  | elapsed (clock : String) (start : UInt64)
  | isBound (services : String)
  | registryState (registry : String)
  | createMetric (target name handle : String)
  | isEnabled (target : String)
  | stringProperty (target name : String)
  | booleanProperty (target name : String)
  | doubleProperty (target name : String)
  | putAttribute (target name value : String)
  | rootDetail (target : String)
  | sample (metric : String) (nanoseconds : Nat)
  | snapshot (metric : String)
  | sameMetric (left right : String)
  | startTimer (metric name : String)
  | stopTimer (name : String)
  | dropTimer (name : String)
  | traces (collector : String)
  | drain (collector : String)
  | traceAttribute (collector : String) (index : Nat) (name : String)
  | compareTraces (collector : String)
  | collectorState (collector : String)
  | metricSnapshot (collector name : String)
  | activeTraces (collector : String)
  | recorderState (recorder : String)
  | resetRecorder (recorder : String)
  | factoryState (factory : String)
  | diagnose (object : Diagnosed)
  | sampleInParallel (metric : String) (threads each nanoseconds : Nat)
  | rootsInParallel (services metric : String) (threads : Nat) (collector : String)

inductive FactoryCommand where
  | create (name factory plugin : String)
  | bind (services factory : String)
  | get (registry id : String) (handle : Option String)
  | start (registry factory : String)
  | raceBind (services factory : String) (threads : Nat)

inductive WorkEnd (Value : Type) where
  | returns (value : Value)
  | fails (message : String)
  | panics (payload : Payload)

inductive RuleEnd where
  | panics (payload : Payload)
  | fails (error : Error)
  | delegates (factory : String)
  | hands (engine : String)

inductive Frame where
  | call (call : Call) (target metric : String)
  | timed (metric : String) (stops : Bool)
  | catching
  | onThread

inductive Step (Value : Type) where
  | command (label : String) (propagates : Bool) (command : Command)
  | factoryCommand (label : String) (propagates : Bool) (command : FactoryCommand)
  | work (label : String) (propagates : Bool) (frame : Frame) (steps : List (Step Value))
      (ending : WorkEnd Value)
  | scriptedFactory (label : String) (name : String)
      (rules : List (String × List (List (Step Value) × RuleEnd)))

abbrev Rule (Value : Type) := List (Step Value) × RuleEnd

end Instrumentation.Scenario
