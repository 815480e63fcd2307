import Instrumentation.Proofs.Interception.Calls

namespace Instrumentation

/-! Programs that are made of calls. The work of a call is such a program itself, and a
program sees how each of its calls ended: it may go on with the result, pass a panic on
or catch it. Between its calls it does with its surroundings whatever it likes. -/

variable {Host Fault Value : Type}

/-- The part of a world that belongs to the programs of the host: what the host keeps
for itself, and the clocks. -/
structure Surroundings (Host : Type) where
  host : Host
  clocks : Table Clock

namespace World

def surroundings (world : World Host) : Surroundings Host :=
  ⟨world.host, world.clocks⟩

def inSurroundings (world : World Host) (surroundings : Surroundings Host) : World Host :=
  { world with host := surroundings.host, clocks := surroundings.clocks }

end World

/-! ## Callees -/

inductive Callee where
  | services (services : Key PluginServices)
  | direct (view : CollectorView)

namespace Callee

def engine? (services : Table PluginServices) : Callee → Option Engine
  | .services key => (services.get key).engine
  | .direct view => some (.view view.collector view.plugin)

def putTraceAttribute [HostEngines Host] (callee : Callee) (name value : String) :
    Program Host (Except Error Unit) :=
  match callee with
  | .services key => PluginServices.putTraceAttribute key name value
  | .direct view => view.putTraceAttribute name value

def attributeAnswer (services : Table PluginServices) : Callee → Except Error Unit
  | .services key =>
      let state := services.get key
      if state.isBound then .ok () else .error (PluginServices.notReady state.plugin)
  | .direct _ => .ok ()

end Callee

namespace Call

def onCallee [HostEngines Host] (call : Call) (callee : Callee) (metric : Metric)
    (describe : Fault → String) (work : Program Host (Except Fault Value)) :
    Program Host (Except Fault Value) :=
  match callee with
  | .services key => call.onServices key metric describe work
  | .direct view =>
      runIntercepted (call.onEngine view.methods metric) (call.classify describe) work

def detail? : Call → Option Detail
  | rootSpan detail | span detail => some detail
  | tryRecord | record => none

end Call

/-! ## Trees of calls -/

inductive CallTree (Host Fault Value : Type) where
  | ends (ending : Except Payload (Except Fault Value))
  | acts (change : Surroundings Host → Surroundings Host)
      (rest : Surroundings Host → CallTree Host Fault Value)
  | puts (callee : Callee) (name value : String)
      (rest : Except Error Unit → CallTree Host Fault Value)
  | calls (callee : Callee) (metric : Metric) (call : Call)
      (work : CallTree Host Fault Value)
      (rest : Except Payload (Except Fault Value) → CallTree Host Fault Value)

namespace CallTree

def run [HostEngines Host] (describe : Fault → String) :
    CallTree Host Fault Value → Program Host (Except Fault Value)
  | ends ending => finish ending
  | acts change rest => do
      modify fun world => world.inSurroundings (change world.surroundings)
      (rest (← get).surroundings).run describe
  | puts callee name value rest => do
      let answer ← callee.putTraceAttribute name value
      (rest answer).run describe
  | calls callee metric call work rest => do
      let ending ← attempt (call.onCallee callee metric describe (work.run describe))
      (rest ending).run describe

def CallsOnly (kind : Callee → Prop) : CallTree Host Fault Value → Prop
  | ends _ => True
  | acts _ rest => ∀ surroundings, (rest surroundings).CallsOnly kind
  | puts callee _ _ rest => kind callee ∧ ∀ answer, (rest answer).CallsOnly kind
  | calls callee _ _ work rest =>
      kind callee ∧ work.CallsOnly kind ∧ ∀ ending, (rest ending).CallsOnly kind

end CallTree

/-! ## The reference -/

def Outcome.ofEnding (describe : Fault → String) :
    Except Payload (Except Fault Value) → Outcome
  | .ok result => ofResult describe result
  | .error _ => panicked

structure Site where
  key : Key Collector
  collector : Collector
  services : Table PluginServices
  thread : ThreadId
  origin : UInt64

def World.site (world : World Host) (key : Key Collector) : Site :=
  let collector := world.collectors.get key
  { key, collector, services := world.services, thread := world.thread
    origin := (world.clocks.get collector.clock).reading }

namespace Site

def reading (site : Site) (surroundings : Surroundings Host) : UInt64 :=
  (surroundings.clocks.get site.collector.clock).reading

def attributeLimit (site : Site) : Nat :=
  site.collector.config.maxTraceAttributes.toNat

end Site

structure Traversal (Host Fault Value : Type) where
  ending : Except Payload (Except Fault Value)
  surroundings : Surroundings Host
  spans : List SpanRecord := []
  attributes : List (String × String) := []

namespace Traversal

def after (later earlier : Traversal Host Fault Value) : Traversal Host Fault Value :=
  { later with
    spans := earlier.spans ++ later.spans
    attributes := earlier.attributes ++ later.attributes }

def record (work : Traversal Host Fault Value) (site : Site) (describe : Fault → String)
    (depth : Nat) (metric : Metric) (detail : Detail) (start : UInt64) : SpanRecord where
  description := detail.description
  metric := metric.name
  context := detail.context
  depth
  offset := Clock.between site.origin start
  duration := Clock.between start (site.reading work.surroundings)
  outcome := Outcome.ofEnding describe work.ending

end Traversal

end Instrumentation
