import Instrumentation.Proofs.Collector.Undisturbed

namespace Instrumentation

/-! A trace that is underway. While the call that opened it runs, the collector is as it
was before but for this trace; what a span does to the trace when it is entered and when
it is left, with anything in between, comes to a record more. -/

variable {Host Fault Value : Type}

/-! ## Open traces -/

namespace OpenTrace

variable {trace : OpenTrace} {limit : Nat}

def extended (trace : OpenTrace) (limit : Nat) (spans : List SpanRecord)
    (attributes : List (String × String)) : OpenTrace :=
  { trace with
    spans := trace.spans ++ spans
    attributes := (trace.attributes ++ attributes).take limit }

theorem extended_extended (trace : OpenTrace) (limit : Nat) (spans more : List SpanRecord)
    (attributes others : List (String × String)) :
    (trace.extended limit spans attributes).extended limit more others =
      trace.extended limit (spans ++ more) (attributes ++ others) := by
  have cutTwice (first second : List (String × String)) :
      (first.take limit ++ second).take limit = (first ++ second).take limit := by
    have left : limit - min limit first.length = limit - first.length := by omega
    rw [List.take_append, List.take_append, List.take_take, List.length_take, left,
      Nat.min_self]
  simp only [extended, List.append_assoc, cutTwice]

end OpenTrace

/-! ## The collector while a trace is open -/

structure Underway (site : Site) (trace : OpenTrace) (surroundings : Surroundings Host)
    (world : World Host) : Prop where
  services : world.services = site.services
  thread : world.thread = site.thread
  surroundings : world.surroundings = surroundings
  collector : world.collectors.get site.key =
    site.collector.setActive site.thread (some trace)
  origin : trace.start = site.origin
  within : trace.attributes.length ≤ site.attributeLimit

def World.setCollector (world : World Host) (key : Key Collector) (state : Collector) :
    World Host :=
  { world with collectors := world.collectors.put key state }

def CallEnding.shown : CallEnding → Outcome
  | .ok outcome => outcome
  | .error _ => .panicked

def CollectorView.lasting (view : CollectorView) (start : UInt64) (world : World Host) :
    Nat :=
  (world.clocks.get (world.collectors.get view.collector).clock).elapsedSince start

namespace Underway

variable {site : Site} {trace next : OpenTrace} {surroundings : Surroundings Host}
  {world later : World Host}

theorem undisturbed (underway : Underway site trace surroundings world)
    (kept : Undisturbed site.key world later) :
    Underway site trace surroundings later where
  services := kept.services.trans underway.services
  thread := kept.thread.trans underway.thread
  surroundings := kept.surroundings.trans underway.surroundings
  collector := kept.collector.trans underway.collector
  origin := underway.origin
  within := underway.within

theorem activeOn (underway : Underway site trace surroundings world) :
    (world.collectors.get site.key).activeOn world.thread = some trace := by
  rw [underway.collector, underway.thread]
  exact site.collector.active.get_put_same _ _

theorem setActive (underway : Underway site trace surroundings world)
    (next : Option OpenTrace) :
    (world.collectors.get site.key).setActive world.thread next =
      site.collector.setActive site.thread next := by
  rw [underway.collector, underway.thread]
  exact congrArg (fun active => { site.collector with active })
    (site.collector.active.put_put _ _ _)

theorem lasting (underway : Underway site trace surroundings world) {view : CollectorView}
    (here : view.collector = site.key) (start : UInt64) :
    view.lasting start world = Clock.between start (site.reading surroundings) := by
  rw [CollectorView.lasting, here, underway.collector, ← underway.surroundings]
  rfl

end Underway

structure Traced (site : Site) (trace : OpenTrace) (came : Traversal Host Fault Value)
    (run : Except Payload (Except Fault Value) × World Host) : Prop where
  ending : run.1 = came.ending
  underway : Underway site
    (trace.extended site.attributeLimit came.spans came.attributes) came.surroundings run.2

namespace Traced

variable {site : Site} {trace : OpenTrace} {earlier later : Traversal Host Fault Value}
  {next : Except Payload (Except Fault Value) × World Host}

theorem after
    (second : Traced site
      (trace.extended site.attributeLimit earlier.spans earlier.attributes) later next) :
    Traced site trace (later.after earlier) next where
  ending := second.ending
  underway := by
    have underway := second.underway
    rw [OpenTrace.extended_extended] at underway
    exact underway

end Traced

/-! ## Attributes -/

namespace CollectorView

theorem onCollector_apply (view : CollectorView) (step : Collector → Value × Collector)
    (world : World Host) :
    view.onCollector step world =
      let (value, state) := step (world.collectors.get view.collector)
      (.ok value, world.setCollector view.collector state) := rfl

end CollectorView

end Instrumentation
