import Instrumentation.Collector.Trace
import Instrumentation.Config.Basic
import Instrumentation.Metric

namespace Instrumentation

/-! The collecting engine's own state. Each function here is one step that
nothing interrupts: it reads or writes the state of a collector as a whole. At
most one trace is open on a thread. -/

structure ThreadId where
  index : Nat
  deriving DecidableEq, Repr

structure Collector where
  config : EngineConfig
  clock : Key Clock
  metrics : Dict (Key MetricStats) := .empty
  active : Table (Option OpenTrace) := {}
  completed : List CompletedTrace := []

namespace Collector

instance : Inhabited Collector := ⟨{ config := {}, clock := ⟨0⟩ }⟩

def new (config : EngineConfig) (clock : Key Clock) : Except Error Collector := do
  config.validate
  return { config, clock }

def activeOn (collector : Collector) (thread : ThreadId) : Option OpenTrace :=
  collector.active.get ⟨thread.index⟩

def setActive (collector : Collector) (thread : ThreadId) (trace : Option OpenTrace) :
    Collector :=
  { collector with active := collector.active.put ⟨thread.index⟩ trace }

@[simp] theorem activeOn_setActive (collector : Collector) (thread : ThreadId)
    (trace : Option OpenTrace) : (collector.setActive thread trace).activeOn thread = trace :=
  collector.active.get_put_same ⟨thread.index⟩ trace

theorem activeOn_setActive_other (collector : Collector) {thread other : ThreadId}
    (different : other ≠ thread) (trace : Option OpenTrace) :
    (collector.setActive thread trace).activeOn other = collector.activeOn other := by
  apply Table.get_put_other
  intro same
  cases other; cases thread; cases same
  exact different rfl

def activeCount (collector : Collector) : Nat :=
  collector.active.cells.countP Option.isSome

def openTrace (collector : Collector) (thread : ThreadId) (trace : OpenTrace) :
    Option Collector :=
  match collector.activeOn thread with
  | some _ => none
  | none => some (collector.setActive thread (some trace))

theorem openTrace_eq_some {collector later : Collector} {thread : ThreadId}
    {trace : OpenTrace} (opens : collector.openTrace thread trace = some later) :
    collector.activeOn thread = none ∧ later = collector.setActive thread (some trace) := by
  cases active : collector.activeOn thread <;> simp [openTrace, active] at opens
  exact ⟨rfl, opens.symm⟩

theorem openTrace_eq_none {collector : Collector} {thread : ThreadId} {trace : OpenTrace}
    (refused : collector.openTrace thread trace = none) :
    (collector.activeOn thread).isSome := by
  cases active : collector.activeOn thread <;> simp [openTrace, active] at refused ⊢

def closeTrace (collector : Collector) (thread : ThreadId) :
    Option OpenTrace × Collector :=
  (collector.activeOn thread, collector.setActive thread none)

def enterSpan (collector : Collector) (thread : ThreadId) (metric : String)
    (detail : Detail) (start : UInt64) : Option Nat × Collector :=
  match collector.activeOn thread with
  | none => (none, collector)
  | some trace =>
      (some trace.nextSlot,
        collector.setActive thread (some (trace.enterSpan metric detail start)))

def leaveSpan (collector : Collector) (thread : ThreadId) (slot : Nat) (duration : Nat)
    (outcome : Outcome) : Collector :=
  match collector.activeOn thread with
  | none => collector
  | some trace => collector.setActive thread (some (trace.leaveSpan slot duration outcome))

inductive AttributeFate where
  | kept
  | overLimit
  | outsideTrace
  deriving DecidableEq, Repr

def putAttribute (collector : Collector) (thread : ThreadId) (name value : String) :
    AttributeFate × Collector :=
  match collector.activeOn thread with
  | none => (.outsideTrace, collector)
  | some trace =>
      if trace.attributes.length < collector.config.maxTraceAttributes.toNat then
        (.kept, collector.setActive thread (some (trace.putAttribute name value)))
      else (.overLimit, collector)

def rootDetail (collector : Collector) (thread : ThreadId) : Option Detail :=
  (collector.activeOn thread).map OpenTrace.detail

def evict (capacity : Nat) : List CompletedTrace → List CompletedTrace
  | [] => []
  | oldest :: rest =>
      if capacity ≤ (oldest :: rest).length then evict capacity rest else oldest :: rest

def push (collector : Collector) (trace : CompletedTrace) : Collector :=
  { collector with
    completed :=
      evict collector.config.maxCompletedTraces.toNat collector.completed ++ [trace] }

def drain (collector : Collector) : List CompletedTrace × Collector :=
  (collector.completed, { collector with completed := [] })

def findStats? (collector : Collector) (name : String) : Option (Key MetricStats) :=
  collector.metrics.find? name

def findOrInsertStats (collector : Collector) (name : String) (fresh : Key MetricStats) :
    Key MetricStats × Collector :=
  match collector.metrics.find? name with
  | some stats => (stats, collector)
  | none => (fresh, { collector with metrics := collector.metrics.insert name fresh })

def metricNames (collector : Collector) : List String :=
  collector.metrics.keys

end Collector

end Instrumentation
