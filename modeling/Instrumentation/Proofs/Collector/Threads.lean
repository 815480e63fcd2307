import Instrumentation.Collector.Basic
import Mathlib.Logic.Function.Basic
import Mathlib.Logic.Relation

namespace Instrumentation

/-! Threads that call one collector, each in calls within calls. A work may return or be
unwound through at any point, so that a call is left whenever it is the innermost one; and
between any two steps of a thread others may make theirs. Every step named here is one
that nothing interrupts. -/

namespace Threads

structure Opening where
  plugin : PluginId
  metric : String
  detail : Detail

inductive Frame where
  | root (opening : Opening)
  /-- A span, or a root span that found a trace open, with the slot that it was given. -/
  | span (nestedRoot : Option Detail) (slot : Option Nat)
  | sample

inductive Next where
  | running
  /-- A root span was refused and is about to be entered as a span. -/
  | nesting (metric : String) (detail : Detail)
  | keeping (trace : CompletedTrace)

structure Activity where
  frames : List Frame := []
  next : Next := .running

def Next.afterClose (duration : Nat) (outcome : Outcome) : Option OpenTrace → Next
  | none => .running
  | some trace => .keeping (trace.complete duration outcome)

/-- The steps of a thread, with what they do to the collector. -/
inductive Activity.Moves (collector : Collector) (thread : ThreadId) :
    Activity → Collector → Activity → Prop
  | opens (frames : List Frame) (number : Nat) (start : UInt64) (opening : Opening)
      (later : Collector)
      (opens : collector.openTrace thread
        { number, plugin := opening.plugin, start, metric := opening.metric
          detail := opening.detail } = some later) :
      Moves collector thread { frames } later { frames := .root opening :: frames }
  | refused (frames : List Frame) (number : Nat) (start : UInt64) (opening : Opening)
      (refused : collector.openTrace thread
        { number, plugin := opening.plugin, start, metric := opening.metric
          detail := opening.detail } = none) :
      Moves collector thread { frames } collector
        { frames, next := .nesting opening.metric opening.detail }
  | enters (frames : List Frame) (metric : String) (detail : Detail) (start : UInt64)
      (slot : Option Nat) (later : Collector)
      (enters : collector.enterSpan thread metric detail start = (slot, later)) :
      Moves collector thread { frames } later { frames := .span none slot :: frames }
  | nests (frames : List Frame) (metric : String) (detail : Detail) (start : UInt64)
      (slot : Option Nat) (later : Collector)
      (enters : collector.enterSpan thread metric detail start = (slot, later)) :
      Moves collector thread { frames, next := .nesting metric detail } later
        { frames := .span (some detail) slot :: frames }
  | samples (frames : List Frame) :
      Moves collector thread { frames } collector { frames := .sample :: frames }
  | sampled (frames : List Frame) :
      Moves collector thread { frames := .sample :: frames } collector { frames }
  | leaves (frames : List Frame) (nestedRoot : Option Detail) (slot duration : Nat)
      (outcome : Outcome) :
      Moves collector thread { frames := .span nestedRoot (some slot) :: frames }
        (collector.leaveSpan thread slot duration outcome) { frames }
  | leavesUntraced (frames : List Frame) (nestedRoot : Option Detail) :
      Moves collector thread { frames := .span nestedRoot none :: frames } collector { frames }
  | closes (frames : List Frame) (opening : Opening) (duration : Nat) (outcome : Outcome)
      (closed : Option OpenTrace) (later : Collector)
      (closes : collector.closeTrace thread = (closed, later)) :
      Moves collector thread { frames := .root opening :: frames } later
        { frames, next := .afterClose duration outcome closed }
  | keeps (frames : List Frame) (trace : CompletedTrace) :
      Moves collector thread { frames, next := .keeping trace } (collector.push trace)
        { frames }
  | puts (frames : List Frame) (name value : String) :
      Moves collector thread { frames } (collector.putAttribute thread name value).2 { frames }
  | drains (frames : List Frame) :
      Moves collector thread { frames } collector.drain.2 { frames }

structure Scene where
  collector : Collector
  threads : ThreadId → Activity := fun _ => {}

namespace Scene

def after (scene : Scene) (thread : ThreadId) (later : Collector) (next : Activity) : Scene where
  collector := later
  threads := Function.update scene.threads thread next

section After

variable (scene : Scene) (thread : ThreadId) (later : Collector) (next : Activity)

@[simp] theorem threads_after_same : (scene.after thread later next).threads thread = next := by
  simp [after]

theorem threads_after_other {other : ThreadId} (different : other ≠ thread) :
    (scene.after thread later next).threads other = scene.threads other := by
  simp [after, different]

end After

inductive Step (scene : Scene) : Scene → Prop
  | moves (thread : ThreadId) (later : Collector) (next : Activity)
      (moves : (scene.threads thread).Moves scene.collector thread later next) :
      Step scene (scene.after thread later next)

abbrev Becomes : Scene → Scene → Prop :=
  Relation.ReflTransGen Step

def opening (config : EngineConfig) (clock : Key Clock) : Scene where
  collector := { config, clock }

end Scene

end Threads

end Instrumentation
