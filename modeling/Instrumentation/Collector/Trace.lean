import Instrumentation.Clock
import Instrumentation.Detail
import Instrumentation.Outcome
import Instrumentation.PluginId

namespace Instrumentation

/-! Traces. A trace is open while the call of its root span runs; the spans that
are entered meanwhile are recorded in order of entry, each with its depth below
the root, and are completed in place when their calls end. -/

structure SpanRecord where
  description : String
  metric : String
  context : List (String × String)
  depth : Nat
  /-- Nanoseconds from the start of the trace. -/
  offset : Nat
  duration : Nat
  outcome : Outcome
  deriving DecidableEq, Repr

structure CompletedTrace where
  number : Nat
  plugin : PluginId
  duration : Nat
  metric : String
  description : String
  username : Option String
  outcome : Outcome
  spans : List SpanRecord
  attributes : List (String × String)
  deriving DecidableEq

namespace CompletedTrace

def findAttribute? (trace : CompletedTrace) (name : String) : Option String :=
  trace.attributes.lookup name

end CompletedTrace

structure OpenTrace where
  number : Nat
  plugin : PluginId
  start : UInt64
  metric : String
  detail : Detail
  depth : Nat := 0
  spans : List SpanRecord := []
  attributes : List (String × String) := []

namespace OpenTrace

def nextSlot (trace : OpenTrace) : Nat :=
  trace.spans.length

def enterSpan (trace : OpenTrace) (metric : String) (detail : Detail) (start : UInt64) :
    OpenTrace :=
  let span : SpanRecord := {
    description := detail.description
    metric
    context := detail.context
    depth := trace.depth + 1
    offset := Clock.between trace.start start
    duration := 0
    outcome := .completed }
  { trace with depth := trace.depth + 1, spans := trace.spans ++ [span] }

def leaveSpan (trace : OpenTrace) (slot : Nat) (duration : Nat) (outcome : Outcome) :
    OpenTrace :=
  { trace with
    depth := trace.depth - 1
    spans := trace.spans.modify slot fun span => { span with duration, outcome } }

def putAttribute (trace : OpenTrace) (name value : String) : OpenTrace :=
  { trace with attributes := trace.attributes ++ [(name, value)] }

def complete (trace : OpenTrace) (duration : Nat) (outcome : Outcome) : CompletedTrace where
  number := trace.number
  plugin := trace.plugin
  duration
  metric := trace.metric
  description := trace.detail.description
  username := trace.detail.username
  outcome
  spans := trace.spans
  attributes := trace.attributes

end OpenTrace

end Instrumentation
