import Instrumentation.Proofs.Collector.Intervals
import Instrumentation.Proofs.Collector.Workers

namespace Instrumentation.Workers

/-! The readings behind a trace nest, whatever the clock shows: they are numbered in the
order in which a thread makes them, and what is written of a call is the time between two
of them. -/

variable {Fault Value : Type} {describe : Fault → String} {clock : Nat → UInt64}

/-! ## What is written of a call -/

structure Sampled (clock : Nat → UInt64) (start finish : Nat) (sample : Sample) : Prop where
  begins : start ≤ sample.reading
  ends : sample.reading ≤ finish
  nanoseconds : sample.nanoseconds = Clock.between (clock start) (clock sample.reading)

/-- A call that lasted for this time by the readings behind it. Only one that was unwound
through has no sample. -/
structure Lasted (clock : Nat → UInt64) (timing : Timing) (duration : Nat) (outcome : Outcome) :
    Prop where
  order : timing.start ≤ timing.finish
  duration : duration = Clock.between (clock timing.start) (clock timing.finish)
  sampled : ∀ sample ∈ timing.sample, Sampled clock timing.start timing.finish sample
  unsampled : timing.sample = none → outcome = .panicked

/-! ## Spans that were left -/

/-- Spans that were entered and left between two readings, at the level below a depth and
further down, each with the readings behind it. -/
inductive Forest (clock : Nat → UInt64) (origin : Nat) :
    Nat → Nat → Nat → List SpanRecord → List Timing → Prop
  | nothing {depth since upto : Nat} (order : since ≤ upto) :
      Forest clock origin depth since upto [] []
  | tree {depth since upto : Nat} {span : SpanRecord} {timing : Timing}
      {below rest : List SpanRecord} {belowTimings restTimings : List Timing}
      (level : span.depth = depth + 1)
      (offset : span.offset = Clock.between (clock origin) (clock timing.start))
      (lasted : Lasted clock timing span.duration span.outcome)
      (begins : since ≤ timing.start)
      (within : Forest clock origin (depth + 1) timing.start timing.finish below belowTimings)
      (later : Forest clock origin depth timing.finish upto rest restTimings) :
      Forest clock origin depth since upto (span :: (below ++ rest))
        (timing :: (belowTimings ++ restTimings))

namespace Forest

variable {origin depth since upto : Nat} {spans more : List SpanRecord}
  {timings others : List Timing}

theorem order (forest : Forest clock origin depth since upto spans timings) : since ≤ upto := by
  induction forest with
  | nothing order => exact order
  | tree level offset lasted begins within later withinInduction laterInduction =>
      have lastedOrder := lasted.order
      omega

theorem lengths (forest : Forest clock origin depth since upto spans timings) :
    timings.length = spans.length := by
  induction forest with
  | nothing => rfl
  | tree level offset lasted begins within later withinInduction laterInduction =>
      simp only [List.length_cons, List.length_append, withinInduction, laterInduction]

theorem append {last : Nat} (first : Forest clock origin depth since upto spans timings)
    (second : Forest clock origin depth upto last more others) :
    Forest clock origin depth since last (spans ++ more) (timings ++ others) := by
  induction first with
  | nothing order =>
      cases second with
      | nothing orderLater => exact .nothing (Nat.le_trans order orderLater)
      | tree level offset lasted begins within later =>
          exact .tree level offset lasted (Nat.le_trans order begins) within later
  | tree level offset lasted begins within later withinInduction laterInduction =>
      rw [List.cons_append, List.cons_append, List.append_assoc, List.append_assoc]
      exact .tree level offset lasted begins within (laterInduction second)

end Forest

/-! ## Spans that are open -/

namespace Frame

def IsOutside (frame : Frame Fault Value) : Prop :=
  frame.entry = .sample ∨ frame.entry = .span none

end Frame

/-- The spans of an open trace, with the readings behind them, by the calls that are open
within. Before an open span stands what had been entered before it, and behind it what was
entered and left since. -/
inductive Growing (clock : Nat → UInt64) (origin : Nat) :
    List (Frame Fault Value) → Nat → Nat → List SpanRecord → List Timing → Prop
  | opened {frame : Frame Fault Value} {outer : List (Frame Fault Value)} {upto : Nat}
      {spans : List SpanRecord} {timings : List Timing} (entry : frame.entry = .root)
      (started : frame.started = origin) (outside : ∀ other ∈ outer, other.IsOutside)
      (forest : Forest clock origin 0 origin upto spans timings) :
      Growing clock origin (frame :: outer) 0 upto spans timings
  | sampled {frame : Frame Fault Value} {frames : List (Frame Fault Value)} {depth upto : Nat}
      {spans : List SpanRecord} {timings : List Timing} (entry : frame.entry = .sample)
      (grows : Growing clock origin frames depth upto spans timings) :
      Growing clock origin (frame :: frames) depth upto spans timings
  | entered {frame : Frame Fault Value} {frames : List (Frame Fault Value)}
      {depth since upto : Nat} {span : SpanRecord} {timing : Timing}
      {before inner : List SpanRecord} {timings innerTimings : List Timing}
      (entry : frame.entry = .span (some before.length))
      (grows : Growing clock origin frames depth since before timings)
      (lengths : timings.length = before.length) (level : span.depth = depth + 1)
      (offset : span.offset = Clock.between (clock origin) (clock frame.started))
      (begins : since ≤ frame.started)
      (within : Forest clock origin (depth + 1) frame.started upto inner innerTimings) :
      Growing clock origin (frame :: frames) (depth + 1) upto (before ++ span :: inner)
        (timings ++ timing :: innerTimings)

namespace Growing

variable {origin depth since upto : Nat} {frames : List (Frame Fault Value)}
  {spans more : List SpanRecord} {timings others : List Timing}

theorem lengths (grows : Growing clock origin frames depth upto spans timings) :
    timings.length = spans.length := by
  induction grows with
  | opened entry started outside forest => exact forest.lengths
  | sampled entry grows induction => exact induction
  | entered entry grows lengths level offset begins within =>
      simp only [List.length_append, List.length_cons, lengths, within.lengths]

theorem append (grows : Growing clock origin frames depth since spans timings)
    (forest : Forest clock origin depth since upto more others) :
    Growing clock origin frames depth upto (spans ++ more) (timings ++ others) := by
  induction grows with
  | opened entry started outside earlier =>
      exact .opened entry started outside (earlier.append forest)
  | sampled entry grows induction => exact .sampled entry (induction forest)
  | entered entry grows lengths level offset begins within =>
      rw [List.append_assoc, List.append_assoc, List.cons_append, List.cons_append]
      exact .entered entry grows lengths level offset begins (within.append forest)

theorem later (grows : Growing clock origin frames depth since spans timings)
    (order : since ≤ upto) : Growing clock origin frames depth upto spans timings := by
  have grown := grows.append (Forest.nothing order)
  rwa [List.append_nil, List.append_nil] at grown

theorem of_root {frame : Frame Fault Value} (entry : frame.entry = .root)
    (grows : Growing clock origin (frame :: frames) depth upto spans timings) :
    frame.started = origin ∧ (∀ other ∈ frames, other.IsOutside) ∧
      Forest clock origin 0 origin upto spans timings := by
  cases grows with
  | opened _ started outside forest => exact ⟨started, outside, forest⟩
  | sampled sampled => rw [entry] at sampled; cases sampled
  | entered entered => rw [entry] at entered; cases entered

theorem of_sample {frame : Frame Fault Value} (entry : frame.entry = .sample)
    (grows : Growing clock origin (frame :: frames) depth upto spans timings) :
    Growing clock origin frames depth upto spans timings := by
  cases grows with
  | opened root => rw [entry] at root; cases root
  | sampled _ grows => exact grows
  | entered entered => rw [entry] at entered; cases entered

theorem entry_ne_untraced {frame : Frame Fault Value}
    (grows : Growing clock origin (frame :: frames) depth upto spans timings) :
    frame.entry ≠ .span none := by
  intro entry
  cases grows with
  | opened root => rw [entry] at root; cases root
  | sampled sampled => rw [entry] at sampled; cases sampled
  | entered entered => rw [entry] at entered; cases entered

theorem enters (grows : Growing clock origin frames depth since spans timings)
    {frame : Frame Fault Value} (entry : frame.entry = .span (some spans.length))
    (begins : since ≤ frame.started) {span : SpanRecord} (level : span.depth = depth + 1)
    (offset : span.offset = Clock.between (clock origin) (clock frame.started))
    (timing : Timing) (order : frame.started ≤ upto) :
    Growing clock origin (frame :: frames) (depth + 1) upto (spans ++ [span])
      (timings ++ [timing]) :=
  .entered entry grows grows.lengths level offset begins (.nothing order)

/-- A span that is left becomes one more tree among those of its level. -/
theorem leaves {frame : Frame Fault Value} {slot finish : Nat}
    (grows : Growing clock origin (frame :: frames) depth upto spans timings)
    (entry : frame.entry = .span (some slot)) (order : upto ≤ finish) {sample : Option Sample}
    {duration : Nat} {outcome : Outcome}
    (lasted : Lasted clock { start := frame.started, sample, finish := upto } duration outcome) :
    Growing clock origin frames (depth - 1) finish
      (spans.modify slot fun span => { span with duration, outcome })
      (timings.set slot { start := frame.started, sample, finish := upto }) := by
  cases grows with
  | opened root => rw [entry] at root; cases root
  | sampled sampled => rw [entry] at sampled; cases sampled
  | @entered _ _ depth since _ span _ before inner timings innerTimings entered grows lengths level
      offset begins within =>
      rw [entry] at entered
      cases entered
      have tree : Forest clock origin depth since finish
          ({ span with duration, outcome } :: (inner ++ []))
          ({ start := frame.started, sample, finish := upto } :: (innerTimings ++ [])) :=
        .tree level offset lasted begins within (.nothing order)
      rw [List.append_nil, List.append_nil] at tree
      have grown := grows.append tree
      have modified : (before ++ span :: inner).modify before.length
          (fun span => { span with duration, outcome }) =
          before ++ { span with duration, outcome } :: inner := by
        simp [List.modify_eq_take_drop]
      rw [modified, ← lengths, List.set_append_right _ _ (Nat.le_refl _), Nat.sub_self]
      exact grown

end Growing

end Instrumentation.Workers
