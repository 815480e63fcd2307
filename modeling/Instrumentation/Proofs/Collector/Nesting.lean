import Instrumentation.Proofs.Collector.Threads

namespace Instrumentation.Threads

/-! How calls on a collector nest, and what an open trace shows of that: the call that
opened it, and the spans entered since and not left. -/

/-! ## Frames -/

namespace Frame

@[simp] def slot? : Frame → Option Nat
  | span _ slot => slot
  | root _ | sample => none

@[simp] def isSpan : Frame → Bool
  | span _ _ => true
  | root _ | sample => false

@[simp] def rootDetail? : Frame → Option Detail
  | root opening => some opening.detail
  | span nestedRoot _ => nestedRoot
  | sample => none

/-- A call that found a trace open. -/
def IsWithin : Frame → Prop
  | span _ slot => slot.isSome
  | sample => True
  | root _ => False

/-- A call that found no trace, and opened none. -/
def IsOutside : Frame → Prop
  | span nestedRoot slot => nestedRoot = none ∧ slot = none
  | sample => True
  | root _ => False

theorem IsOutside.not_root {frame : Frame} (outside : frame.IsOutside) (opening : Opening) :
    frame ≠ root opening := by
  rintro rfl
  exact outside

theorem IsWithin.not_root {frame : Frame} (within : frame.IsWithin) (opening : Opening) :
    frame ≠ root opening := by
  rintro rfl
  exact within

theorem countP_isSpan {frames : List Frame} (within : ∀ frame ∈ frames, frame.IsWithin) :
    frames.countP isSpan = (frames.filterMap slot?).length := by
  induction frames with
  | nil => rfl
  | cons frame frames induction =>
      have counted := induction fun other member => within other (.tail frame member)
      have here := within frame (.head frames)
      cases frame with
      | root => cases here
      | sample => simpa [List.filterMap_cons] using counted
      | span nestedRoot slot =>
          rcases Option.isSome_iff_exists.mp here with ⟨slot, rfl⟩
          simpa [List.countP_cons] using counted

end Frame

def outermostRoot (frames : List Frame) : Option Detail :=
  (frames.filterMap Frame.rootDetail?).getLast?

/-! ## Places -/

/-- Where in a trace a thread is: what the trace was opened with, and the slots of the
spans entered since and not left, innermost first. -/
structure Place where
  opening : Opening
  slots : List Nat

inductive Nested : List Frame → Option Place → Prop
  | nothing : Nested [] none
  | untraced (frames : List Frame) (nested : Nested frames none) :
      Nested (.span none none :: frames) none
  | opened (frames : List Frame) (opening : Opening) (nested : Nested frames none) :
      Nested (.root opening :: frames) (some ⟨opening, []⟩)
  | entered (frames : List Frame) (place : Place) (nestedRoot : Option Detail) (slot : Nat)
      (nested : Nested frames (some place)) (beyond : ∀ other ∈ place.slots, other < slot) :
      Nested (.span nestedRoot (some slot) :: frames)
        (some { place with slots := slot :: place.slots })
  | sampled (frames : List Frame) (place : Option Place) (nested : Nested frames place) :
      Nested (.sample :: frames) place

namespace Nested

variable {frames : List Frame} {place : Place}

theorem outside (nested : Nested frames none) : ∀ frame ∈ frames, frame.IsOutside := by
  generalize traced : none = place at nested
  induction nested with
  | nothing => exact List.forall_mem_nil _
  | untraced frames nested induction =>
      exact List.forall_mem_cons.mpr ⟨⟨rfl, rfl⟩, induction traced⟩
  | opened | entered => cases traced
  | sampled frames place nested induction =>
      exact List.forall_mem_cons.mpr ⟨trivial, induction traced⟩

/-- Below the call that opened the trace there are only calls that found none. -/
theorem split (nested : Nested frames (some place)) :
    ∃ inner outer, frames = inner ++ .root place.opening :: outer ∧
      (∀ frame ∈ inner, frame.IsWithin) ∧ (∀ frame ∈ outer, frame.IsOutside) ∧
      inner.filterMap Frame.slot? = place.slots := by
  generalize traced : some place = found at nested
  induction nested generalizing place with
  | nothing | untraced => cases traced
  | opened frames opening nested =>
      cases traced
      exact ⟨[], frames, rfl, List.forall_mem_nil _, nested.outside, rfl⟩
  | entered frames earlier nestedRoot slot nested beyond induction =>
      cases traced
      rcases induction rfl with ⟨inner, outer, rfl, within, outside, slots⟩
      refine ⟨.span nestedRoot (some slot) :: inner, outer, rfl,
        List.forall_mem_cons.mpr ⟨rfl, within⟩, outside, ?_⟩
      simp [slots]
  | sampled frames found nested induction =>
      rcases induction traced with ⟨inner, outer, rfl, within, outside, slots⟩
      exact ⟨.sample :: inner, outer, rfl, List.forall_mem_cons.mpr ⟨trivial, within⟩, outside,
        slots⟩

theorem slots_decrease (nested : Nested frames (some place)) :
    place.slots.Pairwise (· > ·) := by
  generalize traced : some place = found at nested
  induction nested generalizing place with
  | nothing | untraced => cases traced
  | opened =>
      cases traced
      exact .nil
  | entered frames earlier nestedRoot slot nested beyond induction =>
      cases traced
      exact .cons beyond (induction rfl)
  | sampled frames found nested induction => exact induction traced

theorem outermostRoot_eq {found : Option Place} (nested : Nested frames found) :
    outermostRoot frames = found.map (·.opening.detail) := by
  induction nested with
  | nothing => rfl
  | untraced frames nested induction => exact induction
  | opened frames opening nested induction =>
      have none : frames.filterMap Frame.rootDetail? = [] :=
        List.getLast?_eq_none_iff.mp induction
      simp [outermostRoot, none]
  | entered frames place nestedRoot slot nested beyond induction =>
      cases nestedRoot with
      | none => exact induction
      | some detail =>
          have inner : (frames.filterMap Frame.rootDetail?).getLast? =
              some place.opening.detail := induction
          simp [outermostRoot, List.getLast?_cons, inner]
  | sampled frames place nested induction => exact induction

end Nested

/-! ## Traces -/

structure Mirrors (limit : Nat) (trace : OpenTrace) (place : Place) : Prop where
  plugin : trace.plugin = place.opening.plugin
  metric : trace.metric = place.opening.metric
  detail : trace.detail = place.opening.detail
  depth : trace.depth = place.slots.length
  below : ∀ slot ∈ place.slots, slot < trace.spans.length
  attributes : trace.attributes.length ≤ limit

namespace Mirrors

variable {limit : Nat} {trace : OpenTrace} {place : Place}

theorem opens (number : Nat) (start : UInt64) (opening : Opening) :
    Mirrors limit
      { number, plugin := opening.plugin, start, metric := opening.metric
        detail := opening.detail } ⟨opening, []⟩ where
  plugin := rfl
  metric := rfl
  detail := rfl
  depth := rfl
  below := List.forall_mem_nil _
  attributes := Nat.zero_le limit

theorem enterSpan (mirrors : Mirrors limit trace place) (metric : String) (detail : Detail)
    (start : UInt64) :
    Mirrors limit (trace.enterSpan metric detail start)
      { place with slots := trace.nextSlot :: place.slots } where
  plugin := mirrors.plugin
  metric := mirrors.metric
  detail := mirrors.detail
  depth := congrArg Nat.succ mirrors.depth
  below := by
    rw [OpenTrace.enterSpan, List.length_append, List.length_singleton]
    intro slot member
    rcases List.mem_cons.mp member with rfl | member
    · exact Nat.lt_succ_self _
    · exact Nat.lt_succ_of_lt (mirrors.below slot member)
  attributes := mirrors.attributes

theorem leaveSpan {slot : Nat} {slots : List Nat} {opening : Opening}
    (mirrors : Mirrors limit trace ⟨opening, slot :: slots⟩) (duration : Nat) (outcome : Outcome) :
    Mirrors limit (trace.leaveSpan slot duration outcome) ⟨opening, slots⟩ where
  plugin := mirrors.plugin
  metric := mirrors.metric
  detail := mirrors.detail
  depth := by
    rw [OpenTrace.leaveSpan, mirrors.depth]
    rfl
  below := by
    rw [OpenTrace.leaveSpan, List.length_modify]
    exact fun other member => mirrors.below other (.tail slot member)
  attributes := mirrors.attributes

theorem putAttribute (mirrors : Mirrors limit trace place)
    (room : trace.attributes.length < limit) (name value : String) :
    Mirrors limit (trace.putAttribute name value) place where
  plugin := mirrors.plugin
  metric := mirrors.metric
  detail := mirrors.detail
  depth := mirrors.depth
  below := mirrors.below
  attributes := by
    rw [OpenTrace.putAttribute, List.length_append]
    exact room

end Mirrors

end Instrumentation.Threads
