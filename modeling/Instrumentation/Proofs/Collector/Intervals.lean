import Instrumentation.Collector.Trace

namespace Instrumentation

/-! Intervals that nest. The spans of a trace stand in order of entry with their depths; they
are properly nested if each stands before the spans below it, these lie within it, and what
comes after them begins when it has ended. -/

namespace SpanRecord

def finish (span : SpanRecord) : Nat :=
  span.offset + span.duration

/-- A span is above a later one if that one is deeper, and so are all that were entered in
between. -/
def IsAbove (outer : SpanRecord) (between : List SpanRecord) (inner : SpanRecord) : Prop :=
  ∀ span ∈ between ++ [inner], outer.depth < span.depth

end SpanRecord

/-- Spans at the level below a depth and further down, between two points in time. -/
inductive Nests : Nat → Nat → Nat → List SpanRecord → Prop
  | nothing {depth since upto : Nat} (order : since ≤ upto) : Nests depth since upto []
  | tree {depth since upto : Nat} {span : SpanRecord} {below rest : List SpanRecord}
      (level : span.depth = depth + 1) (begins : since ≤ span.offset)
      (within : Nests (depth + 1) span.offset span.finish below)
      (later : Nests depth span.finish upto rest) : Nests depth since upto (span :: (below ++ rest))

structure Splits (outer : SpanRecord) (tail below rest : List SpanRecord) : Prop where
  tail : tail = below ++ rest
  deeper : ∀ span ∈ below, outer.depth < span.depth
  within : ∀ span ∈ below, outer.offset ≤ span.offset ∧ span.finish ≤ outer.finish
  after : ∀ span ∈ rest, outer.finish ≤ span.offset
  leaves : ∀ span ∈ rest.head?, span.depth ≤ outer.depth

/-- A span further on is below this one with all in between, or it is behind the first that
is not. -/
theorem Splits.cases_tail {outer inner : SpanRecord} {between after below rest : List SpanRecord}
    (split : Splits outer (between ++ inner :: after) below rest) :
    (∀ span ∈ between ++ [inner], span ∈ below) ∨
      inner ∈ rest ∧ ∃ span ∈ between ++ [inner], span ∈ rest.head? := by
  rcases List.append_eq_append_iff.mp split.tail with ⟨middle, here, there⟩ | ⟨middle, here, there⟩
  · rcases middle with _ | ⟨head, middle⟩
    · obtain rfl : inner :: after = rest := there
      exact .inr ⟨.head after, inner, by simp, rfl⟩
    · obtain ⟨rfl, rfl⟩ := List.cons.inj there
      refine .inl fun span member => ?_
      rw [here]
      rcases List.mem_append.mp member with member | member
      · exact List.mem_append_left _ member
      · exact List.mem_append_right _ (List.mem_singleton.mp member ▸ .head middle)
  · refine .inr ⟨by simp [there], ?_⟩
    rcases middle with _ | ⟨head, middle⟩
    · exact ⟨inner, by simp, by simp [there]⟩
    · exact ⟨head, by simp [here], by simp [there]⟩

namespace Nests

variable {depth since upto : Nat} {spans : List SpanRecord}

theorem order (nests : Nests depth since upto spans) : since ≤ upto := by
  induction nests with
  | nothing order => exact order
  | tree level begins within later withinInduction laterInduction => omega

theorem bounds (nests : Nests depth since upto spans) {span : SpanRecord} (member : span ∈ spans) :
    depth < span.depth ∧ since ≤ span.offset ∧ span.finish ≤ upto := by
  induction nests with
  | nothing => cases member
  | tree level begins within later withinInduction laterInduction =>
      have spanOrder := within.order
      have laterOrder := later.order
      rcases List.mem_cons.mp member with rfl | member
      · omega
      · rcases List.mem_append.mp member with member | member
        · have bounded := withinInduction member
          omega
        · have bounded := laterInduction member
          omega

theorem head_level (nests : Nests depth since upto spans) :
    ∀ span ∈ spans.head?, span.depth = depth + 1 := by
  intro span head
  cases nests with
  | nothing => cases head
  | tree level => cases head; exact level

/-- Behind every span there is first what lies below it. -/
theorem splits (nests : Nests depth since upto spans) {before : List SpanRecord}
    {outer : SpanRecord} {tail : List SpanRecord} (stands : spans = before ++ outer :: tail) :
    ∃ below rest, Splits outer tail below rest := by
  induction nests generalizing before tail with
  | nothing => simp at stands
  | @tree depth since upto span below rest level begins within later withinInduction laterInduction =>
      rcases before with _ | ⟨first, before⟩
      · obtain ⟨rfl, rfl⟩ := List.cons.inj stands
        refine ⟨below, rest, rfl, ?_, ?_, ?_, ?_⟩
        · intro other member
          have bounded := within.bounds member
          omega
        · exact fun other member => (within.bounds member).2
        · exact fun other member => (later.bounds member).2.1
        · intro other head
          exact Nat.le_of_eq ((later.head_level other head).trans level.symm)
      · have inside : below ++ rest = before ++ outer :: tail := (List.cons.inj stands).2
        rcases List.append_eq_append_iff.mp inside with ⟨middle, _, here⟩ | ⟨middle, here, there⟩
        · exact laterInduction here
        · rcases middle with _ | ⟨head, middle⟩
          · have first : rest = [] ++ outer :: tail := by simpa using there.symm
            exact laterInduction first
          · obtain ⟨rfl, rfl⟩ := List.cons.inj there
            rcases withinInduction here with ⟨inner, behind, split⟩
            have member : outer ∈ below := by simp [here]
            have bounded := within.bounds member
            have tail : middle ++ rest = inner ++ (behind ++ rest) := by
              rw [split.tail, List.append_assoc]
            refine ⟨inner, behind ++ rest, tail, split.deeper, split.within, ?_, ?_⟩
            · intro other member
              rcases List.mem_append.mp member with member | member
              · exact split.after other member
              · have later := later.bounds member
                omega
            · intro other head
              cases behind with
              | nil =>
                  have level := later.head_level other head
                  omega
              | cons => exact split.leaves other head

theorem offsets_increase (nests : Nests depth since upto spans) :
    spans.Pairwise fun earlier later => earlier.offset ≤ later.offset := by
  induction nests with
  | nothing => exact .nil
  | tree level begins within later withinInduction laterInduction =>
      have spanOrder := within.order
      refine .cons ?_ (List.pairwise_append.mpr ⟨withinInduction, laterInduction, ?_⟩)
      · intro other member
        rcases List.mem_append.mp member with member | member
        · exact (within.bounds member).2.1
        · have bounded := later.bounds member
          omega
      · intro inner member other behind
        have innerBounds := within.bounds member
        have otherBounds := later.bounds behind
        have order : inner.offset ≤ inner.finish := Nat.le_add_right _ _
        omega

section Pairs

variable {before between after : List SpanRecord} {outer inner : SpanRecord}

theorem within_of_above (nests : Nests depth since upto spans)
    (stands : spans = before ++ outer :: (between ++ inner :: after))
    (above : outer.IsAbove between inner) :
    outer.offset ≤ inner.offset ∧ inner.finish ≤ outer.finish := by
  rcases nests.splits stands with ⟨deeper, rest, split⟩
  rcases split.cases_tail with inside | ⟨_, first, member, head⟩
  · exact split.within inner (inside inner (by simp))
  · have leaves := split.leaves first head
    have deep := above first member
    omega

theorem apart_of_not_above (nests : Nests depth since upto spans)
    (stands : spans = before ++ outer :: (between ++ inner :: after))
    (apart : ¬ outer.IsAbove between inner) : outer.finish ≤ inner.offset := by
  rcases nests.splits stands with ⟨deeper, rest, split⟩
  rcases split.cases_tail with inside | ⟨behind, _⟩
  · exact (apart fun span member => split.deeper span (inside span member)).elim
  · exact split.after inner behind

end Pairs

end Nests

/-- The spans of a trace are properly nested intervals within it: those below a span lie
within it, and others that were entered later begin when it has ended. -/
structure CompletedTrace.NestsProperly (trace : CompletedTrace) : Prop where
  ordered : trace.spans.Pairwise fun earlier later => earlier.offset ≤ later.offset
  within : ∀ span ∈ trace.spans, span.finish ≤ trace.duration
  below : ∀ before outer between inner after,
    trace.spans = before ++ outer :: (between ++ inner :: after) →
      outer.IsAbove between inner → outer.offset ≤ inner.offset ∧ inner.finish ≤ outer.finish
  apart : ∀ before outer between inner after,
    trace.spans = before ++ outer :: (between ++ inner :: after) →
      ¬ outer.IsAbove between inner → outer.finish ≤ inner.offset

theorem Nests.properly {trace : CompletedTrace} (nests : Nests 0 0 trace.duration trace.spans) :
    trace.NestsProperly where
  ordered := nests.offsets_increase
  within _ member := (nests.bounds member).2.2
  below _ _ _ _ _ stands above := nests.within_of_above stands above
  apart _ _ _ _ _ stands apart := nests.apart_of_not_above stands apart

end Instrumentation
