import Instrumentation.Collector.View
import Instrumentation.Proofs.Collector.Nesting

namespace Instrumentation.Threads

/-! The traces that are open mirror the calls that threads are in. A thread has a trace
exactly while it is in the call that opened it, and what the collector does when a call
ends always finds what it has to end. -/

/-! ## What every step keeps -/

inductive Agrees (limit : Nat) : Option OpenTrace → Option Place → Prop
  | untraced : Agrees limit none none
  | traced (trace : OpenTrace) (place : Place) (mirrors : Mirrors limit trace place) :
      Agrees limit (some trace) (some place)

def Next.Fits (next : Next) (place : Option Place) : Prop :=
  match next with
  | .nesting _ _ => place.isSome
  | .running | .keeping _ => True

def Mirrored (collector : Collector) (thread : ThreadId) (activity : Activity) : Prop :=
  ∃ place, Nested activity.frames place ∧
    Agrees collector.config.maxTraceAttributes.toNat (collector.activeOn thread) place ∧
    activity.next.Fits place

structure ActsOn (collector : Collector) (thread : ThreadId) (later : Collector) : Prop where
  config : later.config = collector.config
  others : ∀ other, other ≠ thread → later.activeOn other = collector.activeOn other

namespace ActsOn

variable (collector : Collector) (thread : ThreadId)

theorem nothing : ActsOn collector thread collector :=
  ⟨rfl, fun _ _ => rfl⟩

theorem setActive (trace : Option OpenTrace) :
    ActsOn collector thread (collector.setActive thread trace) :=
  ⟨rfl, fun _ different => collector.activeOn_setActive_other different trace⟩

theorem enterSpan (metric : String) (detail : Detail) (start : UInt64) :
    ActsOn collector thread (collector.enterSpan thread metric detail start).2 := by
  rw [Collector.enterSpan]
  split
  · exact nothing collector thread
  · exact setActive collector thread _

theorem leaveSpan (slot duration : Nat) (outcome : Outcome) :
    ActsOn collector thread (collector.leaveSpan thread slot duration outcome) := by
  rw [Collector.leaveSpan]
  split
  · exact nothing collector thread
  · exact setActive collector thread _

theorem putAttribute (name value : String) :
    ActsOn collector thread (collector.putAttribute thread name value).2 := by
  rw [Collector.putAttribute]
  split
  · exact nothing collector thread
  · split
    · exact setActive collector thread _
    · exact nothing collector thread

end ActsOn

namespace Activity.Moves

variable {collector later : Collector} {thread : ThreadId} {activity next : Activity}

theorem actsOn (moves : activity.Moves collector thread later next) :
    ActsOn collector thread later := by
  cases moves with
  | refused | samples | sampled | leavesUntraced => exact .nothing collector thread
  | keeps | drains => exact ⟨rfl, fun _ _ => rfl⟩
  | opens _ _ _ _ _ opens =>
      rw [(Collector.openTrace_eq_some opens).2]
      exact .setActive collector thread _
  | enters _ metric detail start _ _ enters | nests _ metric detail start _ _ enters =>
      have acts := ActsOn.enterSpan collector thread metric detail start
      rwa [enters] at acts
  | leaves => exact .leaveSpan collector thread _ _ _
  | closes _ _ _ _ _ _ closes =>
      cases closes
      exact .setActive collector thread none
  | puts => exact .putAttribute collector thread _ _

/-- Entering a span comes to a slot of its own exactly where a trace is open. -/
theorem mirrored_enterSpan {frames : List Frame} {place : Option Place}
    (nested : Nested frames place)
    (agrees : Agrees collector.config.maxTraceAttributes.toNat (collector.activeOn thread) place)
    {nestedRoot : Option Detail} (fits : nestedRoot.isSome → place.isSome)
    {metric : String} {detail : Detail} {start : UInt64} {slot : Option Nat}
    (enters : collector.enterSpan thread metric detail start = (slot, later)) :
    Mirrored later thread { frames := .span nestedRoot slot :: frames } := by
  rw [Collector.enterSpan] at enters
  generalize active : collector.activeOn thread = entry at agrees enters
  cases agrees with
  | untraced =>
      cases enters
      cases nestedRoot with
      | none =>
          refine ⟨none, .untraced frames nested, ?_, trivial⟩
          rw [active]
          exact .untraced
      | some detail => cases fits rfl
  | traced trace place mirrors =>
      cases enters
      refine ⟨_, .entered frames place nestedRoot trace.nextSlot nested ?_, ?_, trivial⟩
      · exact fun other member => mirrors.below other member
      · rw [Collector.activeOn_setActive]
        exact .traced _ _ (mirrors.enterSpan metric detail start)

theorem mirrored_leaveSpan {frames : List Frame} {place : Option Place}
    {nestedRoot : Option Detail} {slot : Nat}
    (nested : Nested (.span nestedRoot (some slot) :: frames) place)
    (agrees : Agrees collector.config.maxTraceAttributes.toNat (collector.activeOn thread) place)
    (duration : Nat) (outcome : Outcome) :
    Mirrored (collector.leaveSpan thread slot duration outcome) thread { frames } := by
  have config : (collector.leaveSpan thread slot duration outcome).config = collector.config :=
    (ActsOn.leaveSpan collector thread slot duration outcome).config
  cases nested with
  | entered _ place _ _ nested =>
      refine ⟨some place, nested, ?_, trivial⟩
      rw [config, Collector.leaveSpan]
      generalize collector.activeOn thread = entry at agrees
      cases agrees with
      | traced trace _ mirrors =>
          dsimp only
          rw [Collector.activeOn_setActive]
          exact .traced _ place (mirrors.leaveSpan duration outcome)

theorem mirrored_putAttribute {frames : List Frame} {place : Option Place}
    (nested : Nested frames place)
    (agrees : Agrees collector.config.maxTraceAttributes.toNat (collector.activeOn thread) place)
    (name value : String) :
    Mirrored (collector.putAttribute thread name value).2 thread { frames } := by
  have config : (collector.putAttribute thread name value).2.config = collector.config :=
    (ActsOn.putAttribute collector thread name value).config
  refine ⟨place, nested, ?_, trivial⟩
  rw [config, Collector.putAttribute]
  generalize active : collector.activeOn thread = entry at agrees
  cases agrees with
  | untraced =>
      rw [active]
      exact .untraced
  | traced trace place mirrors =>
      dsimp only
      split
      · next room =>
          rw [Collector.activeOn_setActive]
          exact .traced _ place (mirrors.putAttribute room name value)
      · rw [active]
        exact .traced trace place mirrors

theorem mirrored (moves : activity.Moves collector thread later next)
    (mirrored : Mirrored collector thread activity) : Mirrored later thread next := by
  rcases mirrored with ⟨place, nested, agrees, fits⟩
  cases moves with
  | opens frames number start opening _ opens =>
      rcases Collector.openTrace_eq_some opens with ⟨active, rfl⟩
      rw [active] at agrees
      cases agrees
      refine ⟨_, .opened frames opening nested, ?_, trivial⟩
      rw [Collector.activeOn_setActive]
      exact .traced _ _ (.opens number start opening)
  | refused frames _ _ _ refused =>
      refine ⟨place, nested, agrees, ?_⟩
      have found := Collector.openTrace_eq_none refused
      generalize collector.activeOn thread = entry at agrees found
      cases agrees with
      | untraced => cases found
      | traced => rfl
  | enters frames _ _ _ _ _ enters =>
      have fits : (none : Option Detail).isSome → place.isSome := nofun
      exact mirrored_enterSpan nested agrees fits enters
  | nests frames _ _ _ _ _ enters =>
      exact mirrored_enterSpan nested agrees (fun _ => fits) enters
  | samples frames => exact ⟨place, .sampled frames place nested, agrees, trivial⟩
  | sampled frames =>
      cases nested with
      | sampled _ _ nested => exact ⟨place, nested, agrees, trivial⟩
  | leaves frames nestedRoot slot duration outcome =>
      exact mirrored_leaveSpan nested agrees duration outcome
  | leavesUntraced frames nestedRoot =>
      cases nested with
      | untraced _ nested => exact ⟨none, nested, agrees, trivial⟩
  | closes frames opening duration outcome closed _ closes =>
      cases nested with
      | opened _ _ nested =>
          cases closes
          refine ⟨none, nested, ?_, ?_⟩
          · rw [Collector.activeOn_setActive]
            exact .untraced
          · cases collector.activeOn thread <;> trivial
  | keeps frames => exact ⟨place, nested, agrees, trivial⟩
  | puts frames name value => exact mirrored_putAttribute nested agrees name value
  | drains frames => exact ⟨place, nested, agrees, trivial⟩

end Activity.Moves

theorem mirrored_of_becomes {config : EngineConfig} {clock : Key Clock} {scene : Scene}
    (reached : (Scene.opening config clock).Becomes scene) (thread : ThreadId) :
    Mirrored scene.collector thread (scene.threads thread) := by
  induction reached generalizing thread with
  | refl => exact ⟨none, .nothing, .untraced, trivial⟩
  | tail _ step induction =>
      cases step with
      | moves mover later next moves =>
          by_cases same : thread = mover
          · subst thread
            rw [Scene.threads_after_same]
            exact moves.mirrored (induction mover)
          · -- Another thread keeps its calls, and the collector what it has for it.
            have acts := moves.actsOn
            rcases induction thread with ⟨place, nested, agrees, fits⟩
            rw [Scene.threads_after_other _ _ _ _ same]
            refine ⟨place, nested, ?_, fits⟩
            rw [Scene.after, acts.config, acts.others thread same]
            exact agrees

theorem config_of_becomes {config : EngineConfig} {clock : Key Clock} {scene : Scene}
    (reached : (Scene.opening config clock).Becomes scene) : scene.collector.config = config := by
  induction reached with
  | refl => rfl
  | tail _ step induction =>
      cases step with
      | moves _ _ _ moves => exact moves.actsOn.config.trans induction

/-! ## Main statement -/

structure BelongsTo (limit : Nat) (trace : OpenTrace) (opening : Opening)
    (inner : List Frame) : Prop where
  plugin : trace.plugin = opening.plugin
  metric : trace.metric = opening.metric
  detail : trace.detail = opening.detail
  depth : trace.depth = inner.countP Frame.isSpan
  slots : ∀ frame ∈ inner, frame.isSpan = true → frame.slot?.isSome
  increase : (inner.reverse.filterMap Frame.slot?).Pairwise (· < ·)
  below : ∀ slot ∈ inner.filterMap Frame.slot?, slot < trace.spans.length
  attributes : trace.attributes.length ≤ limit

theorem Mirrors.belongsTo {limit : Nat} {trace : OpenTrace} {place : Place}
    (mirrors : Mirrors limit trace place) {frames inner : List Frame}
    (nested : Nested frames (some place)) (within : ∀ frame ∈ inner, frame.IsWithin)
    (slots : inner.filterMap Frame.slot? = place.slots) :
    BelongsTo limit trace place.opening inner where
  plugin := mirrors.plugin
  metric := mirrors.metric
  detail := mirrors.detail
  depth := by rw [mirrors.depth, Frame.countP_isSpan within, slots]
  slots := by
    intro frame member span
    have here := within frame member
    cases frame with
    | span nestedRoot slot => exact here
    | root | sample => cases span
  increase := by
    rw [List.filterMap_reverse, slots, List.pairwise_reverse]
    exact nested.slots_decrease
  below := by
    rw [slots]
    exact mirrors.below
  attributes := mirrors.attributes

namespace Agrees

variable {limit : Nat} {entry : Option OpenTrace} {frames rest : List Frame}
  {place : Option Place}

theorem isSome_iff (agrees : Agrees limit entry place) (nested : Nested frames place) :
    entry.isSome = true ↔ ∃ opening, .root opening ∈ frames := by
  cases agrees with
  | untraced =>
      refine ⟨nofun, ?_⟩
      rintro ⟨opening, member⟩
      exact absurd rfl ((nested.outside _ member).not_root opening)
  | traced trace place =>
      rcases nested.split with ⟨inner, outer, rfl, _⟩
      exact ⟨fun _ => ⟨place.opening, List.mem_append_right _ (.head outer)⟩, fun _ => rfl⟩

theorem belongsTo {trace : OpenTrace} (agrees : Agrees limit (some trace) place)
    (nested : Nested frames place) :
    ∃ inner opening outer, frames = inner ++ .root opening :: outer ∧
      (∀ other, .root other ∉ inner ++ outer) ∧ BelongsTo limit trace opening inner := by
  cases agrees with
  | traced _ place mirrors =>
      rcases nested.split with ⟨inner, outer, same, within, outside, slots⟩
      refine ⟨inner, place.opening, outer, same, ?_, mirrors.belongsTo nested within slots⟩
      intro other member
      rcases List.mem_append.mp member with member | member
      · exact (within _ member).not_root other rfl
      · exact (outside _ member).not_root other rfl

theorem detail_eq (agrees : Agrees limit entry place) (nested : Nested frames place) :
    entry.map OpenTrace.detail = outermostRoot frames := by
  rw [nested.outermostRoot_eq]
  cases agrees with
  | untraced => rfl
  | traced trace place mirrors => exact congrArg some mirrors.detail

theorem at_root {opening : Opening} (agrees : Agrees limit entry place)
    (nested : Nested (.root opening :: rest) place) :
    ∃ trace, entry = some trace ∧ trace.depth = 0 := by
  cases nested with
  | opened =>
      cases agrees with
      | traced trace _ mirrors => exact ⟨trace, rfl, mirrors.depth⟩

theorem at_span {nestedRoot : Option Detail} {slot : Nat} (agrees : Agrees limit entry place)
    (nested : Nested (.span nestedRoot (some slot) :: rest) place) :
    ∃ trace, entry = some trace ∧ slot < trace.spans.length ∧ 0 < trace.depth := by
  cases nested with
  | entered _ place =>
      cases agrees with
      | traced trace _ mirrors =>
          refine ⟨trace, rfl, mirrors.below slot (.head _), ?_⟩
          rw [mirrors.depth]
          exact Nat.succ_pos _

end Agrees

/-- In every scene that threads can come to, whatever they call and however their works
end: a trace is open on a thread exactly while it is in the call that opened it, and what
is closed at the end of the innermost call is there. -/
theorem open_traces_mirror_open_calls {config : EngineConfig} {clock : Key Clock}
    {scene : Scene} (reached : (Scene.opening config clock).Becomes scene)
    (thread : ThreadId) :
    let frames := (scene.threads thread).frames
    let entry := scene.collector.activeOn thread
    (entry.isSome = true ↔ ∃ opening, .root opening ∈ frames) ∧
      (∀ trace, entry = some trace → ∃ inner opening outer,
        frames = inner ++ .root opening :: outer ∧ (∀ other, .root other ∉ inner ++ outer) ∧
          BelongsTo config.maxTraceAttributes.toNat trace opening inner) ∧
      (∀ (Host : Type) (view : CollectorView) (world : World Host),
        world.collectors.get view.collector = scene.collector → world.thread = thread →
        view.methods.rootSpanDetail world = (.ok (.ok (outermostRoot frames)), world)) ∧
      (∀ opening rest, frames = .root opening :: rest →
        ∃ trace, entry = some trace ∧ trace.depth = 0) ∧
      ∀ nestedRoot slot rest, frames = .span nestedRoot (some slot) :: rest →
        ∃ trace, entry = some trace ∧ slot < trace.spans.length ∧ 0 < trace.depth := by
  intro frames entry
  rcases mirrored_of_becomes reached thread with ⟨place, nested, agrees, _⟩
  rw [config_of_becomes reached] at agrees
  refine ⟨agrees.isSome_iff nested, ?_, ?_, ?_, ?_⟩
  · intro trace active
    have agrees : Agrees config.maxTraceAttributes.toNat (some trace) place := active ▸ agrees
    exact agrees.belongsTo nested
  · intro Host view world sameCollector sameThread
    have answers : view.methods.rootSpanDetail world =
        (.ok (.ok ((world.collectors.get view.collector).rootDetail world.thread)), world) := rfl
    rw [answers, sameCollector, sameThread, Collector.rootDetail, agrees.detail_eq nested]
  · intro opening rest innermost
    have nested : Nested (.root opening :: rest) place := innermost ▸ nested
    exact agrees.at_root nested
  · intro nestedRoot slot rest innermost
    have nested : Nested (.span nestedRoot (some slot) :: rest) place := innermost ▸ nested
    exact agrees.at_span nested

def page : Opening :=
  ⟨default, "request", { description := "page" }⟩

/-- A root span nested in a span of an open trace, while another thread is in a span
without a trace. -/
theorem nesting_is_reached :
    ∃ scene, (Scene.opening {} ⟨0⟩).Becomes scene ∧
      (scene.threads ⟨0⟩).frames =
        [.span (some { description := "part" }) (some 1), .span none (some 0), .root page] ∧
      (scene.threads ⟨1⟩).frames = [.span none none] := by
  refine ⟨_, .head (.moves ⟨0⟩ _ _ (.opens [] 0 5 page _ rfl)) <|
    .head (.moves ⟨1⟩ _ _ (.enters [] "query" { description := "rows" } 6 _ _ rfl)) <|
    .head (.moves ⟨0⟩ _ _ (.enters [.root page] "query" { description := "rows" } 7 _ _ rfl)) <|
    .head (.moves ⟨0⟩ _ _ (.refused [.span none (some 0), .root page] 1 8
      ⟨default, "request", { description := "part" }⟩ rfl)) <|
    .single (.moves ⟨0⟩ _ _ (.nests [.span none (some 0), .root page] "request"
      { description := "part" } 8 _ _ rfl)), rfl, rfl⟩

/-- There the first thread has a trace with both spans, and every view answers with the
outermost root span; the second thread has no trace. -/
theorem nesting_is_mirrored :
    ∃ scene, (Scene.opening {} ⟨0⟩).Becomes scene ∧
      (scene.collector.activeOn ⟨1⟩).isSome = false ∧
      (∃ trace, scene.collector.activeOn ⟨0⟩ = some trace ∧
        1 < trace.spans.length ∧ 0 < trace.depth) ∧
      ∀ (view : CollectorView) (world : World Unit),
        world.collectors.get view.collector = scene.collector → world.thread = ⟨0⟩ →
        view.methods.rootSpanDetail world =
          (.ok (.ok (some { description := "page" })), world) := by
  rcases nesting_is_reached with ⟨scene, reached, first, second⟩
  have ⟨_, _, asked, _, atSpan⟩ := open_traces_mirror_open_calls reached ⟨0⟩
  have ⟨traced, _⟩ := open_traces_mirror_open_calls reached ⟨1⟩
  refine ⟨scene, reached, ?_, atSpan _ _ _ first, ?_⟩
  · rw [← Bool.not_eq_true, traced, second]
    rintro ⟨opening, member⟩
    cases List.mem_singleton.mp member
  · intro view world sameCollector sameThread
    rw [asked Unit view world sameCollector sameThread, first]
    rfl

end Instrumentation.Threads
