import Instrumentation.Proofs.Leads
import Instrumentation.Proofs.Recorder.Exercises
import Mathlib.Data.List.Infix

namespace Instrumentation

/-! What a recorder answers when it is asked for the detail of the current trace. It has one
place for the detail, which the call of a root span fills when it is entered and clears when
it returns. So the answer is the detail of the root span that was entered last, until any root
span returns; one that is unwound through clears nothing. Hence, where root spans are neither
nested nor unwound through, the answer is what was said about the root span that is open, and
where they are it need not be. -/

variable {Host Fault Value : Type}

namespace Recorder

def Shows (recorder : Key Recorder) (world : World Host) (detail : Option Detail) : Prop :=
  ((methods recorder).rootSpanDetail world).1 = .ok (.ok detail)

theorem shows_iff {recorder : Key Recorder} {world : World Host} {detail : Option Detail} :
    Shows recorder world detail ↔ (world.recorders.get recorder).rootDetail = detail := by
  have noted := world.changing_get recorder (·.note .rootSpanDetail)
  have answer : ((methods recorder).rootSpanDetail world).1 = .ok (.ok
      ((world.changing recorder (·.note .rootSpanDetail)).recorders.get recorder).rootDetail) :=
    rfl
  rw [Shows, answer, noted, Except.ok.injEq, Except.ok.injEq]
  rfl

end Recorder

namespace Exercise

variable {recorder : Key Recorder} {serving : Key PluginServices → Prop}

/-! ## What is shown -/

/-- The detail that is shown when a mark is taken, if this was shown at the mark before. -/
def nowShown (skips : Bool) (shown : Option Detail) (mark : Mark Host Fault Value) :
    Option Detail :=
  match mark.deed with
  | .working _ call => if skips then call.shownAfter shown else call.shownWithin shown
  | .called _ call _ (.ok none) => call.shownAfter shown
  | .called _ call _ (.ok (some _)) => if skips then shown else call.shownAfter shown
  | .called _ _ _ (.error _) | .acted | .asked _ _ | .reset | .calling _ _ => shown

def lastShown (skips : Bool) (opening : Option Detail) (journal : List (Mark Host Fault Value)) :
    Option Detail :=
  journal.foldl (nowShown skips) opening

/-- The answer is what was said about the innermost root span that is open, and when a root
span is over it is what it was just before. -/
structure Scoped (recorder : Key Recorder) (mark : Mark Host Fault Value) : Prop where
  shown : Recorder.Shows recorder mark.world mark.roots.head?
  restored : ∀ metric detail made ending,
    mark.deed = .called metric (.rootSpan detail) made ending →
    ∀ before, Recorder.Shows recorder made before → Recorder.Shows recorder mark.world before

/-- The program is in no more than one root span, and has not just been unwound through
one. -/
structure Mark.IsPlain (mark : Mark Host Fault Value) : Prop where
  single : mark.roots.length ≤ 1
  returned : ∀ metric detail made payload,
    mark.deed ≠ .called metric (.rootSpan detail) made (.error payload)

structure Law (recorder : Key Recorder) (skips : Bool) (opening : Option Detail)
    (before : List (Mark Host Fault Value)) (mark : Mark Host Fault Value) : Prop where
  shows : Recorder.Shows recorder mark.world (lastShown skips opening (before ++ [mark]))
  scopes : opening = none → (∀ earlier ∈ before ++ [mark], earlier.IsPlain) →
    Scoped recorder mark

theorem Scoped.of_shown {roots : List Detail} {deed : Deed Host Fault Value}
    {world : World Host} (shown : (world.recorders.get recorder).rootDetail = roots.head?)
    (restored : ∀ metric detail made ending,
      deed = .called metric (.rootSpan detail) made ending →
      (made.recorders.get recorder).rootDetail = roots.head?) :
    Scoped recorder ⟨deed, roots, world⟩ where
  shown := Recorder.shows_iff.2 shown
  restored metric detail made ending ends before showed := by
    have same := restored metric detail made ending ends
    rw [Recorder.shows_iff, same] at showed
    exact Recorder.shows_iff.2 (shown.trans showed)

/-! ## Steps -/

structure Kept (recorder : Key Recorder) (serving : Key PluginServices → Prop)
    (before after : World (Marked Host Fault Value)) : Prop where
  skips : (after.recorders.get recorder).skipsProceed =
    (before.recorders.get recorder).skipsProceed
  engines : ∀ key, serving key →
    (after.services.get key).engine = (before.services.get key).engine
  notes : after.notes = before.notes

structure Unmoved (recorder : Key Recorder) (serving : Key PluginServices → Prop)
    (before after : World (Marked Host Fault Value)) : Prop
    extends Kept recorder serving before after where
  detail : (after.recorders.get recorder).rootDetail =
    (before.recorders.get recorder).rootDetail

namespace Kept

theorem refl (world : World (Marked Host Fault Value)) : Kept recorder serving world world :=
  ⟨rfl, fun _ _ => rfl, rfl⟩

theorem changing (world : World (Marked Host Fault Value)) {change : Recorder → Recorder}
    (skips : ∀ state, (change state).skipsProceed = state.skipsProceed) :
    Kept recorder serving world (world.changing recorder change) where
  skips := by rw [world.changing_get, skips]
  engines _ _ := rfl
  notes := rfl

theorem left (metric : Metric) (call : Call) (outcome : Outcome)
    (made worked : World (Marked Host Fault Value)) :
    Kept recorder serving worked (Route.left recorder metric call outcome made worked) where
  skips := by rw [Route.left, World.changing_get]; rfl
  engines _ _ := rfl
  notes := rfl

end Kept

namespace Unmoved

instance : IsPreorder (World (Marked Host Fault Value)) (Unmoved recorder serving) where
  refl _ := ⟨⟨rfl, fun _ _ => rfl, rfl⟩, rfl⟩
  trans _ _ _ first second :=
    ⟨⟨second.skips.trans first.skips,
      fun key serves => (second.engines key serves).trans (first.engines key serves),
      second.notes.trans first.notes⟩, second.detail.trans first.detail⟩

theorem changing (world : World (Marked Host Fault Value)) {change : Recorder → Recorder}
    (detail : ∀ state, (change state).rootDetail = state.rootDetail)
    (skips : ∀ state, (change state).skipsProceed = state.skipsProceed) :
    Unmoved recorder serving world (world.changing recorder change) where
  toKept := .changing world skips
  detail := by rw [world.changing_get, detail]

theorem updated {change : Recorder → Recorder}
    (detail : ∀ state, (change state).rootDetail = state.rootDetail)
    (skips : ∀ state, (change state).skipsProceed = state.skipsProceed) :
    Leads (Unmoved recorder serving) Returns
      (Recorder.update recorder change : Program (Marked Host Fault Value) Unit) :=
  .modify fun world => .changing world detail skips

theorem asked (question : Facade.Question) :
    Leads (Unmoved recorder serving) Returns
      (question.onEngine (Recorder.methods recorder) :
        Program (Marked Host Fault Value) question.Answer) := by
  have noted (call : EngineCall) :
      Leads (Unmoved recorder serving) Returns
        (Recorder.noteCall recorder call : Program (Marked Host Fault Value) Unit) :=
    updated (fun _ => rfl) fun _ => rfl
  cases question with
  | createMetric name =>
      have created : Leads (Unmoved recorder serving) Returns
          (MetricStats.create : Program (Marked Host Fault Value) (Key MetricStats)) :=
        fun _ => ⟨trivial, ⟨rfl, fun _ _ => rfl, rfl⟩, rfl⟩
      have kept (stats : Key MetricStats) :
          Leads (Unmoved recorder serving) Returns (Recorder.update recorder fun state =>
            { state with metrics := state.metrics.insert name stats } :
              Program (Marked Host Fault Value) Unit) :=
        updated (fun _ => rfl) fun _ => rfl
      refine (noted _).bind fun _ _ => ?_
      refine (Leads.look (·.recorders.get recorder)).bind fun state _ => ?_
      cases Dict.find? state.metrics name with
      | some stats => exact .pure trivial
      | none =>
          refine created.bind fun stats _ => (kept stats).bind fun _ _ => ?_
          exact .pure trivial
  | isEnabled => exact (noted _).bind fun _ _ => .look _
  | stringProperty name => exact (noted _).bind fun _ _ => .look _
  | booleanProperty name => exact (noted _).bind fun _ _ => .look _
  | doubleProperty name => exact (noted _).bind fun _ _ => .look _
  | putTraceAttribute name value =>
      refine (noted _).bind fun _ _ => ?_
      exact .pure trivial
  | rootSpanDetail => exact (noted _).bind fun _ _ => .look _

end Unmoved

/-! ## Marks -/

def marked (roots : List Detail) (deed : Deed Host Fault Value)
    (world : World (Marked Host Fault Value)) : World (Marked Host Fault Value) :=
  world.plain.noting (world.notes ++ [{ deed, roots, world := world.plain }])

theorem mark_apply (roots : List Detail) (deed : Deed Host Fault Value)
    (world : World (Marked Host Fault Value)) :
    mark roots deed world = (.ok (), marked roots deed world) := rfl

theorem marked_grows (roots : List Detail) (deed : Deed Host Fault Value)
    (world : World (Marked Host Fault Value)) :
    world.notes <+: (marked roots deed world).notes :=
  List.prefix_append _ _

def Deed.IsQuiet : Deed Host Fault Value → Prop
  | acted | asked _ _ | reset | calling _ _ => True
  | working _ _ | called _ _ _ _ => False

structure Sound (recorder : Key Recorder) (serving : Key PluginServices → Prop) (skips : Bool)
    (opening : Option Detail) (roots : List Detail)
    (world : World (Marked Host Fault Value)) : Prop where
  served : Recorder.IsServedBy recorder serving world
  skipping : (world.recorders.get recorder).skipsProceed = skips
  shown : (world.recorders.get recorder).rootDetail = lastShown skips opening world.notes
  lawful : ∀ before mark, before ++ [mark] <+: world.notes →
    Law recorder skips opening before mark
  outside : skips = true → roots = []
  scopes : opening = none → (∀ mark ∈ world.notes, mark.IsPlain) →
    roots.length ≤ 1 ∧ (world.recorders.get recorder).rootDetail = roots.head?

def Keeps {Result : Type} (recorder : Key Recorder) (serving : Key PluginServices → Prop)
    (skips : Bool) (opening : Option Detail) (roots : List Detail)
    (program : Program (Marked Host Fault Value) Result) : Prop :=
  ∀ world, Sound recorder serving skips opening roots world →
    Sound recorder serving skips opening roots (program world).2 ∧
      world.notes <+: (program world).2.notes

namespace Sound

variable {skips : Bool} {opening : Option Detail} {roots inner : List Detail}
  {deed : Deed Host Fault Value} {earlier world : World (Marked Host Fault Value)}

theorem plainly (sound : Sound recorder serving skips opening roots earlier)
    (fresh : opening = none) (grown : earlier.notes <+: world.notes)
    {new : Mark Host Fault Value} (plain : ∀ mark ∈ world.notes ++ [new], mark.IsPlain) :
    roots.length ≤ 1 ∧ (earlier.recorders.get recorder).rootDetail = roots.head? := by
  refine sound.scopes fresh fun mark member => ?_
  exact plain mark (List.mem_append_left _ (grown.subset member))

/-- A new mark is lawful if the recorder did to the detail what belongs to the deed. -/
theorem marked (sound : Sound recorder serving skips opening roots earlier)
    (kept : Kept recorder serving earlier world)
    (shown : (world.recorders.get recorder).rootDetail =
      nowShown skips (earlier.recorders.get recorder).rootDetail ⟨deed, inner, world.plain⟩)
    (outside : skips = true → inner = [])
    (scopes : opening = none →
      (∀ mark ∈ world.notes ++ [⟨deed, inner, world.plain⟩], mark.IsPlain) →
      Scoped recorder ⟨deed, inner, world.plain⟩) :
    Sound recorder serving skips opening inner (marked inner deed world) := by
  have last : (world.recorders.get recorder).rootDetail =
      lastShown skips opening (world.notes ++ [⟨deed, inner, world.plain⟩]) := by
    rw [shown, sound.shown, kept.notes, lastShown, lastShown, List.foldl_append]
    rfl
  constructor
  · exact fun key serves => (kept.engines key serves).trans (sound.served key serves)
  · exact kept.skips.trans sound.skipping
  · exact last
  · intro before mark within
    rcases List.prefix_concat_iff.1 within with same | within
    · rcases List.append_inj' same rfl with ⟨rfl, newest⟩
      cases newest
      exact ⟨Recorder.shows_iff.2 last, scopes⟩
    · rw [kept.notes] at within
      exact sound.lawful before mark within
  · exact outside
  · intro fresh plain
    have newest := scopes fresh plain
    exact ⟨(plain _ List.mem_concat_self).single, Recorder.shows_iff.1 newest.shown⟩

theorem quietly (sound : Sound recorder serving skips opening roots earlier)
    (unmoved : Unmoved recorder serving earlier world) (quiet : deed.IsQuiet) :
    Sound recorder serving skips opening roots (Exercise.marked roots deed world) := by
  refine sound.marked unmoved.toKept ?_ sound.outside fun fresh plain => ?_
  · rw [unmoved.detail]
    cases deed <;> first | rfl | cases quiet
  · have grown : earlier.notes <+: world.notes := by rw [unmoved.notes]
    refine .of_shown (unmoved.detail.trans (sound.plainly fresh grown plain).2) ?_
    rintro metric detail made ending rfl
    cases quiet

theorem goesOn {Result : Type} {program : Program (Marked Host Fault Value) Result}
    (sound : Sound recorder serving skips opening roots earlier)
    (unmoved : Unmoved recorder serving earlier world) (quiet : deed.IsQuiet)
    (keeps : Keeps recorder serving skips opening roots program) :
    let later := (program (Exercise.marked roots deed world)).2
    Sound recorder serving skips opening roots later ∧ earlier.notes <+: later.notes := by
  have ⟨ended, further⟩ := keeps _ (sound.quietly unmoved quiet)
  have grown := (marked_grows roots deed world).trans further
  rw [unmoved.notes] at grown
  exact ⟨ended, grown⟩

end Sound

/-! ## Calls -/

@[simp] theorem rootsWithin_of_skips (call : Call) (roots : List Detail) :
    rootsWithin true call roots = roots := by
  cases call <;> rfl

theorem shownWithin_head (call : Call) (roots : List Detail) :
    call.shownWithin roots.head? = (rootsWithin false call roots).head? := by
  cases call <;> rfl

theorem shownAfter_head {call : Call} {roots : List Detail}
    (single : (rootsWithin false call roots).length ≤ 1) :
    call.shownAfter (rootsWithin false call roots).head? = roots.head? := by
  cases call with
  | rootSpan detail =>
      have empty := List.length_eq_zero_iff.1 (Nat.le_zero.1 (Nat.le_of_succ_le_succ single))
      rw [empty]
      rfl
  | span | tryRecord | record => rfl

theorem detail_entered (recorder : Key Recorder) (metric : Metric) (call : Call)
    (world : World Host) :
    ((world.changing recorder (Recorder.entered metric call)).recorders.get
      recorder).rootDetail = call.shownWithin (world.recorders.get recorder).rootDetail := by
  rw [World.changing_get]
  rfl

theorem detail_skipped (recorder : Key Recorder) (metric : Metric) (call : Call)
    (world : World Host) :
    ((world.changing recorder (Recorder.skipped metric call)).recorders.get
      recorder).rootDetail = call.shownAfter (world.recorders.get recorder).rootDetail := by
  rw [World.changing_get]
  rfl

theorem detail_left (metric : Metric) (call : Call) (outcome : Outcome)
    (made worked : World Host) :
    ((Route.left recorder metric call outcome made worked).recorders.get recorder).rootDetail =
      call.shownAfter (worked.recorders.get recorder).rootDetail := by
  rw [Route.left, World.changing_get]
  rfl

section Calls

variable [HostEngines (Marked Host Fault Value)] {skips : Bool} {opening : Option Detail}
  {roots : List Detail} {world : World (Marked Host Fault Value)} (describe : Fault → String)
  (route : Route Fault Value serving) (metric : Metric) (call : Call)
  {work : List Detail → Program (Marked Host Fault Value) (Except Fault Value)}

theorem handed_of_proceeds (made : Sound recorder serving false opening roots world)
    (works : ∀ inner, Keeps recorder serving false opening inner (work inner)) :
    let (ending, later) := handed describe recorder route metric call work
      (rootsWithin false call roots) world
    Sound recorder serving false opening roots
      (marked roots (.called metric call world.plain ending) later) ∧
      world.notes <+: later.notes := by
  have entered : Sound recorder serving false opening (rootsWithin false call roots)
      (marked (rootsWithin false call roots) (.working metric call)
        (world.changing recorder (Recorder.entered metric call))) := by
    have shown := detail_entered recorder metric call world
    refine made.marked (.changing world fun _ => rfl) shown nofun fun fresh plain => ?_
    have before := (made.plainly fresh List.prefix_rfl plain).2
    refine .of_shown (shown.trans ?_) nofun
    rw [before, shownWithin_head]
  have ⟨worked, further⟩ := works _ _ entered
  have grown := (marked_grows _ _ _).trans further
  rw [handed, Route.call_of_proceeds made.served route made.skipping,
    Program.bind_of_ok (mark_apply ..)]
  revert worked grown
  rcases work _ _ with ⟨payload | result, later⟩
  · intro worked grown
    refine ⟨worked.marked (.refl later) rfl nofun fun fresh plain => ?_, grown⟩
    have before := (made.plainly fresh grown plain).2
    have ⟨single, here⟩ := worked.plainly fresh List.prefix_rfl plain
    refine .of_shown ?_ ?_
    · cases call with
      | rootSpan => exact absurd rfl ((plain _ List.mem_concat_self).returned _ _ _ _)
      | span | tryRecord | record => exact here
    · rintro _ _ _ _ ⟨⟩
      exact before
  · intro worked grown
    refine ⟨worked.marked (.left ..) (detail_left ..) nofun fun fresh plain => ?_, grown⟩
    have before := (made.plainly fresh grown plain).2
    have ⟨single, here⟩ := worked.plainly fresh List.prefix_rfl plain
    refine .of_shown ((detail_left ..).trans ?_) ?_
    · exact (congrArg call.shownAfter here).trans (shownAfter_head single)
    · rintro _ _ _ _ ⟨⟩
      exact before

theorem handed_of_skips (made : Sound recorder serving true opening roots world)
    (works : ∀ inner, Keeps recorder serving true opening inner (work inner)) :
    let (ending, later) := handed describe recorder route metric call work roots world
    Sound recorder serving true opening roots
      (marked roots (.called metric call world.plain ending) later) ∧
      world.notes <+: later.notes := by
  cases made.outside rfl
  have skipped := detail_skipped recorder metric call world
  have kept : Kept recorder serving world
      (world.changing recorder (Recorder.skipped metric call)) :=
    .changing world fun _ => rfl
  have cleared (before : (world.recorders.get recorder).rootDetail = none) :
      ((world.changing recorder (Recorder.skipped metric call)).recorders.get
        recorder).rootDetail = none := by
    rw [skipped, before, Call.shownAfter_none]
  cases route with
  | direct classify =>
      rw [handed, Route.direct_call_of_skips classify made.skipping]
      refine ⟨made.marked kept skipped (fun _ => rfl) fun fresh plain => ?_, List.prefix_rfl⟩
      have before := (made.plainly fresh List.prefix_rfl plain).2
      refine .of_shown (cleared before) ?_
      rintro _ _ _ _ ⟨⟩
      exact before
  | services key serves =>
      have entered : Sound recorder serving true opening []
          (marked [] (.working metric call)
            (world.changing recorder (Recorder.skipped metric call)).warned) := by
        refine made.marked ⟨kept.skips, kept.engines, kept.notes⟩ skipped (fun _ => rfl) ?_
        intro fresh plain
        exact .of_shown (cleared (made.plainly fresh List.prefix_rfl plain).2) nofun
      have ⟨worked, further⟩ := works _ _ entered
      have grown := (marked_grows _ _ _).trans further
      rw [handed, Route.services_call_of_skips made.served key serves made.skipping,
        Program.map_apply, Program.bind_of_ok (mark_apply ..)]
      refine ⟨worked.marked (.refl _) ?_ (fun _ => rfl) fun fresh plain => ?_, grown⟩
      · rcases (work _ _).1 with payload | result <;> rfl
      · refine .of_shown (worked.plainly fresh List.prefix_rfl plain).2 ?_
        intro _ _ _ _ ends
        cases ends
        exact (made.plainly fresh grown plain).2

theorem called_apply (skipping : (world.recorders.get recorder).skipsProceed = skips) :
    called describe recorder route metric call work roots world =
      let made := marked roots (.calling metric call) world
      let (ending, later) := handed describe recorder route metric call work
        (rootsWithin skips call roots) made
      (.ok ending, marked roots (.called metric call made.plain ending) later) := by
  cases skipping
  rfl

theorem called_keeps
    (works : ∀ inner, Keeps recorder serving skips opening inner (work inner)) :
    Keeps recorder serving skips opening roots
      (called describe recorder route metric call work roots) := by
  intro world sound
  have made : Sound recorder serving skips opening roots
      (marked roots (.calling metric call) world) :=
    sound.quietly (Std.Refl.refl world) trivial
  have grown := marked_grows roots (.calling metric call) world
  rw [called_apply describe route metric call sound.skipping]
  cases skips with
  | false =>
      have ⟨ended, further⟩ := handed_of_proceeds describe route metric call made works
      exact ⟨ended, (grown.trans further).trans (marked_grows ..)⟩
  | true =>
      have ⟨ended, further⟩ := handed_of_skips describe route metric call made works
      rw [rootsWithin_of_skips]
      exact ⟨ended, (grown.trans further).trans (marked_grows ..)⟩

/-! ## Runs -/

theorem run_keeps (exercise : Exercise Host Fault Value recorder serving)
    (roots : List Detail) :
    Keeps recorder serving skips opening roots (exercise.run describe roots) := by
  induction exercise generalizing roots with
  | ends ending => exact fun world sound => ⟨sound, List.prefix_rfl⟩
  | acts elsewhere rest induction =>
      intro world sound
      have same := elsewhere.keepsRecorder world.plain
      have unmoved : Unmoved recorder serving world
          ((elsewhere.change world.plain).noting world.notes) :=
        ⟨⟨congrArg _ same, elsewhere.keepsEngines world.plain, rfl⟩, congrArg _ same⟩
      exact sound.goesOn unmoved trivial (induction _ roots)
  | asks route question rest induction =>
      intro world sound
      have unmoved : Unmoved recorder serving world
          (question.onEngine (Recorder.methods recorder) world).2 :=
        (Unmoved.asked question world).2
      rw [run, Program.bind_of_ok (Program.attempt_apply ..), Route.ask_apply sound.served]
      exact sound.goesOn unmoved trivial (induction _ roots)
  | resets rest induction =>
      intro world sound
      have unmoved : Unmoved recorder serving world
          (world.changing recorder Recorder.reset) :=
        .changing world (fun _ => rfl) fun _ => rfl
      exact sound.goesOn unmoved trivial (induction roots)
  | calls route metric call work rest working resting =>
      intro world sound
      have ⟨ended, grown⟩ := called_keeps describe route metric call working world sound
      rcases calling : called describe recorder route metric call (work.run describe) roots
        world with ⟨payload | ending, later⟩ <;> rw [calling] at ended grown
      · rw [run, Program.bind_of_error calling]
        exact ⟨ended, grown⟩
      · have ⟨rested, further⟩ := resting ending roots later ended
        rw [run, Program.bind_of_ok calling]
        exact ⟨rested, grown.trans further⟩

end Calls

/-! ## The statement -/

/-- Whatever a program does with a recorder, the answer is at every mark the detail of the root
span that was entered last, unless a root span has returned since. As long as root spans are
neither nested nor unwound through, they scope the detail. -/
theorem root_detail_is_of_last_root_span [HostEngines (Marked Host Fault Value)]
    (describe : Fault → String) (exercise : Exercise Host Fault Value recorder serving)
    (world : World Host) (served : Recorder.IsServedBy recorder serving world)
    (before : List (Mark Host Fault Value)) (mark : Mark Host Fault Value)
    (taken : before ++ [mark] <+: exercise.journal describe world) :
    Law recorder (world.recorders.get recorder).skipsProceed
      (world.recorders.get recorder).rootDetail before mark := by
  have start : Sound recorder serving (world.recorders.get recorder).skipsProceed
      (world.recorders.get recorder).rootDetail []
      (world.noting ([] : List (Mark Host Fault Value))) := by
    refine ⟨served, rfl, rfl, fun before mark within => ?_, fun _ => rfl, fun fresh _ => ?_⟩
    · cases (List.append_eq_nil_iff.1 (List.prefix_nil.1 within)).2
    · exact ⟨Nat.zero_le 1, fresh⟩
  exact (run_keeps describe exercise [] _ start).1.lawful before mark taken

/-! Root spans on a recorder at hand, and on services that it serves. -/

instance : HostEngines (Marked Unit Fault Value) := Probe.hostEngines _

def recordedWorld : World Unit :=
  let bound : PluginServices :=
    { plugin := default, clock := ⟨0⟩, binding := true, engine := some (.recorder ⟨0⟩) }
  { recorders := ⟨[{ clock := ⟨0⟩ }]⟩, services := ⟨[bound]⟩, host := () }

abbrev Request := Exercise Unit String Unit ⟨0⟩ (· = ⟨0⟩)

namespace Request

def done : Request :=
  .ends (.ok (.ok ()))

def inRootSpan (route : Route String Unit (· = ⟨0⟩)) (description : String) (work rest : Request) :
    Request :=
  .calls route (.ofEngine "requests" ⟨0⟩ ⟨0⟩) (.rootSpan { description }) work fun _ => rest

end Request

/-- While a request is served, the recorder shows what was said about it. -/
theorem request_is_shown :
    let request := Request.inRootSpan (.services ⟨0⟩ rfl) "outer" .done .done
    Recorder.IsServedBy ⟨0⟩ (· = ⟨0⟩) recordedWorld ∧
      ∃ mark ∈ request.journal id recordedWorld,
        mark.roots = [{ description := "outer" }] ∧
        Recorder.Shows ⟨0⟩ mark.world (some { description := "outer" }) := by
  intro request
  have served : Recorder.IsServedBy ⟨0⟩ (· = ⟨0⟩) recordedWorld := by
    rintro _ rfl
    rfl
  let journal := request.journal id recordedWorld
  have law := root_detail_is_of_last_root_span id request recordedWorld served
    [journal.get ⟨0, by decide⟩] (journal.get ⟨1, by decide⟩) ⟨journal.drop 2, rfl⟩
  exact ⟨served, journal.get ⟨1, by decide⟩, List.get_mem .., rfl, law.shows⟩

/-- When a nested root span has returned, nothing is shown although the outer one is open, and
when one has been unwound through, it is shown although none is. -/
theorem root_spans_need_not_scope :
    let direct := Route.direct (Outcome.ofResult id)
    let nested := Request.inRootSpan direct "outer" (.inRootSpan direct "inner" .done .done) .done
    let unwound := Request.inRootSpan direct "lost" (.ends (.error (.text "boom"))) .done
    (recordedWorld.recorders.get ⟨0⟩).rootDetail = none ∧
      (∃ mark ∈ nested.journal id recordedWorld,
        mark.roots = [{ description := "outer" }] ∧ Recorder.Shows ⟨0⟩ mark.world none ∧
          ¬ Scoped ⟨0⟩ mark) ∧
      ∃ mark ∈ unwound.journal id recordedWorld,
        mark.roots = [] ∧ Recorder.Shows ⟨0⟩ mark.world (some { description := "lost" }) ∧
          ¬ Scoped ⟨0⟩ mark := by
  intro direct nested unwound
  refine ⟨rfl, ?_, ?_⟩
  · refine ⟨(nested.journal id recordedWorld).get ⟨4, by decide⟩, List.get_mem .., rfl, rfl, ?_⟩
    intro scopes
    cases scopes.shown
  · refine ⟨(unwound.journal id recordedWorld).get ⟨2, by decide⟩, List.get_mem .., rfl, rfl, ?_⟩
    intro scopes
    cases scopes.shown

end Exercise

end Instrumentation
