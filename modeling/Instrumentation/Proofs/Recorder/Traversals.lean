import Instrumentation.Proofs.Recorder.Histories
import Instrumentation.Proofs.Recorder.RootDetail
import Mathlib.Data.List.DropRight

namespace Instrumentation

/-! What a recorder has written down. The calls that it lists are the moves by which a program
entered it, and the outcomes those by which works returned to it: the same nested calls, the
one list in the order in which they are entered, the other in that in which they are left. A
reset empties both lists, wherever it stands. -/

variable {Host Fault Value Entry : Type}

namespace Exercise

/-! ## What a move does -/

namespace Move

def clears : Move → Bool
  | resets => true
  | acts | asks _ | enters _ _ _ | works | returns _ _ _ | unwinds => false

def entered : Move → Option EngineCall
  | asks question => some question.noted
  | enters metric call _ => some (call.noted metric)
  | acts | resets | works | returns _ _ _ | unwinds => none

def completed (skips : Bool) : Move → Option Outcome
  | returns _ _ outcome => if skips then none else some outcome
  | acts | asks _ | resets | enters _ _ _ | works | unwinds => none

def samples (skips : Bool) (now : UInt64) (stats : Key MetricStats) : Move → List Nat
  | returns metric start _ =>
      if skips then [] else if metric.stats = stats then [Clock.between start now] else []
  | acts | asks _ | resets | enters _ _ _ | works | unwinds => []

def relisted (move : Move) (listed : List Entry) (entry : Option Entry) : List Entry :=
  if move.clears then [] else listed ++ entry.toList

/-- What becomes of the recorder and of all aggregates. What a program does elsewhere may
touch aggregates too. -/
structure Leads (recorder : Key Recorder) (settings : Recorder) (move : Move)
    (before after : World Host) : Prop where
  calls : (after.recorders.get recorder).calls =
    move.relisted (before.recorders.get recorder).calls move.entered
  outcomes : (after.recorders.get recorder).outcomes =
    move.relisted (before.recorders.get recorder).outcomes
      (move.completed settings.skipsProceed)
  stats : move ≠ .acts → ∀ key, after.stats.get key =
    (before.stats.get key).recordAll
      (move.samples settings.skipsProceed (settings.now before) key)

def IsSingle (skips : Bool) : Move → Prop
  | enters _ _ insists => insists = false ∧ skips = true
  | works | returns _ _ _ | unwinds => False
  | acts | asks _ | resets => True

end Move

/-! ## What a run leaves -/

inductive Path (recorder : Key Recorder) (opening : World Host) :
    List (Note Host) → World Host → Prop
  | start : Path recorder opening [] opening
  | moves (notes : List (Note Host)) (note : Note Host) (after : World Host)
      (path : Path recorder opening notes note.world)
      (leads : note.move.Leads recorder (opening.recorders.get recorder) note.world after) :
      Path recorder opening (notes ++ [note]) after

/-- Moves that run the work of each call just once, within the call. The work is not run only
if the recorder skips the call and nobody insists. -/
inductive Nested (settings : Recorder) : List (Note Host) → Prop
  | nothing : Nested settings []
  | single (earlier : List (Note Host)) (note : Note Host)
      (nested : Nested settings earlier) (single : note.move.IsSingle settings.skipsProceed) :
      Nested settings (earlier ++ [note])
  | call (earlier within : List (Note Host)) (metric : Metric) (call : Call) (insists : Bool)
      (made working worked : World Host) (ending : Move)
      (nested : Nested settings earlier) (inner : Nested settings within)
      (runs : settings.skipsProceed = true → insists = true)
      (ends : ending = .unwinds ∨
        ∃ outcome, ending = .returns metric (settings.now made) outcome) :
      Nested settings (earlier ++
        (⟨.enters metric call insists, made⟩ :: ⟨.works, working⟩ :: within ++
          [⟨ending, worked⟩]))

namespace Nested

variable {settings : Recorder} {earlier later : List (Note Host)}

theorem append (first : Nested settings earlier) (second : Nested settings later) :
    Nested settings (earlier ++ later) := by
  induction second with
  | nothing => rwa [List.append_nil]
  | single notes note _ single nested =>
      rw [← List.append_assoc]
      exact .single _ note nested single
  | call notes within metric call insists made working worked ending _ inner runs ends nested _ =>
      rw [← List.append_assoc]
      exact .call _ within metric call insists made working worked ending nested inner runs ends

end Nested

variable {recorder : Key Recorder} {serving : Key PluginServices → Prop}

/-! ## Questions -/

structure Answers (recorder : Key Recorder) (question : Facade.Question)
    (before after : World Host) : Prop where
  calls : (after.recorders.get recorder).calls =
    (before.recorders.get recorder).calls ++ [question.noted]
  outcomes : (after.recorders.get recorder).outcomes = (before.recorders.get recorder).outcomes
  clock : (after.recorders.get recorder).clock = (before.recorders.get recorder).clock
  skips : (after.recorders.get recorder).skipsProceed =
    (before.recorders.get recorder).skipsProceed
  stats : ∀ key, after.stats.get key = before.stats.get key
  services : after.services = before.services
  host : after.host = before.host

namespace Answers

theorem noting (question : Facade.Question) (world : World Host) :
    Answers recorder question world (world.changing recorder (·.note question.noted)) where
  calls := by rw [World.changing_get]; rfl
  outcomes := by rw [World.changing_get]; rfl
  clock := by rw [World.changing_get]; rfl
  skips := by rw [World.changing_get]; rfl
  stats _ := rfl
  services := rfl
  host := rfl

/-- A new aggregate is empty, and so is one that is not there. -/
theorem making (name : String) {before after : World Host}
    (answers : Answers recorder (.createMetric name) before after) (stats : Key MetricStats) :
    Answers recorder (.createMetric name) before
      (World.changing { after with stats := after.stats.add .empty } recorder fun state =>
        { state with metrics := state.metrics.insert name stats }) where
  calls := by rw [World.changing_get]; exact answers.calls
  outcomes := by rw [World.changing_get]; exact answers.outcomes
  clock := by rw [World.changing_get]; exact answers.clock
  skips := by rw [World.changing_get]; exact answers.skips
  stats key := (after.stats.get_add_default key).trans (answers.stats key)
  services := answers.services
  host := answers.host

theorem answers (question : Facade.Question) (world : World Host) :
    Answers recorder question world
      (question.onEngine (Recorder.methods recorder) world).2 := by
  cases question with
  | createMetric name =>
      let noted := world.changing recorder (·.note (.createMetric name))
      have noting : Answers recorder (.createMetric name) world noted :=
        noting (.createMetric name) world
      have entering : Recorder.noteCall recorder (.createMetric name) world = (.ok (), noted) := rfl
      change Answers recorder _ world (Recorder.createMetric recorder name world).2
      rw [Recorder.createMetric, Program.bind_of_ok entering,
        Program.bind_of_ok (Recorder.read_apply recorder noted)]
      cases (noted.recorders.get recorder).metrics.find? name with
      | some stats => exact noting
      | none => exact noting.making name noted.stats.nextKey
  | isEnabled => exact noting .isEnabled world
  | stringProperty name => exact noting (.stringProperty name) world
  | booleanProperty name => exact noting (.booleanProperty name) world
  | doubleProperty name => exact noting (.doubleProperty name) world
  | putTraceAttribute name value => exact noting (.putTraceAttribute name value) world
  | rootSpanDetail => exact noting .rootSpanDetail world

end Answers

/-! ## Steps -/

structure Going (recorder : Key Recorder) (serving : Key PluginServices → Prop)
    (opening : World Host) (world : World (Noted Host)) : Prop where
  served : Recorder.IsServedBy recorder serving world
  clock : (world.recorders.get recorder).clock = (opening.recorders.get recorder).clock
  skipping : (world.recorders.get recorder).skipsProceed =
    (opening.recorders.get recorder).skipsProceed
  path : Path recorder opening world.notes world.plain

structure Spared (recorder : Key Recorder) (serving : Key PluginServices → Prop)
    (before after : World (Noted Host)) : Prop where
  clock : (after.recorders.get recorder).clock = (before.recorders.get recorder).clock
  skips : (after.recorders.get recorder).skipsProceed =
    (before.recorders.get recorder).skipsProceed
  engines : ∀ key, serving key →
    (after.services.get key).engine = (before.services.get key).engine

namespace Spared

theorem changing (world : World (Noted Host)) {change : Recorder → Recorder}
    (clock : ∀ state, (change state).clock = state.clock)
    (skips : ∀ state, (change state).skipsProceed = state.skipsProceed) :
    Spared recorder serving world (world.changing recorder change) where
  clock := by rw [World.changing_get, clock]
  skips := by rw [World.changing_get, skips]
  engines _ _ := rfl

theorem left (metric : Metric) (call : Call) (outcome : Outcome)
    (made worked : World (Noted Host)) :
    Spared recorder serving worked (Route.left recorder metric call outcome made worked) where
  clock := by rw [Route.left, World.changing_get]; rfl
  skips := by rw [Route.left, World.changing_get]; rfl
  engines _ _ := rfl

end Spared

def noted (move : Move) (world : World (Noted Host)) : World (Noted Host) :=
  world.plain.noting (world.notes ++ [{ move, world := world.plain }])

theorem note_apply (move : Move) (world : World (Noted Host)) :
    note move world = (.ok (), noted move world) := rfl

theorem Spared.of_noted {move : Move} {earlier later : World (Noted Host)}
    (spared : Spared recorder serving (noted move earlier) later) :
    Spared recorder serving earlier later :=
  ⟨spared.clock, spared.skips, spared.engines⟩

theorem notes_noted (move : Move) (world : World (Noted Host)) :
    (noted move world).notes = world.notes ++ [⟨move, world.plain⟩] := rfl

theorem Going.now {opening : World Host} {world : World (Noted Host)}
    (going : Going recorder serving opening world) :
    (world.recorders.get recorder).now world.plain =
      (opening.recorders.get recorder).now world.plain := by
  rw [Recorder.now, going.clock]
  rfl

/-- A move is made after it was noted. -/
theorem Going.moves {opening : World Host} {earlier world : World (Noted Host)} {move : Move}
    (going : Going recorder serving opening earlier)
    (spared : Spared recorder serving earlier world)
    (notes : world.notes = (noted move earlier).notes)
    (leads : move.Leads recorder (opening.recorders.get recorder) earlier.plain world.plain) :
    Going recorder serving opening world where
  served key serves := (spared.engines key serves).trans (going.served key serves)
  clock := spared.clock.trans going.clock
  skipping := spared.skips.trans going.skipping
  path := by
    rw [notes]
    exact .moves earlier.notes ⟨move, earlier.plain⟩ world.plain going.path leads

def Move.IsSilent : Move → Prop
  | works | unwinds => True
  | acts | asks _ | resets | enters _ _ _ | returns _ _ _ => False

theorem Move.IsSilent.leads {move : Move} (silent : move.IsSilent) (settings : Recorder)
    (world : World Host) : move.Leads recorder settings world world := by
  cases move with
  | works | unwinds =>
      exact ⟨(List.append_nil _).symm, (List.append_nil _).symm, fun _ _ => rfl⟩
  | acts | asks | resets | enters | returns => cases silent

theorem Going.silently {opening : World Host} {world : World (Noted Host)} {move : Move}
    (going : Going recorder serving opening world) (silent : move.IsSilent) :
    Going recorder serving opening (noted move world) :=
  going.moves ⟨rfl, rfl, fun _ _ => rfl⟩ rfl (silent.leads _ _)

structure Onward (recorder : Key Recorder) (serving : Key PluginServices → Prop)
    (opening : World Host) (earlier later : World (Noted Host)) : Prop where
  going : Going recorder serving opening later
  nested : ∃ added, later.notes = earlier.notes ++ added ∧
    Nested (opening.recorders.get recorder) added

def GoesOn {Result : Type} (recorder : Key Recorder) (serving : Key PluginServices → Prop)
    (opening : World Host) (program : Program (Noted Host) Result) : Prop :=
  ∀ world, Going recorder serving opening world →
    Onward recorder serving opening world (program world).2

theorem GoesOn.within {Result : Type} {opening : World Host} {world : World (Noted Host)}
    {work : Program (Noted Host) Result} (works : GoesOn recorder serving opening work)
    (entered : Going recorder serving opening world) :
    Onward recorder serving opening (noted .works world) (work (noted .works world)).2 := by
  have silent : Move.works.IsSilent := trivial
  exact works _ (entered.silently silent)

namespace Onward

variable {opening : World Host} {earlier world later : World (Noted Host)} {move : Move}

theorem refl (going : Going recorder serving opening world) :
    Onward recorder serving opening world world :=
  ⟨going, [], (List.append_nil _).symm, .nothing⟩

theorem trans (first : Onward recorder serving opening earlier world)
    (second : Onward recorder serving opening world later) :
    Onward recorder serving opening earlier later := by
  have ⟨added, grown, nested⟩ := first.nested
  have ⟨further, outgrown, within⟩ := second.nested
  refine ⟨second.going, added ++ further, ?_, nested.append within⟩
  rw [outgrown, grown, List.append_assoc]

theorem single (going : Going recorder serving opening world)
    (notes : world.notes = (noted move earlier).notes)
    (single : move.IsSingle (opening.recorders.get recorder).skipsProceed) :
    Onward recorder serving opening earlier world :=
  ⟨going, [⟨move, earlier.plain⟩], notes, .single [] _ .nothing single⟩

theorem call {metric : Metric} {call : Call} {insists : Bool} {working worked : World (Noted Host)}
    (within : Onward recorder serving opening (noted .works working) worked)
    (entered : working.notes = (noted (.enters metric call insists) earlier).notes)
    (runs : (opening.recorders.get recorder).skipsProceed = true → insists = true)
    (going : Going recorder serving opening later)
    (notes : later.notes = (noted move worked).notes)
    (ends : move = .unwinds ∨
      ∃ outcome,
        move = .returns metric ((opening.recorders.get recorder).now earlier.plain) outcome) :
    Onward recorder serving opening earlier later := by
  have ⟨added, grown, inner⟩ := within.nested
  have nested := Nested.call [] added metric call insists earlier.plain working.plain worked.plain
    move .nothing inner runs ends
  refine ⟨going, _, ?_, nested⟩
  rw [notes, notes_noted, grown, notes_noted, entered, notes_noted]
  simp

end Onward

/-! ## Calls -/

theorem stats_timed (world : World Host) (metric : Metric) (clock : Key Clock) (start : UInt64)
    (key : Key MetricStats) :
    (world.timed metric clock start).stats.get key =
      (world.stats.get key).recordAll (if metric.stats = key then
        [Clock.between start (world.clocks.get clock).reading] else []) := by
  rw [World.timed, Table.modify, Table.get_put]
  by_cases same : metric.stats = key
  · rw [if_pos same.symm, if_pos same, same]
    rfl
  · rw [if_neg (Ne.symm same), if_neg same]
    rfl

structure Enters (metric : Metric) (call : Call) (change : Recorder → Recorder) : Prop where
  calls : ∀ state, (change state).calls = state.calls ++ [call.noted metric]
  outcomes : ∀ state, (change state).outcomes = state.outcomes
  clock : ∀ state, (change state).clock = state.clock
  skips : ∀ state, (change state).skipsProceed = state.skipsProceed

theorem enters_entered (metric : Metric) (call : Call) :
    Enters metric call (Recorder.entered metric call) :=
  ⟨fun _ => rfl, fun _ => rfl, fun _ => rfl, fun _ => rfl⟩

theorem enters_skipped (metric : Metric) (call : Call) :
    Enters metric call (Recorder.skipped metric call) :=
  ⟨fun _ => rfl, fun _ => rfl, fun _ => rfl, fun _ => rfl⟩

namespace Enters

variable {metric : Metric} {call : Call} {change : Recorder → Recorder}

theorem leads (enters : Enters metric call change) (recorder : Key Recorder) (insists : Bool)
    (settings : Recorder) (world : World Host) :
    (Move.enters metric call insists).Leads recorder settings world
      (world.changing recorder change) where
  calls := by
    rw [World.changing_get, enters.calls]
    rfl
  outcomes := by
    rw [World.changing_get, enters.outcomes]
    exact (List.append_nil _).symm
  stats _ _ := rfl

theorem spared (enters : Enters metric call change) (insists : Bool)
    (world : World (Noted Host)) :
    Spared recorder serving world
      ((noted (.enters metric call insists) world).changing recorder change) := by
  apply Spared.of_noted
  exact .changing _ enters.clock enters.skips

end Enters

theorem leads_returns (metric : Metric) (call : Call) (outcome : Outcome) (settings : Recorder)
    (made worked : World Host) (proceeds : settings.skipsProceed = false)
    (clock : Recorder.clockIn recorder made = settings.clock) :
    (Move.returns metric (settings.now made) outcome).Leads recorder settings worked
      (Route.left recorder metric call outcome made worked) where
  calls := by
    rw [Route.left, World.changing_get]
    exact (List.append_nil _).symm
  outcomes := by
    rw [Route.left, World.changing_get, Move.completed, proceeds]
    rfl
  stats _ key := by
    rw [Route.left, clock, Move.samples, proceeds]
    exact stats_timed worked metric settings.clock (settings.now made) key

theorem leads_closing_of_skips (metric : Metric) (start : UInt64)
    (classify : Except Fault Value → Outcome) (ending : Except Payload (Except Fault Value))
    (settings : Recorder) (skips : settings.skipsProceed = true) (world : World Host) :
    (closing metric start classify ending).Leads recorder settings world world := by
  cases ending with
  | error payload =>
      have silent : Move.unwinds.IsSilent := trivial
      exact silent.leads settings world
  | ok result =>
      constructor
      · exact (List.append_nil _).symm
      · rw [closing, Move.completed, skips]
        exact (List.append_nil _).symm
      · intro _ key
        rw [closing, Move.samples, skips]
        rfl

theorem Going.closes {opening : World Host} {worked : World (Noted Host)}
    (going : Going recorder serving opening worked)
    (skips : (opening.recorders.get recorder).skipsProceed = true) (metric : Metric)
    (start : UInt64) (classify : Except Fault Value → Outcome)
    (ending : Except Payload (Except Fault Value)) :
    Going recorder serving opening (noted (closing metric start classify ending) worked) :=
  going.moves ⟨rfl, rfl, fun _ _ => rfl⟩ rfl
    (leads_closing_of_skips metric start classify ending _ skips worked.plain)

theorem closing_ends (metric : Metric) (start : UInt64)
    (classify : Except Fault Value → Outcome) (ending : Except Payload (Except Fault Value)) :
    closing metric start classify ending = .unwinds ∨
      ∃ outcome, closing metric start classify ending = .returns metric start outcome := by
  cases ending with
  | error payload => exact .inl rfl
  | ok result => exact .inr ⟨classify result, rfl⟩

theorem performWork_apply (metric : Metric) (start : UInt64)
    (classify : Except Fault Value → Outcome)
    (work : Program (Noted Host) (Except Fault Value)) (world : World (Noted Host)) :
    performWork metric start classify work world =
      ((work (noted .works world)).1,
        noted (closing metric start classify (work (noted .works world)).1)
          (work (noted .works world)).2) := rfl

section Calls

variable [HostEngines (Noted Host)] {opening : World Host} {world : World (Noted Host)}
  (describe : Fault → String) (route : Route Fault Value serving) (metric : Metric) (call : Call)
  {work : Program (Noted Host) (Except Fault Value)}

theorem performCall_apply (work : Program (Noted Host) (Except Fault Value))
    (world : World (Noted Host)) :
    (performCall describe recorder route metric call work world).2 =
      (route.call recorder metric call describe
        (performWork metric ((world.recorders.get recorder).now world.plain)
          (route.classify call describe) work)
        (noted (.enters metric call route.insists) world)).2 := rfl

theorem performCall_of_proceeds (going : Going recorder serving opening world)
    (works : GoesOn recorder serving opening work)
    (proceeds : (opening.recorders.get recorder).skipsProceed = false) :
    Onward recorder serving opening world
      (performCall describe recorder route metric call work world).2 := by
  let made := noted (.enters metric call route.insists) world
  let working := made.changing recorder (Recorder.entered metric call)
  have enters := enters_entered metric call
  have entered : Going recorder serving opening working :=
    going.moves (enters.spared route.insists world) rfl (enters.leads recorder _ _ _)
  have within := works.within entered
  let start := (opening.recorders.get recorder).now world.plain
  have called := @Route.call_of_proceeds _ _ _ _ _ recorder metric call describe
    (performWork metric start (route.classify call describe) work) made
    going.served route (going.skipping.trans proceeds)
  have runs (skips : (opening.recorders.get recorder).skipsProceed = true) :
      route.insists = true := by
    rw [proceeds] at skips
    cases skips
  rw [performCall_apply, going.now, called, performWork_apply]
  revert within
  rcases work (noted .works working) with ⟨payload | result, worked⟩ <;> intro within
  · have silent : Move.unwinds.IsSilent := trivial
    exact within.call rfl runs (within.going.silently silent) rfl (.inl rfl)
  · let outcome := route.classify call describe result
    let ending := Move.returns metric start outcome
    let left := Route.left recorder metric call outcome made (noted ending worked)
    have spared : Spared recorder serving (noted ending worked) left := .left ..
    have leads : ending.Leads recorder (opening.recorders.get recorder) worked.plain left.plain :=
      leads_returns metric call outcome _ world.plain worked.plain proceeds going.clock
    exact within.call rfl runs (within.going.moves spared.of_noted rfl leads) rfl
      (.inr ⟨outcome, rfl⟩)

theorem performCall_of_skips (going : Going recorder serving opening world)
    (works : GoesOn recorder serving opening work)
    (skips : (opening.recorders.get recorder).skipsProceed = true) :
    Onward recorder serving opening world
      (performCall describe recorder route metric call work world).2 := by
  have enters := enters_skipped metric call
  let made := noted (.enters metric call route.insists) world
  let working := made.changing recorder (Recorder.skipped metric call)
  have skipping : (made.recorders.get recorder).skipsProceed = true :=
    going.skipping.trans skips
  rw [performCall_apply, going.now]
  cases route with
  | direct classify =>
      rw [Route.direct_call_of_skips classify skipping]
      have entered : Going recorder serving opening working :=
        going.moves (enters.spared false world) rfl (enters.leads recorder false _ _)
      exact .single entered rfl ⟨rfl, skips⟩
  | services key serves =>
      have warned : Going recorder serving opening working.warned := by
        have spared : Spared recorder serving world working := enters.spared true world
        have leads := enters.leads recorder true (opening.recorders.get recorder) world.plain
        exact going.moves ⟨spared.clock, spared.skips, spared.engines⟩ rfl
          ⟨leads.calls, leads.outcomes, leads.stats⟩
      have within := works.within warned
      have served : Recorder.IsServedBy recorder serving made := going.served
      rw [Route.services_call_of_skips served key serves skipping, Program.map_apply,
        performWork_apply]
      exact within.call rfl (fun _ => rfl) (within.going.closes skips ..) rfl (closing_ends ..)

theorem performCall_goesOn (works : GoesOn recorder serving opening work) :
    GoesOn recorder serving opening
      (performCall describe recorder route metric call work) := by
  intro world going
  cases skips : (opening.recorders.get recorder).skipsProceed with
  | false => exact performCall_of_proceeds describe route metric call going works skips
  | true => exact performCall_of_skips describe route metric call going works skips

end Calls

/-! ## Runs -/

theorem leads_acts (elsewhere : Elsewhere Host recorder serving) (settings : Recorder)
    (world : World Host) :
    Move.acts.Leads recorder settings world (elsewhere.change world) where
  calls := by
    rw [elsewhere.keepsRecorder]
    exact (List.append_nil _).symm
  outcomes := by
    rw [elsewhere.keepsRecorder]
    exact (List.append_nil _).symm
  stats acts := absurd rfl acts

theorem leads_asks {question : Facade.Question} {before after : World Host}
    (answers : Answers recorder question before after) (settings : Recorder) :
    (Move.asks question).Leads recorder settings before after where
  calls := answers.calls
  outcomes := answers.outcomes.trans (List.append_nil _).symm
  stats _ := answers.stats

theorem leads_resets (settings : Recorder) (world : World Host) :
    Move.resets.Leads recorder settings world (world.changing recorder Recorder.reset) where
  calls := by
    rw [World.changing_get]
    rfl
  outcomes := by
    rw [World.changing_get]
    rfl
  stats _ _ := rfl

section Runs

variable [HostEngines (Noted Host)] {opening : World Host} (describe : Fault → String)

theorem perform_goesOn (exercise : Exercise Host Fault Value recorder serving) :
    GoesOn recorder serving opening (exercise.perform describe) := by
  induction exercise with
  | ends ending => exact fun world going => .refl going
  | acts elsewhere rest resting =>
      intro world going
      have same := elsewhere.keepsRecorder world.plain
      have spared : Spared recorder serving world
          ((elsewhere.change world.plain).noting (noted .acts world).notes) :=
        ⟨congrArg Recorder.clock same, congrArg Recorder.skipsProceed same,
          elsewhere.keepsEngines world.plain⟩
      have acted := going.moves spared rfl (leads_acts elsewhere _ world.plain)
      have single : Onward recorder serving opening world _ := .single acted rfl trivial
      exact single.trans (resting _ _ acted)
  | asks route question rest resting =>
      intro world going
      let made := noted (.asks question) world
      let after := (question.onEngine (Recorder.methods recorder) made).2
      have served : Recorder.IsServedBy recorder serving made := going.served
      have answers : Answers recorder question made after := .answers question made
      have spared : Spared recorder serving world after := by
        refine ⟨answers.clock, answers.skips, fun key _ => ?_⟩
        rw [answers.services]
        rfl
      have leads := leads_asks answers (opening.recorders.get recorder)
      have asked : Going recorder serving opening after :=
        going.moves spared (congrArg Prod.snd answers.host)
          ⟨leads.calls, leads.outcomes, leads.stats⟩
      have single : Onward recorder serving opening world after :=
        .single asked (congrArg Prod.snd answers.host) trivial
      rw [perform, Program.bind_of_ok (note_apply ..),
        Program.bind_of_ok (Program.attempt_apply ..), Route.ask_apply served]
      exact single.trans (resting _ _ asked)
  | resets rest resting =>
      intro world going
      let after := (noted .resets world).changing recorder Recorder.reset
      have spared : Spared recorder serving (noted .resets world) after :=
        .changing _ (fun _ => rfl) fun _ => rfl
      have reset : Going recorder serving opening after :=
        going.moves spared.of_noted rfl (leads_resets _ world.plain)
      have single : Onward recorder serving opening world after := .single reset rfl trivial
      exact single.trans (resting _ reset)
  | calls route metric call work rest working resting =>
      intro world going
      have called := performCall_goesOn describe route metric call working world going
      rcases calling : performCall describe recorder route metric call (work.perform describe)
        world with ⟨payload | ending, later⟩ <;> rw [calling] at called
      · rw [perform, Program.bind_of_error calling]
        exact called
      · rw [perform, Program.bind_of_ok calling]
        exact called.trans (resting ending later called.going)

end Runs

/-! ## Logs -/

def sinceReset (notes : List (Note Host)) : List Move :=
  (notes.map Note.move).rtakeWhile (!·.clears)

def listed (entry : Move → Option Entry) (opening : List Entry) (notes : List (Note Host)) :
    List Entry :=
  (if notes.any (·.move.clears) then [] else opening) ++ (sinceReset notes).filterMap entry

/-- What a recorder has written down when these moves have been made. -/
structure Recorded (recorder : Key Recorder) (settings : Recorder) (notes : List (Note Host))
    (world : World Host) : Prop where
  calls : (world.recorders.get recorder).calls = listed Move.entered settings.calls notes
  outcomes : (world.recorders.get recorder).outcomes =
    listed (Move.completed settings.skipsProceed) settings.outcomes notes
  skipped : settings.skipsProceed = true → settings.outcomes = [] →
    (world.recorders.get recorder).outcomes = []

def nextWorld (later : List (Note Host)) (outcome : World Host) : World Host :=
  (later.head?.map Note.world).getD outcome

theorem listed_concat (entry : Move → Option Entry) (opening : List Entry)
    (notes : List (Note Host)) (note : Note Host) :
    listed entry opening (notes ++ [note]) =
      note.move.relisted (listed entry opening notes) (entry note.move) := by
  rw [listed, sinceReset, List.map_append, List.map_singleton, List.rtakeWhile_concat,
    Move.relisted, listed, sinceReset]
  cases clears : note.move.clears with
  | true => simp [clears]
  | false => cases adds : entry note.move <;> simp [clears, adds]

theorem completed_of_skips (move : Move) : move.completed true = none := by
  cases move <;> rfl

theorem listed_of_skips (notes : List (Note Host)) :
    listed (Move.completed true) [] notes = [] := by
  simp [listed, completed_of_skips]

namespace Path

variable {opening world : World Host} {earlier later notes : List (Note Host)} {note : Note Host}

theorem calls (path : Path recorder opening notes world) :
    (world.recorders.get recorder).calls =
      listed Move.entered (opening.recorders.get recorder).calls notes := by
  induction path with
  | start => simp [listed, sinceReset]
  | moves notes note after _ leads earlier => rw [leads.calls, listed_concat, earlier]

theorem outcomes (path : Path recorder opening notes world) :
    (world.recorders.get recorder).outcomes =
      listed (Move.completed (opening.recorders.get recorder).skipsProceed)
        (opening.recorders.get recorder).outcomes notes := by
  induction path with
  | start => simp [listed, sinceReset]
  | moves notes note after _ leads earlier => rw [leads.outcomes, listed_concat, earlier]

theorem recorded (path : Path recorder opening notes world) :
    Recorded recorder (opening.recorders.get recorder) notes world := by
  refine ⟨path.calls, path.outcomes, fun skips empty => ?_⟩
  rw [path.outcomes, skips, empty, listed_of_skips]

theorem moves_inv (path : Path recorder opening (notes ++ [note]) world) :
    Path recorder opening notes note.world ∧
      note.move.Leads recorder (opening.recorders.get recorder) note.world world := by
  generalize same : notes ++ [note] = all at path
  cases path with
  | start => simp at same
  | moves notes note _ path leads =>
      have ⟨rfl, last⟩ := List.append_inj' same rfl
      cases last
      exact ⟨path, leads⟩

theorem leads (path : Path recorder opening (earlier ++ note :: later) world) :
    Path recorder opening earlier note.world ∧
      note.move.Leads recorder (opening.recorders.get recorder) note.world
        (nextWorld later world) := by
  induction later using List.reverseRecOn generalizing world with
  | nil => exact path.moves_inv
  | append_singleton later last within =>
      rw [← List.cons_append, ← List.append_assoc] at path
      have ⟨before, _⟩ := path.moves_inv
      have ⟨path, leads⟩ := within before
      rw [nextWorld, List.head?_append]
      refine ⟨path, ?_⟩
      cases later with
      | nil => exact leads
      | cons next later => exact leads

end Path

/-! ## The statement -/

/-- Whatever a program does with a recorder, the work of each call is run within the call, just
once unless the recorder skips it and nobody insists. At any time the calls that are listed are
those by which it was entered since the last reset, in this order, and the outcomes are those
with which works have returned to it since then, in that order. Each work that returns to it
gives one sample to the aggregate of its call, the time that it took; nothing else that is done
to the recorder gives any. -/
theorem recorder_logs_are_traversals [HostEngines (Noted Host)] (describe : Fault → String)
    (exercise : Exercise Host Fault Value recorder serving) (world : World Host)
    (served : Recorder.IsServedBy recorder serving world) :
    let settings := world.recorders.get recorder
    let history := exercise.history describe world
    let outcome := exercise.outcome describe world
    Nested settings history ∧
      Recorded recorder settings history outcome ∧
      ∀ earlier note later, history = earlier ++ note :: later →
        Recorded recorder settings earlier note.world ∧
          (note.move ≠ .acts → ∀ stats,
            (nextWorld later outcome).stats.get stats =
              (note.world.stats.get stats).recordAll
                (note.move.samples settings.skipsProceed (settings.now note.world) stats)) := by
  intro settings history outcome
  have start : Going recorder serving world (world.noting []) := ⟨served, rfl, rfl, .start⟩
  have onward := perform_goesOn describe exercise _ start
  have ⟨added, grown, nested⟩ := onward.nested
  have whole : history = added := grown
  have path : Path recorder world history outcome := onward.going.path
  refine ⟨whole ▸ nested, path.recorded, fun earlier note later split => ?_⟩
  rw [split] at path
  have ⟨before, leads⟩ := path.leads
  exact ⟨before.recorded, leads.stats⟩

/-! A root span that is open when the recorder is reset. -/

instance : HostEngines (Noted Unit) := Probe.hostEngines _

/-- The call of the outer root span is forgotten, but not its outcome, which comes last. -/
theorem reset_within_root_span_splits_logs :
    let inner := Request.inRootSpan (.direct fun _ => .failed "inner") "inner" .done .done
    let request := Request.inRootSpan (.services ⟨0⟩ rfl) "outer" (.resets inner) .done
    let left := (request.outcome id recordedWorld).recorders.get ⟨0⟩
    Recorder.IsServedBy ⟨0⟩ (· = ⟨0⟩) recordedWorld ∧
      left.calls = [.executeRootSpan "requests" "inner"] ∧
      left.outcomes = [.failed "inner", .completed] := by
  intro inner request left
  have served : Recorder.IsServedBy ⟨0⟩ (· = ⟨0⟩) recordedWorld := by
    intro _ same
    cases same
    rfl
  have traversals := recorder_logs_are_traversals id request recordedWorld served
  exact ⟨served, traversals.2.1.calls, traversals.2.1.outcomes⟩

end Exercise

end Instrumentation
