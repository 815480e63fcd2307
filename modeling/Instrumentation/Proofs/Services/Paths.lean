import Instrumentation.Proofs.Interception.Endings
import Instrumentation.Proofs.Services.Usage

namespace Instrumentation.Facade

/-! The path of an operation is fixed when it is entered. What is entered before an engine
is published goes past it, even if it is published meanwhile; what is entered afterwards
goes to it, and to it alone. The marks of a run show it: they follow one another as the
state of the services says. -/

variable {Host Fault Value : Type}

/-! ## Paths -/

def Question.AnswersUnbound (plugin : PluginId) :
    (question : Question) → question.Answer → Prop
  | createMetric name, metric => metric.name = name ∧ metric.engineOwned = false
  | isEnabled, enabled => enabled = false
  | stringProperty _, answer | booleanProperty _, answer | doubleProperty _, answer
  | putTraceAttribute _ _, answer | rootSpanDetail, answer =>
      answer = .error (PluginServices.notReady plugin)

/-- How marks follow one another, from one published engine or none to another one. While
there is none, no engine is called; from then on whatever is entered calls that engine at
once, for just that, and what it gives is what is answered. -/
inductive Path (plugin : PluginId) : Option Engine → List Mark → Option Engine → Prop
  | nothing (slot : Option Engine) : Path plugin slot [] slot
  | looks {slot later : Option Engine} {marks : List Mark} (rest : Path plugin slot marks later) :
      Path plugin slot (.looked slot.isSome :: marks) later
  | binds {later : Option Engine} {marks : List Mark} (key : Key HostEngine)
      (rest : Path plugin (some (.host key)) marks later) :
      Path plugin none (.bound :: marks) later
  | asksNone {later : Option Engine} {marks : List Mark} (question : Question)
      (answer : question.Answer) (unbound : question.AnswersUnbound plugin answer)
      (rest : Path plugin none marks later) :
      Path plugin none
        (.entered (.answer question) :: .answered question (.ok answer) :: marks) later
  | asks {later : Option Engine} {marks : List Mark} (key : Key HostEngine)
      (question : Question) (answer : Except Payload question.Answer)
      (rest : Path plugin (some (.host key)) marks later) :
      Path plugin (some (.host key))
        (.entered (.answer question) :: .called key (.answer question) ::
          .gave question answer :: .answered question answer :: marks) later
  | callsNone {later : Option Engine} {marks : List Mark} (metric : Metric) (call : Call)
      (rest : Path plugin none marks later) :
      Path plugin none (.entered (.ofCall metric call) :: marks) later
  | calls {later : Option Engine} {marks : List Mark} (key : Key HostEngine)
      (metric : Metric) (call : Call) (rest : Path plugin (some (.host key)) marks later) :
      Path plugin (some (.host key))
        (.entered (.ofCall metric call) :: .called key (.ofCall metric call) :: marks) later

def OwnSlot (slot : Option Engine) : Prop :=
  slot = none ∨ ∃ key, slot = some (.host key)

namespace Path

variable {plugin : PluginId} {slot between later : Option Engine} {marks more : List Mark}

theorem append (first : Path plugin slot marks between) (second : Path plugin between more later) :
    Path plugin slot (marks ++ more) later := by
  induction first with
  | nothing => exact second
  | looks rest induction => exact .looks (induction second)
  | binds key rest induction => exact .binds key (induction second)
  | asksNone question answer unbound rest induction =>
      exact .asksNone question answer unbound (induction second)
  | asks key question answer rest induction => exact .asks key question answer (induction second)
  | callsNone metric call rest induction => exact .callsNone metric call (induction second)
  | calls key metric call rest induction => exact .calls key metric call (induction second)

theorem stays {engine : Engine} (path : Path plugin (some engine) marks later) :
    later = some engine := by
  generalize published : some engine = slot at path
  induction path with
  | nothing => rfl
  | looks rest induction => exact induction published
  | asks key question answer rest induction => exact induction published
  | calls key metric call rest induction => exact induction published
  | binds | asksNone | callsNone => cases published

theorem ownSlot (path : Path plugin slot marks later) (own : OwnSlot slot) : OwnSlot later := by
  induction path with
  | nothing => exact own
  | looks rest induction => exact induction own
  | binds key rest induction => exact induction (.inr ⟨key, rfl⟩)
  | asksNone question answer unbound rest induction => exact induction own
  | asks key question answer rest induction => exact induction own
  | callsNone metric call rest induction => exact induction own
  | calls key metric call rest induction => exact induction own

end Path

/-! ## What runs do -/

structure Walks (services : Key PluginServices) (before after : World (Marked Host)) : Prop where
  plugin : (after.services.get services).plugin = (before.services.get services).plugin
  path : ∃ made, after.notes = before.notes ++ made ∧
    Path (before.services.get services).plugin (before.services.get services).engine made
      (after.services.get services).engine

namespace Walks

variable {services : Key PluginServices} {before between after : World (Marked Host)}

theorem refl (world : World (Marked Host)) : Walks services world world :=
  ⟨rfl, [], (List.append_nil _).symm, .nothing _⟩

theorem trans (first : Walks services before between) (second : Walks services between after) :
    Walks services before after := by
  rcases first with ⟨samePlugin, made, notes, path⟩
  rcases second with ⟨samePluginLater, more, notesLater, pathLater⟩
  refine ⟨samePluginLater.trans samePlugin, made ++ more, ?_, ?_⟩
  · rw [notesLater, notes, List.append_assoc]
  · rw [samePlugin] at pathLater
    exact path.append pathLater

theorem own (walks : Walks services before after)
    (own : OwnSlot (before.services.get services).engine) :
    OwnSlot (after.services.get services).engine := by
  rcases walks.path with ⟨_, _, path⟩
  exact path.ownSlot own

theorem stays (walks : Walks services before after) {engine : Engine}
    (published : (before.services.get services).engine = some engine) :
    (after.services.get services).engine = some engine := by
  rcases walks.path with ⟨_, _, path⟩
  rw [published] at path
  exact path.stays

theorem of_marks (same : after.services = before.services) (made : List Mark)
    (notes : after.notes = before.notes ++ made)
    (path : Path (before.services.get services).plugin (before.services.get services).engine made
      (before.services.get services).engine) : Walks services before after := by
  rw [← same] at path
  refine ⟨by rw [same], made, notes, ?_⟩
  rw [← same]
  exact path

theorem of_same (plugin : (after.services.get services).plugin = (before.services.get services).plugin)
    (engine : (after.services.get services).engine = (before.services.get services).engine)
    (notes : after.notes = before.notes) : Walks services before after := by
  refine ⟨plugin, [], ?_, ?_⟩
  · rw [notes, List.append_nil]
  · rw [engine]
    exact .nothing _

theorem of_published {key : Key HostEngine}
    (unpublished : (before.services.get services).engine = none)
    (plugin : (after.services.get services).plugin = (before.services.get services).plugin)
    (published : (after.services.get services).engine = some (.host key))
    (notes : after.notes = before.notes ++ [.bound]) : Walks services before after := by
  refine ⟨plugin, [.bound], notes, ?_⟩
  rw [unpublished, published]
  exact .binds key (.nothing _)

theorem of_bound {engine : Engine}
    (plugin : (after.services.get services).plugin = (before.services.get services).plugin)
    (published : (before.services.get services).engine = some engine)
    (stays : (after.services.get services).engine = some engine) (made : List Mark)
    (notes : after.notes = before.notes ++ made)
    (path : Path (before.services.get services).plugin (some engine) made (some engine)) :
    Walks services before after := by
  refine ⟨plugin, made, notes, ?_⟩
  rw [published, stays]
  exact path

end Walks

def Keeps (services : Key PluginServices) (program : Program Host Value) : Prop :=
  ∀ world engine, (world.services.get services).engine = some engine →
    ((program world).2.services.get services).plugin = (world.services.get services).plugin ∧
      ((program world).2.services.get services).engine = some engine

structure KeepsBound (services : Key PluginServices) (engine : EngineMethods Host) : Prop where
  answers : ∀ question : Question, Keeps services (question.onEngine engine)
  enters : ∀ (call : Call) (metric : Metric), Keeps services (call.onEngine engine metric).enter
  leaves : ∀ (call : Call) (metric : Metric) (world later : World Host)
    (leave : CallEnding → Program Host Unit),
    (call.onEngine engine metric).enter world = (.ok (some leave), later) →
    ∀ ending, Keeps services (leave ending)

theorem unbound_leaves (question : Question) {state : PluginServices}
    {world later : World (Marked Host)} {answer : question.Answer}
    (unbound : question.unbound state world = (answer, later)) :
    later.services = world.services ∧ later.notes = world.notes ∧
      question.AnswersUnbound state.plugin answer := by
  cases question <;> cases unbound <;> refine ⟨rfl, rfl, ?_⟩
  · exact ⟨rfl, rfl⟩
  all_goals exact rfl

section Steps

variable [HostEngines Host] {services : Key PluginServices}
  (keeps : ∀ key, KeepsBound services (HostEngines.methods key : EngineMethods Host))
  (world : World (Marked Host)) (own : OwnSlot (world.services.get services).engine)

include keeps own in
theorem asked_walks (question : Question) :
    ∃ answer later, asked services question world = (.ok answer, later) ∧
      Walks services world later := by
  let request := Request.answer question
  let entered := world.plain.noting (world.notes ++ [.entered request])
  have asking : asked services question world =
      let (answer, left) := question.ask services entered
      (.ok answer, left.plain.noting (left.notes ++ [.answered question answer])) := rfl
  rw [asking]
  rcases own with unpublished | ⟨key, published⟩
  · have here : (entered.services.get services).engine = none := unpublished
    rw [question.ask_of_unbound here]
    rcases unbound : question.unbound (entered.services.get services) entered
      with ⟨answer, left⟩
    have ⟨same, notes, answers⟩ := unbound_leaves question unbound
    refine ⟨_, _, rfl, .of_marks same [.entered request, .answered question (.ok answer)] ?_ ?_⟩
    · rw [World.notes_noting, notes, World.notes_noting, List.append_assoc]
      rfl
    · rw [unpublished]
      exact .asksNone question answer answers (.nothing none)
  · have here : (entered.services.get services).engine = some (.host key) := published
    have ⟨samePlugin, stays⟩ := (keeps key).answers question world.plain _ published
    rw [question.ask_of_bound here, onEngine_host, marking_apply]
    rcases gives : question.onEngine (HostEngines.methods key) world.plain with ⟨answer, left⟩
    rw [gives] at samePlugin stays
    refine ⟨_, _, rfl, .of_bound samePlugin published stays [.entered request,
      .called key request, .gave question answer, .answered question answer] ?_ ?_⟩
    · rw [World.notes_noting, World.notes_noting, List.append_assoc, List.append_assoc]
      rfl
    · exact .asks key question answer (.nothing _)

omit [HostEngines Host] in
theorem looked_walks :
    ∃ answer later, looked services world = (.ok answer, later) ∧ Walks services world later := by
  refine ⟨_, _, rfl, .of_marks rfl [.looked (world.services.get services).isBound] rfl ?_⟩
  exact .looks (.nothing _)

omit [HostEngines Host] in
/-- A call that is entered after an engine was published. -/
theorem forwarded_walks {interception : Interception Host} {key : Key HostEngine}
    (published : (world.services.get services).engine = some (.host key))
    (enters : Keeps services interception.enter)
    (leaves : ∀ (before later : World Host) (leave : CallEnding → Program Host Unit),
      interception.enter before = (.ok (some leave), later) →
      ∀ ending, Keeps services (leave ending))
    (metric : Metric) (call : Call) (classify : Except Fault Value → Outcome)
    {work : Program (Marked Host) (Except Fault Value)}
    (worked : ∀ entered : World (Marked Host),
      OwnSlot (entered.services.get services).engine → Walks services entered (work entered).2) :
    let request := Request.ofCall metric call
    let entered := world.plain.noting (world.notes ++ [.entered request])
    Walks services world
      (runIntercepted (markingCall interception key request) classify work entered).2 := by
  intro request entered
  have ⟨samePlugin, stays⟩ := enters world.plain _ published
  rcases entering : interception.enter world.plain with ⟨ending, left⟩
  rw [entering] at samePlugin stays
  let inside : World (Marked Host) :=
    left.noting (world.notes ++ [.entered request] ++ [.called key request])
  have came : Walks services world inside := by
    refine .of_bound samePlugin published stays [.entered request, .called key request] ?_ ?_
    · rw [World.notes_noting, List.append_assoc]
      rfl
    · exact .calls key metric call (.nothing _)
  have marked : (markingCall interception key request).enter entered =
      (ending.map (·.map fun leave ending => Program.besideNotes (leave ending)), inside) := by
    rw [markingCall_apply, entering]
  rcases ending with payload | _ | leave
  · rw [runIntercepted_of_unwinds classify work marked]
    exact came
  · rw [runIntercepted_of_skips classify work marked]
    have warned : Walks services inside inside.warned :=
      .of_marks rfl [] (List.append_nil _).symm (.nothing _)
    exact came.trans (warned.trans (worked inside.warned (.inr ⟨key, stays⟩)))
  · rw [runIntercepted_of_proceeds classify work marked]
    have going := worked inside (.inr ⟨key, stays⟩)
    rcases ran : work inside with ⟨ended, behind⟩
    rw [ran] at going
    have bound := going.stays stays
    have ⟨samePlugin, stays⟩ := leaves _ _ leave entering (ended.map classify) behind.plain _ bound
    exact came.trans (going.trans
      (.of_bound samePlugin bound stays [] (List.append_nil _).symm (.nothing _)))

include keeps own in
theorem called_walks (describe : Fault → String) (metric : Metric) (call : Call)
    {work : Program (Marked Host) (Except Fault Value)}
    (worked : ∀ entered : World (Marked Host),
      OwnSlot (entered.services.get services).engine → Walks services entered (work entered).2) :
    ∃ ending later, called services describe metric call work world = (.ok ending, later) ∧
      Walks services world later := by
  let request := Request.ofCall metric call
  let entered := world.plain.noting (world.notes ++ [.entered request])
  have calling : called services describe metric call work world =
      let (ending, later) := call.onServices services metric describe work entered
      (.ok ending, later) := rfl
  rw [calling, call.onServices_apply]
  refine ⟨_, _, rfl, ?_⟩
  rcases own with unpublished | ⟨key, published⟩
  · have here : (entered.services.get services).engine = none := unpublished
    rw [here]
    have enters : Walks services world entered := by
      refine .of_marks rfl [.entered request] rfl ?_
      rw [unpublished]
      exact .callsNone metric call (.nothing none)
    exact enters.trans (worked entered (.inl here))
  · have here : (entered.services.get services).engine = some (.host key) := published
    rw [here]
    dsimp only
    rw [call_onEngine_host]
    exact forwarded_walks world published ((keeps key).enters call metric)
      ((keeps key).leaves call metric) metric call _ worked

omit [HostEngines Host] in
theorem setServices_walks {state : PluginServices}
    (plugin : state.plugin = (world.services.get services).plugin)
    (engine : state.engine = (world.services.get services).engine) :
    Walks services world (world.setServices services state) := by
  apply Walks.of_same
  · rw [World.get_setServices, plugin]
  · rw [World.get_setServices, engine]
  · rfl

omit [HostEngines Host] in
/-- What comes after the creation publishes at most an engine of the host, and that only if
there is none. -/
theorem afterCreation_walks {plugin : PluginId} {creation : Except Payload (Except Error Engine)}
    (hosts : ∀ engine, creation = .ok (.ok engine) → ∃ key, engine = .host key) :
    ∃ ending later, PluginServices.afterCreation services plugin creation world =
        (ending, later) ∧ Walks services world (markBound ending later).2 := by
  rcases creation with payload | cause | engine
  · exact ⟨_, _, rfl, setServices_walks world rfl rfl⟩
  · have told : Walks services world (world.telling (.constructionFailed plugin cause)) :=
      .of_same rfl rfl rfl
    exact ⟨_, _, rfl, told.trans (setServices_walks _ rfl rfl)⟩
  · simp only [PluginServices.afterCreation]
    cases publishes : (world.services.get services).publish engine with
    | none => exact ⟨_, _, rfl, setServices_walks world rfl rfl⟩
    | some published =>
        rcases PluginServices.publish_eq_some publishes with ⟨unpublished, rfl⟩
        rcases hosts engine rfl with ⟨key, rfl⟩
        have stored := World.get_setServices world services
          { world.services.get services with engine := some (.host key) }
        have plugin := congrArg PluginServices.plugin stored
        have engine := congrArg PluginServices.engine stored
        exact ⟨_, _, rfl, .of_published unpublished plugin engine rfl⟩

omit [HostEngines Host] in
theorem bound_apply (create : Creation (Marked Host)) :
    bound services create world =
      let (ending, left) := PluginServices.bind services create world
      (.ok ending, (markBound ending left).2) := by
  rw [bound, Program.bind_apply, Program.attempt_apply]
  rcases PluginServices.bind services create world with ⟨_ | _ | _, left⟩ <;> rfl

include own in
omit [HostEngines Host] in
theorem bound_walks {create : Creation (Marked Host)}
    (creates : ∀ plugin (world : World (Marked Host)),
      OwnSlot (world.services.get services).engine → Walks services world (create plugin world).2)
    (hosts : ∀ plugin world engine, (create plugin world).1 = .ok (.ok engine) →
      ∃ key, engine = .host key) :
    ∃ ending later, bound services create world = (.ok ending, later) ∧
      Walks services world later := by
  rw [bound_apply]
  cases claims : (world.services.get services).claim with
  | none =>
      rw [PluginServices.bind_of_refused claims]
      exact ⟨_, _, rfl, .of_same rfl rfl rfl⟩
  | some claimed =>
      have claiming : Walks services world (world.setServices services claimed) := by
        rcases PluginServices.claim_eq_some claims with ⟨_, rfl⟩
        exact setServices_walks world rfl rfl
      have creating := creates claimed.plugin _ (claiming.own own)
      have hosts := hosts claimed.plugin (world.setServices services claimed)
      rcases creates : create claimed.plugin (world.setServices services claimed) with
        ⟨creation, left⟩
      rw [creates] at creating hosts
      rcases afterCreation_walks left hosts with ⟨ending, later, ends, publishing⟩
      rw [PluginServices.bind_of_claimed claims creates, ends]
      exact ⟨_, _, rfl, claiming.trans (creating.trans publishing)⟩

omit [HostEngines Host] in
theorem made_apply (product : Except Payload (Except Fault Value) →
      Except Payload (Except Error (Key HostEngine)))
    (making : Program (Marked Host) (Except Fault Value)) :
    made product making world =
      ((product (making world).1).map (·.map Engine.host), (making world).2) := rfl

omit [HostEngines Host] in
theorem made_hosts {product : Except Payload (Except Fault Value) →
      Except Payload (Except Error (Key HostEngine))}
    {making : Program (Marked Host) (Except Fault Value)} {engine : Engine}
    (makes : (made product making world).1 = .ok (.ok engine)) : ∃ key, engine = .host key := by
  rw [made_apply] at makes
  generalize product (making world).1 = produced at makes
  rcases produced with payload | cause | key
  · cases makes
  · cases makes
  · cases makes
    exact ⟨key, rfl⟩

/-- Every program walks along the paths, whichever way it goes. -/
theorem run_walks
    (keeps : ∀ key, KeepsBound services (HostEngines.methods key : EngineMethods Host))
    (describe : Fault → String) (usage : Usage Host Fault Value) (world : World (Marked Host))
    (own : OwnSlot (world.services.get services).engine) :
    Walks services world (usage.run services describe world).2 := by
  induction usage generalizing world with
  | ends ending => exact .refl world
  | acts change rest induction =>
      let acted := (world.plain.inSurroundings (change world.plain.surroundings)).noting world.notes
      have acts : Walks services world acted := .of_same rfl rfl rfl
      exact acts.trans (induction (change world.plain.surroundings) acted own)
  | asks question rest induction =>
      rcases asked_walks keeps world own question with ⟨answer, later, asks, walks⟩
      rw [Usage.run, Program.bind_of_ok asks]
      exact walks.trans (induction answer later (walks.own own))
  | looks rest induction =>
      rcases looked_walks world with ⟨answer, later, looks, walks⟩
      rw [Usage.run, Program.bind_of_ok looks]
      exact walks.trans (induction answer later (walks.own own))
  | calls metric call work rest workInduction restInduction =>
      rcases called_walks keeps world own describe metric call workInduction with
        ⟨ending, later, calls, walks⟩
      rw [Usage.run, Program.bind_of_ok calls]
      exact walks.trans (restInduction ending later (walks.own own))
  | binds making product rest makingInduction restInduction =>
      rcases bound_walks world own makingInduction
        (fun _ world _ makes => made_hosts world makes) with ⟨ending, later, binds, walks⟩
      rw [Usage.run, Program.bind_of_ok binds]
      exact walks.trans (restInduction ending later (walks.own own))

end Steps

/-! ## What paths show -/

def requested (marks : List Mark) : List Request :=
  marks.filterMap fun | .entered request => some request | _ => none

def received (marks : List Mark) : List (Key HostEngine × Request) :=
  marks.filterMap fun | .called key request => some (key, request) | _ => none

abbrev Answered := (question : Question) × Except Payload question.Answer

def answers (marks : List Mark) : List Answered :=
  marks.filterMap fun | .answered question answer => some ⟨question, answer⟩ | _ => none

def given (marks : List Mark) : List Answered :=
  marks.filterMap fun | .gave question answer => some ⟨question, answer⟩ | _ => none

/-- The engine was called for all that was entered, in this order and for nothing else, and
what it gave was answered. -/
structure Forwarded (key : Key HostEngine) (marks : List Mark) : Prop where
  received : received marks = (requested marks).map (key, ·)
  answers : answers marks = given marks

structure PassedBy (marks : List Mark) : Prop where
  received : received marks = []
  given : given marks = []

theorem PassedBy.append {marks more : List Mark} (first : PassedBy marks)
    (second : PassedBy more) : PassedBy (marks ++ more) where
  received := by rw [Facade.received, List.filterMap_append]; exact
    List.append_eq_nil_iff.mpr ⟨first.received, second.received⟩
  given := by rw [Facade.given, List.filterMap_append]; exact
    List.append_eq_nil_iff.mpr ⟨first.given, second.given⟩

/-- No engine is called until one is published, if that happens at all; from then on all goes
to that one. -/
inductive PublishedOnce : List Mark → Option Engine → Prop
  | never {marks : List Mark} (passed : PassedBy marks) : PublishedOnce marks none
  | once {before after : List Mark} (key : Key HostEngine) (passed : PassedBy before)
      (forwarded : Forwarded key after) :
      PublishedOnce (before ++ .bound :: after) (some (.host key))

theorem PublishedOnce.behind {marks head : List Mark} {slot : Option Engine}
    (published : PublishedOnce marks slot) (passed : PassedBy head) :
    PublishedOnce (head ++ marks) slot := by
  cases published with
  | never passedLater => exact .never (passed.append passedLater)
  | once key passedLater forwarded =>
      rw [← List.append_assoc]
      exact .once key (passed.append passedLater) forwarded

def Mark.ShowsEngine : Mark → Prop
  | .looked found => found = true
  | .answered .isEnabled answer => answer = .ok true
  | _ => False

namespace Path

variable {plugin : PluginId} {slot later : Option Engine} {marks : List Mark}

theorem forwarded {key : Key HostEngine} (path : Path plugin (some (.host key)) marks later) :
    Forwarded key marks := by
  generalize published : some (Engine.host key) = slot at path
  induction path with
  | nothing => exact ⟨rfl, rfl⟩
  | looks rest induction => exact ⟨(induction published).received, (induction published).answers⟩
  | asks other question answer rest induction =>
      cases published
      have forwarded := induction rfl
      exact ⟨congrArg ((key, Request.answer question) :: ·) forwarded.received,
        congrArg ((⟨question, answer⟩ : Answered) :: ·) forwarded.answers⟩
  | calls other metric call rest induction =>
      cases published
      have forwarded := induction rfl
      exact ⟨congrArg ((key, Request.ofCall metric call) :: ·) forwarded.received,
        forwarded.answers⟩
  | binds | asksNone | callsNone => cases published

theorem publishedOnce (path : Path plugin none marks later) : PublishedOnce marks later := by
  generalize unpublished : none = slot at path
  induction path with
  | nothing =>
      cases unpublished
      exact .never ⟨rfl, rfl⟩
  | @looks slot _ _ rest induction =>
      have passed : PassedBy [.looked slot.isSome] := ⟨rfl, rfl⟩
      exact (induction unpublished).behind passed
  | binds key rest induction =>
      cases rest.stays
      have passed : PassedBy [] := ⟨rfl, rfl⟩
      exact .once key passed rest.forwarded
  | asksNone question answer unbound rest induction =>
      have passed : PassedBy [.entered (.answer question), .answered question (.ok answer)] :=
        ⟨rfl, rfl⟩
      exact (induction unpublished).behind passed
  | callsNone metric call rest induction =>
      have passed : PassedBy [.entered (.ofCall metric call)] := ⟨rfl, rfl⟩
      exact (induction unpublished).behind passed
  | asks | calls => cases unpublished

/-- Whoever could tell that an engine is published is right. -/
theorem after_sign (path : Path plugin slot marks later) {before after : List Mark} {sign : Mark}
    (stands : marks = before ++ sign :: after) (shows : sign.ShowsEngine) :
    ∃ engine, Path plugin (some engine) after later := by
  induction path generalizing before with
  | nothing => simp at stands
  | @looks slot later marks rest induction =>
      rcases before with _ | ⟨_, before⟩
      · cases stands
        cases slot with
        | none => cases shows
        | some engine => exact ⟨engine, rest⟩
      · exact induction (List.cons.inj stands).2
  | binds key rest induction =>
      rcases before with _ | ⟨_, before⟩
      · cases stands
        exact shows.elim
      · exact induction (List.cons.inj stands).2
  | asksNone question answer unbound rest induction =>
      rcases before with _ | ⟨_, _ | ⟨_, before⟩⟩
      · cases stands
        exact shows.elim
      · cases stands
        cases question with
        | isEnabled =>
            cases unbound
            cases shows
        | _ => exact shows.elim
      · exact induction (List.cons.inj (List.cons.inj stands).2).2
  | asks key question answer rest induction =>
      rcases before with _ | ⟨_, _ | ⟨_, _ | ⟨_, _ | ⟨_, before⟩⟩⟩⟩
      · cases stands
        exact shows.elim
      · cases stands
        exact shows.elim
      · cases stands
        exact shows.elim
      · cases stands
        exact ⟨_, rest⟩
      · simp only [List.cons_append, List.cons.injEq] at stands
        exact induction stands.2.2.2.2
  | callsNone metric call rest induction =>
      rcases before with _ | ⟨_, before⟩
      · cases stands
        exact shows.elim
      · exact induction (List.cons.inj stands).2
  | calls key metric call rest induction =>
      rcases before with _ | ⟨_, _ | ⟨_, before⟩⟩
      · cases stands
        exact shows.elim
      · cases stands
        exact shows.elim
      · exact induction (List.cons.inj (List.cons.inj stands).2).2

end Path

/-! ## Main statement -/

/-- Which way an operation on services goes is settled by whether an engine is published
when it is entered. If there is none, a call is its work, and a question is answered without
any engine; if there is one, the operation is that of the engine. So whatever a program does
with services that are unbound at first, and wherever it binds them, no engine is called
before one is published, and from then on that one is called for all that is entered, in
this order and for nothing else; and once a program has seen that an engine is published, it
is answered by that engine. -/
theorem operations_keep_to_their_path [HostEngines Host] (services : Key PluginServices)
    (keeps : ∀ key, KeepsBound services (HostEngines.methods key : EngineMethods Host))
    (describe : Fault → String) :
    (∀ world : World Host, (world.services.get services).engine = none →
      (∀ question : Question, question.ask services world =
        let (answer, later) := question.unbound (world.services.get services) world
        (.ok answer, later)) ∧
      ∀ (call : Call) (metric : Metric) (work : Program Host (Except Fault Value)),
        call.onServices services metric describe work world = work world) ∧
    (∀ (world : World Host) (engine : Engine),
      (world.services.get services).engine = some engine →
      (∀ question : Question,
        question.ask services world = question.onEngine engine.methods world) ∧
      ∀ (call : Call) (metric : Metric) (work : Program Host (Except Fault Value)),
        call.onServices services metric describe work world =
          runIntercepted (call.onEngine engine.methods metric) (call.classify describe) work
            world) ∧
    ∀ (usage : Usage Host Fault Value) (world : World Host),
      (world.services.get services).engine = none →
      let later := (usage.run services describe (world.noting [])).2
      let published := (later.services.get services).engine
      Path (world.services.get services).plugin none later.notes published ∧
        PublishedOnce later.notes published ∧
        ∀ (before after : List Mark) (sign : Mark), later.notes = before ++ sign :: after →
          sign.ShowsEngine → ∃ key, published = some (.host key) ∧ Forwarded key after := by
  refine ⟨?_, ?_, ?_⟩
  · intro world unbound
    refine ⟨fun question => question.ask_of_unbound unbound, ?_⟩
    intro call metric work
    rw [call.onServices_apply, unbound]
  · intro world engine bound
    refine ⟨fun question => question.ask_of_bound bound, ?_⟩
    intro call metric work
    rw [call.onServices_apply, bound]
  · intro usage world unbound later published
    have walks : Walks services (world.noting []) later :=
      run_walks keeps describe usage (world.noting []) (.inl unbound)
    rcases walks.path with ⟨made, notes, path⟩
    have unbound : ((world.noting ([] : List Mark)).services.get services).engine = none := unbound
    rw [unbound] at path
    obtain rfl : made = later.notes := notes.symm
    refine ⟨path, path.publishedOnce, ?_⟩
    intro before after sign stands shows
    rcases path.after_sign stands shows with ⟨engine, onward⟩
    have stays : published = some engine := onward.stays
    rcases path.ownSlot (.inl rfl) with never | ⟨key, host⟩
    · cases stays.symm.trans never
    · cases stays.symm.trans host
      exact ⟨key, stays, onward.forwarded⟩

theorem keepsBound_probe (services : Key PluginServices) (probe : Key Probe) :
    KeepsBound services (Probe.methods probe : EngineMethods Host) where
  answers question world engine published := by cases question <;> exact ⟨rfl, published⟩
  enters call metric world engine published := by cases call <;> exact ⟨rfl, published⟩
  leaves call metric world later leave entering ending := by
    have forwards : call.onEngine (Probe.methods probe : EngineMethods Host) metric =
        Probe.forward probe := by cases call <;> rfl
    rw [forwards] at entering
    cases entering
    intro behind engine published
    cases ending with
    | ok outcome => exact ⟨rfl, published⟩
    | error payload =>
        have reading : Probe.read probe behind = (.ok (behind.probes.get probe), behind) := rfl
        dsimp only
        rw [Program.bind_of_ok reading]
        split <;> exact ⟨rfl, published⟩

def late : Metric :=
  ⟨"late", false, ⟨0⟩, ⟨0⟩⟩

def boundWithin : Usage Unit Unit Unit :=
  .calls late (.rootSpan { description := "page" })
    (.asks .isEnabled fun _ =>
      .binds (fun _ => .ends (.ok (.ok ()))) (fun _ => .ok (.ok ⟨0⟩)) fun _ =>
        .looks fun _ => .calls late .record (.ends (.ok (.ok ()))) .ends)
    fun ending => .asks (.createMetric "late") fun _ => .ends ending

def unboundWorld : World Unit :=
  { services := ⟨[{ plugin := default, clock := ⟨0⟩ }]⟩, probes := ⟨[default]⟩, host := () }

/-- The root span was entered unbound and is never known to the engine, though the engine is
called for what comes within it and after it. -/
theorem boundWithin_keeps_to_path :
    let marks := (boundWithin.run ⟨0⟩ (fun _ => "") (unboundWorld.noting [])).2.notes
    PublishedOnce marks (some (.host ⟨0⟩)) ∧
      requested marks =
        [.rootSpan late { description := "page" }, .answer .isEnabled, .sample late,
          .answer (.createMetric "late")] ∧
      received marks = [(⟨0⟩, .sample late), (⟨0⟩, .answer (.createMetric "late"))] := by
  have ⟨_, _, programs⟩ := @operations_keep_to_their_path Unit Unit Unit _ ⟨0⟩
    (fun key => keepsBound_probe ⟨0⟩ ⟨key.index⟩) fun _ => ""
  have ⟨_, published, _⟩ := programs boundWithin unboundWorld rfl
  exact ⟨published, rfl, rfl⟩

end Instrumentation.Facade
