import Instrumentation.Proofs.Binding.Endings
import Instrumentation.Proofs.Collector.CallTree
import Instrumentation.Proofs.Interception.Observation

namespace Instrumentation.Facade

/-! Programs that use services, and what is seen while they run. A program marks what it
asks of the services and what it is answered; the engines of the host mark what they are
called for and what they give. The marks are notes beside the host of which the engines
themselves know nothing: each does what it would do without them. -/

variable {Host Fault Value : Type}

/-! ## Questions and calls -/

inductive Question where
  | createMetric (name : String)
  | isEnabled
  | stringProperty (name : String)
  | booleanProperty (name : String)
  | doubleProperty (name : String)
  | putTraceAttribute (name value : String)
  | rootSpanDetail

namespace Question

abbrev Answer : Question → Type
  | createMetric _ => Metric
  | isEnabled => Bool
  | stringProperty _ => Except Error (Option String)
  | booleanProperty _ => Except Error Bool
  | doubleProperty _ => Except Error (Option Binary64)
  | putTraceAttribute _ _ => Except Error Unit
  | rootSpanDetail => Except Error (Option Detail)

def ask [HostEngines Host] (services : Key PluginServices) :
    (question : Question) → Program Host question.Answer
  | createMetric name => PluginServices.createMetric services name
  | isEnabled => PluginServices.isEnabled services
  | stringProperty name => PluginServices.stringProperty services name
  | booleanProperty name => PluginServices.booleanProperty services name
  | doubleProperty name => PluginServices.doubleProperty services name
  | putTraceAttribute name value => PluginServices.putTraceAttribute services name value
  | rootSpanDetail => PluginServices.rootSpanDetail services

def onEngine (engine : EngineMethods Host) :
    (question : Question) → Program Host question.Answer
  | createMetric name => engine.createMetric name
  | isEnabled => engine.isEnabled
  | stringProperty name => engine.stringProperty name
  | booleanProperty name => engine.booleanProperty name
  | doubleProperty name => engine.doubleProperty name
  | putTraceAttribute name value => engine.putTraceAttribute name value
  | rootSpanDetail => engine.rootSpanDetail

def unbound (services : PluginServices) (world : World Host) :
    (question : Question) → question.Answer × World Host
  | createMetric name =>
      ({ name, engineOwned := false, stats := world.stats.nextKey, clock := services.clock },
        { world with stats := world.stats.add .empty })
  | isEnabled => (false, world)
  | stringProperty _ => rejected .stringProperty
  | booleanProperty _ => rejected .booleanProperty
  | doubleProperty _ => rejected .doubleProperty
  | putTraceAttribute _ _ => rejected .putTraceAttribute
  | rootSpanDetail => rejected .rootSpanDetail
where
  rejected {Value : Type} (accessor : Accessor) : Except Error Value × World Host :=
    (.error (PluginServices.notReady services.plugin),
      world.telling (.rejectedUnbound services.plugin accessor))

theorem ask_apply [HostEngines Host] (question : Question) (services : Key PluginServices)
    (world : World Host) :
    question.ask services world =
      match (world.services.get services).engine with
      | some engine => question.onEngine engine.methods world
      | none =>
          let (answer, later) := question.unbound (world.services.get services) world
          (.ok answer, later) := by
  cases question with
  | createMetric | isEnabled =>
      simp only [ask, PluginServices.createMetric, PluginServices.isEnabled, Program.bind_apply,
        PluginServices.engineOf_apply]
      cases (world.services.get services).engine <;> rfl
  | stringProperty | booleanProperty | doubleProperty | putTraceAttribute | rootSpanDetail =>
      exact PluginServices.require_apply services world _ _

theorem ask_of_unbound [HostEngines Host] (question : Question) {services : Key PluginServices}
    {world : World Host} (unbound : (world.services.get services).engine = none) :
    question.ask services world =
      let (answer, later) := question.unbound (world.services.get services) world
      (.ok answer, later) := by
  rw [ask_apply, unbound]

theorem ask_of_bound [HostEngines Host] (question : Question) {services : Key PluginServices}
    {world : World Host} {engine : Engine}
    (bound : (world.services.get services).engine = some engine) :
    question.ask services world = question.onEngine engine.methods world := by
  rw [ask_apply, bound]

end Question

inductive Request where
  | answer (question : Question)
  | rootSpan (metric : Metric) (detail : Detail)
  | span (metric : Metric) (detail : Detail)
  | sample (metric : Metric)

def Request.ofCall (metric : Metric) : Call → Request
  | .rootSpan detail => rootSpan metric detail
  | .span detail => span metric detail
  | .tryRecord | .record => sample metric

/-! ## Marks -/

inductive Mark where
  | entered (request : Request)
  | answered (question : Question) (answer : Except Payload question.Answer)
  | looked (bound : Bool)
  | bound
  | called (engine : Key HostEngine) (request : Request)
  | gave (question : Question) (answer : Except Payload question.Answer)

abbrev Marked (Host : Type) := Host × List Mark

def mark (mark : Mark) : Program (Marked Host) Unit :=
  modify fun world => world.plain.noting (world.notes ++ [mark])

@[simp] theorem mark_apply (new : Mark) (world : World Host) (marks : List Mark) :
    mark new (world.noting marks) = (.ok (), world.noting (marks ++ [new])) := rfl

def Question.marking (engine : EngineMethods Host) (key : Key HostEngine)
    (question : Question) : Program (Marked Host) question.Answer := do
  mark (.called key (.answer question))
  let answer ← attempt (Program.besideNotes (question.onEngine engine))
  mark (.gave question answer)
  finish answer

def markingCall (interception : Interception Host) (key : Key HostEngine)
    (request : Request) : Interception (Marked Host) where
  enter := do
    mark (.called key request)
    let afterwards ← Program.besideNotes interception.enter
    return afterwards.map fun leave ending => Program.besideNotes (leave ending)

def marking (engine : EngineMethods Host) (key : Key HostEngine) :
    EngineMethods (Marked Host) where
  createMetric name := Question.marking engine key (.createMetric name)
  isEnabled := Question.marking engine key .isEnabled
  stringProperty name := Question.marking engine key (.stringProperty name)
  booleanProperty name := Question.marking engine key (.booleanProperty name)
  doubleProperty name := Question.marking engine key (.doubleProperty name)
  executeRootSpan metric detail :=
    markingCall (engine.executeRootSpan metric detail) key (.rootSpan metric detail)
  executeSpan metric detail :=
    markingCall (engine.executeSpan metric detail) key (.span metric detail)
  recordMetricData metric := markingCall (engine.recordMetricData metric) key (.sample metric)
  putTraceAttribute name value := Question.marking engine key (.putTraceAttribute name value)
  rootSpanDetail := Question.marking engine key .rootSpanDetail

instance [HostEngines Host] : HostEngines (Marked Host) where
  methods key := marking (HostEngines.methods key) key

theorem onEngine_host [HostEngines Host] (key : Key HostEngine) (question : Question) :
    question.onEngine ((Engine.host key).methods : EngineMethods (Marked Host)) =
      question.marking (HostEngines.methods key) key := by
  cases question <;> rfl

theorem call_onEngine_host [HostEngines Host] (key : Key HostEngine) (call : Call)
    (metric : Metric) :
    call.onEngine ((Engine.host key).methods : EngineMethods (Marked Host)) metric =
      markingCall (call.onEngine (HostEngines.methods key) metric) key (.ofCall metric call) := by
  cases call <;> rfl

@[simp] theorem marking_apply (engine : EngineMethods Host) (key : Key HostEngine)
    (question : Question) (world : World Host) (marks : List Mark) :
    question.marking engine key (world.noting marks) =
      let (answer, later) := question.onEngine engine world
      (answer, later.noting
        (marks ++ [.called key (.answer question), .gave question answer])) := by
  simp only [Question.marking, Program.bind_apply, mark_apply, Program.attempt_apply,
    Program.besideNotes_apply, Program.finish_apply]
  rcases question.onEngine engine world with ⟨answer, later⟩
  simp

@[simp] theorem markingCall_apply (interception : Interception Host) (key : Key HostEngine)
    (request : Request) (world : World Host) (marks : List Mark) :
    (markingCall interception key request).enter (world.noting marks) =
      let (afterwards, later) := interception.enter world
      (afterwards.map (·.map fun leave ending => Program.besideNotes (leave ending)),
        later.noting (marks ++ [.called key request])) := by
  simp only [markingCall, Program.bind_apply, mark_apply, Program.besideNotes_apply]
  rcases interception.enter world with ⟨payload | afterwards, later⟩ <;> rfl

/-! ## Programs -/

/-- A program sees what it is answered and how its calls and binds end; it may go on with
that, pass a panic on or catch it. Making an engine may take a program itself. -/
inductive Usage (Host Fault Value : Type) where
  | ends (ending : Except Payload (Except Fault Value))
  | acts (change : Surroundings Host → Surroundings Host)
      (rest : Surroundings Host → Usage Host Fault Value)
  | asks (question : Question)
      (rest : Except Payload question.Answer → Usage Host Fault Value)
  | looks (rest : Bool → Usage Host Fault Value)
  | calls (metric : Metric) (call : Call) (work : Usage Host Fault Value)
      (rest : Except Payload (Except Fault Value) → Usage Host Fault Value)
  | binds (making : PluginId → Usage Host Fault Value)
      (product : Except Payload (Except Fault Value) →
        Except Payload (Except Error (Key HostEngine)))
      (rest : Except Payload (Except Error Unit) → Usage Host Fault Value)

section Run

variable [HostEngines Host] (services : Key PluginServices) (describe : Fault → String)

def asked (question : Question) :
    Program (Marked Host) (Except Payload question.Answer) := do
  mark (.entered (.answer question))
  let answer ← attempt (question.ask services)
  mark (.answered question answer)
  return answer

def looked : Program (Marked Host) Bool := do
  let answer := (← PluginServices.read services).isBound
  mark (.looked answer)
  return answer

def called (metric : Metric) (call : Call)
    (work : Program (Marked Host) (Except Fault Value)) :
    Program (Marked Host) (Except Payload (Except Fault Value)) := do
  mark (.entered (.ofCall metric call))
  attempt (call.onServices services metric describe work)

def made (product : Except Payload (Except Fault Value) →
      Except Payload (Except Error (Key HostEngine)))
    (making : Program (Marked Host) (Except Fault Value)) :
    Program (Marked Host) (Except Error Engine) := do
  let ending ← attempt making
  finish ((product ending).map (·.map Engine.host))

def markBound : Except Payload (Except Error Unit) → Program (Marked Host) Unit
  | .ok (.ok ()) => mark .bound
  | .ok (.error _) | .error _ => return

def bound (create : Creation (Marked Host)) :
    Program (Marked Host) (Except Payload (Except Error Unit)) := do
  let ending ← attempt (PluginServices.bind services create)
  markBound ending
  return ending

def Usage.run : Usage Host Fault Value → Program (Marked Host) (Except Fault Value)
  | ends ending => finish ending
  | acts change rest => do
      let surroundings := change (← get).plain.surroundings
      modify fun world => (world.plain.inSurroundings surroundings).noting world.notes
      (rest surroundings).run
  | asks question rest => do (rest (← asked services question)).run
  | looks rest => do (rest (← looked services)).run
  | calls metric call work rest => do
      (rest (← called services describe metric call work.run)).run
  | binds making product rest => do
      (rest (← bound services fun plugin => made product (making plugin).run)).run

end Run

end Instrumentation.Facade
