import Instrumentation.Proofs.Recorder.Calls
import Instrumentation.Proofs.Services.Usage

namespace Instrumentation

/-! Programs that exercise a recorder. They ask it and call it themselves or through services
that are bound to it, one call within another to any depth, and may reset it at any time. At
every step a mark is taken of what there is, in notes that the program cannot read. -/

variable {Host Fault Value : Type}

/-! ## Routes -/

/-- How a program gets to the recorder: it has it at hand, and says itself what a result is to
the recorder, or it has services that serve it. -/
inductive Route (Fault Value : Type) (serving : Key PluginServices → Prop) where
  | direct (classify : Except Fault Value → Outcome)
  | services (key : Key PluginServices) (serves : serving key)

def Recorder.IsServedBy (recorder : Key Recorder) (serving : Key PluginServices → Prop)
    (world : World Host) : Prop :=
  ∀ key, serving key → (world.services.get key).engine = some (.recorder recorder)

namespace Route

variable [HostEngines Host] {serving : Key PluginServices → Prop} (recorder : Key Recorder)

def ask (route : Route Fault Value serving) (question : Facade.Question) :
    Program Host question.Answer :=
  match route with
  | direct _ => question.onEngine (Recorder.methods recorder)
  | services key _ => question.ask key

/-- Hands a call to the recorder. Services see to it that the work is run; a recorder that is
at hand may skip it, and then there is no result. -/
def call (route : Route Fault Value serving) (metric : Metric) (call : Call)
    (describe : Fault → String) (work : Program Host (Except Fault Value)) :
    Program Host (Option (Except Fault Value)) :=
  match route with
  | direct classify => do
      let interception := call.onEngine (Recorder.methods recorder) metric
      return (← interception.drive classify work).value
  | services key _ => do
      return some (← call.onServices key metric describe work)

def classify (route : Route Fault Value serving) (call : Call) (describe : Fault → String) :
    Except Fault Value → Outcome :=
  match route with
  | direct classify => classify
  | services _ _ => call.classify describe

variable {recorder} {metric : Metric} {call : Call} {describe : Fault → String}
  {work : Program Host (Except Fault Value)} {world : World Host}

theorem ask_apply (served : Recorder.IsServedBy recorder serving world)
    (route : Route Fault Value serving) (question : Facade.Question) :
    route.ask recorder question world =
      question.onEngine (Recorder.methods recorder) world := by
  cases route with
  | direct _ => rfl
  | services key serves => exact question.ask_of_bound (served key serves)

theorem direct_call_of_skips (classify : Except Fault Value → Outcome)
    (skips : (world.recorders.get recorder).skipsProceed = true) :
    (direct classify : Route Fault Value serving).call recorder metric call describe work world =
      (.ok none, world.changing recorder (Recorder.skipped metric call)) := by
  have entering := Recorder.enter_of_skips recorder metric call skips
  simp only [Route.call, Interception.drive, Program.bind_apply, entering, Program.pure_apply]

theorem services_call_of_skips (served : Recorder.IsServedBy recorder serving world)
    (key : Key PluginServices) (serves : serving key)
    (skips : (world.recorders.get recorder).skipsProceed = true) :
    (services key serves).call recorder metric call describe work world =
      (some <$> work) (world.changing recorder (Recorder.skipped metric call)).warned := by
  have entering := Recorder.enter_of_skips recorder metric call skips
  have through : call.onServices key metric describe work world =
      work (world.changing recorder (Recorder.skipped metric call)).warned := by
    rw [Call.onServices_apply, served key serves]
    exact runIntercepted_of_skips _ work entering
  rw [Program.map_apply, Route.call, Program.bind_apply, through]
  rcases work _ with ⟨payload | result, worked⟩ <;> rfl

def left (recorder : Key Recorder) (metric : Metric) (call : Call) (outcome : Outcome)
    (made worked : World Host) : World Host :=
  let clock := Recorder.clockIn recorder made
  (worked.timed metric clock (made.clocks.get clock).reading).changing recorder
    (Recorder.left call outcome)

theorem call_of_proceeds (served : Recorder.IsServedBy recorder serving world)
    (route : Route Fault Value serving)
    (proceeds : (world.recorders.get recorder).skipsProceed = false) :
    route.call recorder metric call describe work world =
      match work (world.changing recorder (Recorder.entered metric call)) with
      | (.ok result, worked) =>
          (.ok (some result),
            left recorder metric call (route.classify call describe result) world worked)
      | (.error payload, worked) => (.error payload, worked) := by
  rcases Recorder.enter_of_proceeds recorder metric call proceeds with
    ⟨afterwards, entering, leaves⟩
  cases route with
  | direct classify =>
      simp only [Route.call, Interception.drive, CallSlots.proceed, Program.bind_apply, entering,
        Program.attempt_apply]
      rcases work _ with ⟨payload | result, worked⟩
      · simp only [Program.pure_apply, leaves.unwound]
      · simp only [Program.pure_apply, leaves.returned]
        rfl
  | services key serves =>
      have through := Call.onServices_apply call key metric describe work world
      rw [served key serves] at through
      have through := through.trans (runIntercepted_of_proceeds _ work entering)
      rw [Route.call, Program.bind_apply, through]
      rcases work _ with ⟨payload | result, worked⟩
      · simp only [Except.map, leaves.unwound]
        rfl
      · simp only [Except.map, leaves.returned]
        rfl

end Route

/-! ## Exercises -/

/-- Anything done that touches neither the recorder nor the services that serve it. -/
structure Elsewhere (Host : Type) (recorder : Key Recorder)
    (serving : Key PluginServices → Prop) where
  change : World Host → World Host
  keepsRecorder : ∀ world,
    (change world).recorders.get recorder = world.recorders.get recorder
  keepsEngines : ∀ world key, serving key →
    ((change world).services.get key).engine = (world.services.get key).engine

inductive Exercise (Host Fault Value : Type) (recorder : Key Recorder)
    (serving : Key PluginServices → Prop) where
  | ends (ending : Except Payload (Except Fault Value))
  | acts (elsewhere : Elsewhere Host recorder serving)
      (rest : World Host → Exercise Host Fault Value recorder serving)
  | asks (route : Route Fault Value serving) (question : Facade.Question)
      (rest : Except Payload question.Answer → Exercise Host Fault Value recorder serving)
  | resets (rest : Exercise Host Fault Value recorder serving)
  | calls (route : Route Fault Value serving) (metric : Metric) (call : Call)
      (work : Exercise Host Fault Value recorder serving)
      (rest : Except Payload (Option (Except Fault Value)) →
        Exercise Host Fault Value recorder serving)

namespace Exercise

inductive Deed (Host Fault Value : Type) where
  | acted
  | asked (question : Facade.Question) (answer : Except Payload question.Answer)
  | reset
  | calling (metric : Metric) (call : Call)
  | working (metric : Metric) (call : Call)
  | called (metric : Metric) (call : Call) (made : World Host)
      (ending : Except Payload (Option (Except Fault Value)))

structure Mark (Host Fault Value : Type) where
  deed : Deed Host Fault Value
  roots : List Detail
  world : World Host

abbrev Marked (Host Fault Value : Type) := Host × List (Mark Host Fault Value)

def mark (roots : List Detail) (deed : Deed Host Fault Value) :
    Program (Marked Host Fault Value) Unit :=
  modify fun world => world.plain.noting (world.notes ++ [{ deed, roots, world := world.plain }])

/-- The root spans that are open while the work of a call runs. A recorder that skips calls
has returned from a call before services run its work. -/
def rootsWithin (skips : Bool) (call : Call) (roots : List Detail) : List Detail :=
  match call with
  | .rootSpan detail => if skips then roots else detail :: roots
  | .span _ | .tryRecord | .record => roots

section Run

variable [HostEngines (Marked Host Fault Value)] {serving : Key PluginServices → Prop}
  (describe : Fault → String)

def handed (recorder : Key Recorder) (route : Route Fault Value serving) (metric : Metric)
    (call : Call)
    (work : List Detail → Program (Marked Host Fault Value) (Except Fault Value))
    (inner : List Detail) : Program (Marked Host Fault Value) (Option (Except Fault Value)) :=
  route.call recorder metric call describe do
    mark inner (.working metric call)
    work inner

def called (recorder : Key Recorder) (route : Route Fault Value serving) (metric : Metric)
    (call : Call)
    (work : List Detail → Program (Marked Host Fault Value) (Except Fault Value))
    (roots : List Detail) :
    Program (Marked Host Fault Value) (Except Payload (Option (Except Fault Value))) := do
  mark roots (.calling metric call)
  let made := (← get).plain
  let inner := rootsWithin (made.recorders.get recorder).skipsProceed call roots
  let ending ← attempt (handed describe recorder route metric call work inner)
  mark roots (.called metric call made ending)
  return ending

variable {recorder : Key Recorder}

def run : Exercise Host Fault Value recorder serving → List Detail →
    Program (Marked Host Fault Value) (Except Fault Value)
  | ends ending, _ => finish ending
  | acts elsewhere rest, roots => do
      modify fun world => (elsewhere.change world.plain).noting world.notes
      mark roots .acted
      (rest (← get).plain).run roots
  | asks route question rest, roots => do
      let answer ← attempt (route.ask recorder question)
      mark roots (.asked question answer)
      (rest answer).run roots
  | resets rest, roots => do
      Recorder.update recorder Recorder.reset
      mark roots .reset
      rest.run roots
  | calls route metric call work rest, roots => do
      let ending ← called describe recorder route metric call work.run roots
      (rest ending).run roots

def journal (exercise : Exercise Host Fault Value recorder serving) (world : World Host) :
    List (Mark Host Fault Value) :=
  (exercise.run describe [] (world.noting [])).2.notes

end Run

end Exercise

end Instrumentation
