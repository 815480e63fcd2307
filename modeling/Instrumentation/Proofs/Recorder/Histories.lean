import Instrumentation.Proofs.Metrics.Summaries
import Instrumentation.Proofs.Recorder.Exercises

namespace Instrumentation

/-! What programs do with a recorder, move by move. Before every move that a program makes, a
note is taken of what it is about to do and of all that there is, beside the host and out of
its reach: when it asks or resets, when it hands over a call, when the work of a call is
entered, and when that work has returned or been unwound through. -/

variable {Host Fault Value : Type}

def Facade.Question.noted : Facade.Question → EngineCall
  | createMetric name => .createMetric name
  | isEnabled => .isEnabled
  | stringProperty name => .stringProperty name
  | booleanProperty name => .booleanProperty name
  | doubleProperty name => .doubleProperty name
  | putTraceAttribute name value => .putTraceAttribute name value
  | rootSpanDetail => .rootSpanDetail

def Route.insists {serving : Key PluginServices → Prop} : Route Fault Value serving → Bool
  | direct _ => false
  | services _ _ => true

def Recorder.now (settings : Recorder) (world : World Host) : UInt64 :=
  (world.clocks.get settings.clock).reading

namespace Exercise

/-! ## Moves -/

inductive Move where
  | acts
  | asks (question : Facade.Question)
  | resets
  /-- A call is handed over, perhaps by services, which insist on it that its work is run. -/
  | enters (metric : Metric) (call : Call) (insists : Bool)
  | works
  | returns (metric : Metric) (start : UInt64) (outcome : Outcome)
  | unwinds

structure Note (Host : Type) where
  move : Move
  world : World Host

abbrev Noted (Host : Type) := Host × List (Note Host)

def note (move : Move) : Program (Noted Host) Unit :=
  modify fun world => world.plain.noting (world.notes ++ [{ move, world := world.plain }])

section Perform

variable [HostEngines (Noted Host)] {serving : Key PluginServices → Prop}
  (describe : Fault → String) (recorder : Key Recorder)

def closing (metric : Metric) (start : UInt64) (classify : Except Fault Value → Outcome) :
    Except Payload (Except Fault Value) → Move
  | .ok result => .returns metric start (classify result)
  | .error _ => .unwinds

def performWork (metric : Metric) (start : UInt64)
    (classify : Except Fault Value → Outcome)
    (work : Program (Noted Host) (Except Fault Value)) :
    Program (Noted Host) (Except Fault Value) := do
  note .works
  let ending ← attempt work
  note (closing metric start classify ending)
  finish ending

def performCall (route : Route Fault Value serving) (metric : Metric) (call : Call)
    (work : Program (Noted Host) (Except Fault Value)) :
    Program (Noted Host) (Except Payload (Option (Except Fault Value))) := do
  let world ← get
  let start := (world.recorders.get recorder).now world
  note (.enters metric call route.insists)
  attempt <| route.call recorder metric call describe <|
    performWork metric start (route.classify call describe) work

variable {recorder}

def perform : Exercise Host Fault Value recorder serving →
    Program (Noted Host) (Except Fault Value)
  | ends ending => finish ending
  | acts elsewhere rest => do
      note .acts
      modify fun world => (elsewhere.change world.plain).noting world.notes
      (rest (← get).plain).perform
  | asks route question rest => do
      note (.asks question)
      let answer ← attempt (route.ask recorder question)
      (rest answer).perform
  | resets rest => do
      note .resets
      Recorder.update recorder Recorder.reset
      rest.perform
  | calls route metric call work rest => do
      let ending ← performCall describe recorder route metric call work.perform
      (rest ending).perform

def history (exercise : Exercise Host Fault Value recorder serving) (world : World Host) :
    List (Note Host) :=
  (exercise.perform describe (world.noting [])).2.notes

def outcome (exercise : Exercise Host Fault Value recorder serving) (world : World Host) :
    World Host :=
  (exercise.perform describe (world.noting [])).2.plain

end Perform

end Exercise

end Instrumentation
