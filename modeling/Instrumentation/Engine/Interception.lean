import Instrumentation.World

namespace Instrumentation

/-! Calls that an engine stands around. The engine acts first; then it either
returns, or it lets the call proceed once and acts again when the call has ended.
What it does afterwards may depend on the end of the call, and an engine that
returns although the call was unwound through has swallowed the panic. -/

abbrev CallEnding := Except Payload Outcome

/-- What an engine does when it is handed a call: it acts, and either is done or
goes on after the call has proceeded. -/
structure Interception (Host : Type) where
  enter : Program Host (Option (CallEnding → Program Host Unit))

variable {Host Value : Type}

/-- A call in flight: its work until it is entered, and its value once it has
returned. Both slots are empty while it runs and after it was unwound through. -/
structure CallSlots (Host Value : Type) where
  work : Option (Program Host Value)
  value : Option Value := none

namespace CallSlots

/-- Enters the call and says how it ended. A call that was entered before is not run
again. -/
def proceed (classify : Value → Outcome) (slots : CallSlots Host Value) :
    Program Host (CallEnding × CallSlots Host Value) := do
  match slots.work with
  | none => return (.ok .completed, slots)
  | some work =>
      match ← attempt work with
      | .ok value => return (.ok (classify value), { work := none, value := some value })
      | .error payload => return (.error payload, { slots with work := none })

end CallSlots

def Interception.drive (interception : Interception Host) (classify : Value → Outcome)
    (work : Program Host Value) : Program Host (CallSlots Host Value) := do
  let slots : CallSlots Host Value := { work := some work }
  match ← interception.enter with
  | none => return slots
  | some afterwards =>
      let (ending, slots) ← slots.proceed classify
      afterwards ending
      return slots

def Outcome.shownToEngine (outcome : Outcome) : Option Outcome :=
  let watching : Interception (Option Outcome) := .mk do
    return some fun ending => modify fun world => { world with host := ending.toOption }
  (watching.drive id (return outcome) { host := none }).2.host

def swallowedPanic : Payload :=
  .fixed ("tracing engine caught a panic from the intercepted call; " ++
    "engines must let it unwind")

/-- Runs a call through an engine, and runs it exactly once if that returns: a
call that the engine skipped is run directly, and a panic that it swallowed is
raised again. -/
def runIntercepted (interception : Interception Host) (classify : Value → Outcome)
    (work : Program Host Value) : Program Host Value := do
  let slots ← interception.drive classify work
  match slots.value, slots.work with
  | some value, _ => return value
  | none, some work =>
      emit .notProceeded
      work
  | none, none => throw swallowedPanic

end Instrumentation
