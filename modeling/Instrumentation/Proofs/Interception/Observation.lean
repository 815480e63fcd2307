import Instrumentation.Engine.Interception
import Instrumentation.Proofs.Program

namespace Instrumentation

/-! Observing an intercepted call. The engine and the work are arbitrary programs, and
a program keeps no record of what it ran; so both are run in a world whose host keeps
notes beside its own part, which neither can read or write. The work notes that it is
entered and how it ends, and the engine what its call of the work handed back and how
it ends itself. What is observed is the same call through the same function. -/

inductive Moment (Host Value : Type) where
  | entered (world : World Host)
  | ended (ending : Except Payload Value)
  | handedBack (ending : CallEnding)
  | engineEnded (ending : Except Payload Unit) (world : World Host)

variable {Host Value Notes : Type}

namespace World

def noting (world : World Host) (notes : Notes) : World (Host × Notes) :=
  { world with host := (world.host, notes) }

def plain (world : World (Host × Notes)) : World Host :=
  { world with host := world.host.1 }

def notes (world : World (Host × Notes)) : Notes :=
  world.host.2

@[simp] theorem plain_noting (world : World Host) (notes : Notes) :
    (world.noting notes).plain = world := rfl

@[simp] theorem notes_noting (world : World Host) (notes : Notes) :
    (world.noting notes).notes = notes := rfl

end World

namespace Program

def besideNotes (work : Program Host Value) : Program (Host × Notes) Value :=
  ExceptT.mk fun world =>
    let (result, later) := work world.plain
    (result, later.noting world.notes)

def note (moment : Moment Host Value) : Program (Host × List (Moment Host Value)) Unit :=
  modify fun world => world.plain.noting (world.notes ++ [moment])

def observed (work : Program Host Value) :
    Program (Host × List (Moment Host Value)) Value := do
  note (.entered (← get).plain)
  let ending ← attempt (besideNotes work)
  note (.ended ending)
  finish ending

@[simp] theorem besideNotes_apply (work : Program Host Value) (world : World Host)
    (notes : Notes) :
    besideNotes work (world.noting notes) = ((work world).1, (work world).2.noting notes) :=
  rfl

@[simp] theorem note_apply (moment : Moment Host Value) (world : World Host)
    (moments : List (Moment Host Value)) :
    note moment (world.noting moments) = (.ok (), world.noting (moments ++ [moment])) := rfl

@[simp] theorem observed_apply (work : Program Host Value) (world : World Host)
    (moments : List (Moment Host Value)) :
    work.observed (world.noting moments) =
      ((work world).1,
        (work world).2.noting (moments ++ [.entered world, .ended (work world).1])) := by
  simp [observed, bind_apply]

end Program

namespace Interception

def observedEnd (part : Program Host Unit) :
    Program (Host × List (Moment Host Value)) Unit := do
  let ending ← attempt (Program.besideNotes part)
  Program.note (.engineEnded ending (← get).plain)
  finish ending

def observed (interception : Interception Host) (Value : Type) :
    Interception (Host × List (Moment Host Value)) where
  enter := do
    match ← attempt (Program.besideNotes interception.enter) with
    | .error payload =>
        observedEnd (throw payload)
        return none
    | .ok none =>
        observedEnd (return)
        return none
    | .ok (some afterwards) =>
        return some fun ending => do
          Program.note (.handedBack ending)
          observedEnd (afterwards ending)

@[simp] theorem observedEnd_apply (part : Program Host Unit) (world : World Host)
    (moments : List (Moment Host Value)) :
    observedEnd part (world.noting moments) =
      ((part world).1,
        (part world).2.noting
          (moments ++ [.engineEnded (part world).1 (part world).2])) := by
  simp [observedEnd, Program.bind_apply]

end Interception

structure Observation (Host Value : Type) where
  result : Except Payload Value
  world : World Host
  moments : List (Moment Host Value)

def observe (interception : Interception Host) (classify : Value → Outcome)
    (work : Program Host Value) (world : World Host) : Observation Host Value :=
  let (result, later) :=
    runIntercepted (interception.observed Value) classify work.observed (world.noting [])
  { result, world := later.plain, moments := later.notes }

def Observation.ending (run : Observation Host Value) :
    Except Payload Value × World Host :=
  (run.result, run.world)

end Instrumentation
