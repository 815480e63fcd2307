import Instrumentation.Engine.Interception
import Instrumentation.Proofs.Program

namespace Instrumentation

/-! What becomes of an intercepted call, by what its engine does. These equations stand
for `runIntercepted` in all that follows. -/

variable {Host Value : Type}

namespace World

def warned (world : World Host) : World Host :=
  { world with events := world.events ++ [.notProceeded] }

end World

def afterReturn : Except Payload Value → Except Payload Value
  | .ok value => .ok value
  | .error _ => .error swallowedPanic

def afterEngine (ending : Except Payload Value) : Except Payload Unit → Except Payload Value
  | .ok () => afterReturn ending
  | .error payload => .error payload

variable {interception : Interception Host} {world entered : World Host}

theorem runIntercepted_of_unwinds (classify : Value → Outcome) (work : Program Host Value)
    {payload : Payload} (unwinds : interception.enter world = (.error payload, entered)) :
    runIntercepted interception classify work world = (.error payload, entered) := by
  simp only [runIntercepted, Interception.drive, Program.bind_apply, unwinds]

theorem runIntercepted_of_skips (classify : Value → Outcome) (work : Program Host Value)
    (skips : interception.enter world = (.ok none, entered)) :
    runIntercepted interception classify work world = work entered.warned := by
  simp only [runIntercepted, Interception.drive, Program.bind_apply, skips,
    Program.pure_apply, Program.emit_apply]
  rfl

theorem runIntercepted_of_proceeds (classify : Value → Outcome) (work : Program Host Value)
    {afterwards : CallEnding → Program Host Unit}
    (proceeds : interception.enter world = (.ok (some afterwards), entered)) :
    runIntercepted interception classify work world =
      let (ending, worked) := work entered
      let (engineEnding, later) := afterwards (ending.map classify) worked
      (afterEngine ending engineEnding, later) := by
  simp only [runIntercepted, Interception.drive, CallSlots.proceed, Program.bind_apply,
    proceeds, Program.attempt_apply]
  rcases work entered with ⟨payload | value, worked⟩
  · rcases leaving : afterwards (.error payload) worked with ⟨engineEnding | _, later⟩ <;>
      simp [Except.map, leaving, afterEngine, afterReturn]
  · rcases leaving : afterwards (.ok (classify value)) worked with ⟨engineEnding | _, later⟩ <;>
      simp [Except.map, leaving, afterEngine, afterReturn]

end Instrumentation
