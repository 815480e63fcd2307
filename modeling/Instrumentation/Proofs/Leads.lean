import Mathlib.Order.Defs.Unbundled
import Instrumentation.Proofs.Program

namespace Instrumentation

/-! What is so wherever a program runs: how it ends, and how the world that it leaves is
related to the one in which it started. For a relation that steps can be chained by,
this is shown of a program part by part. -/

variable {Host Value Other : Type}

def Gives (wanted : Value → Prop) : Except Payload Value → Prop
  | .ok value => wanted value
  | .error _ => False

abbrev Returns : Except Payload Value → Prop :=
  Gives fun _ => True

def Unwinds (payload : Payload) (ending : Except Payload Value) : Prop :=
  ending = .error payload

/-- Wherever it is run, the program ends well and leads to a related world. -/
def Leads (related : World Host → World Host → Prop) (good : Except Payload Value → Prop)
    (program : Program Host Value) : Prop :=
  ∀ world, good (program world).1 ∧ related world (program world).2

namespace Leads

variable {related : World Host → World Host → Prop} [IsPreorder (World Host) related]
  {program : Program Host Value}

theorem pure {good : Except Payload Value → Prop} {value : Value} (holds : good (.ok value)) :
    Leads related good (Pure.pure value) :=
  fun world => ⟨holds, Std.Refl.refl world⟩

theorem throw (payload : Payload) :
    Leads related (Unwinds payload) (MonadExcept.throw payload : Program Host Value) :=
  fun world => ⟨rfl, Std.Refl.refl world⟩

theorem look (look : World Host → Value) :
    Leads related Returns (do return look (← get) : Program Host Value) :=
  fun world => ⟨trivial, Std.Refl.refl world⟩

omit [IsPreorder (World Host) related] in
theorem modify {change : World Host → World Host}
    (relates : ∀ world, related world (change world)) :
    Leads related Returns (modify change : Program Host PUnit) :=
  fun world => ⟨trivial, relates world⟩

omit [IsPreorder (World Host) related] in
theorem returned {wanted : Value → Prop} (leads : Leads related (Gives wanted) program)
    (world : World Host) :
    ∃ value later, program world = (.ok value, later) ∧ wanted value ∧
      related world later := by
  have ⟨ended, led⟩ := leads world
  rcases running : program world with ⟨payload | value, later⟩
  · rw [running] at ended
    exact ended.elim
  · rw [running] at ended led
    exact ⟨value, later, rfl, ended, led⟩

omit [IsPreorder (World Host) related] in
theorem unwound {payload : Payload} (leads : Leads related (Unwinds payload) program)
    (world : World Host) :
    ∃ later, program world = (.error payload, later) ∧ related world later := by
  have ⟨ended, led⟩ := leads world
  exact ⟨(program world).2, Prod.ext ended rfl, led⟩

theorem andThen {good : Except Payload Value → Prop} {goodLater : Except Payload Other → Prop}
    {rest : Value → Program Host Other} (first : Leads related good program)
    (next : ∀ value, good (.ok value) → Leads related goodLater (rest value))
    (passes : ∀ payload, good (.error payload) → goodLater (.error payload)) :
    Leads related goodLater (program >>= rest) := by
  intro world
  have ⟨ended, led⟩ := first world
  rcases running : program world with ⟨payload | value, later⟩
  · rw [running] at ended led
    rw [Program.bind_of_error running]
    exact ⟨passes payload ended, led⟩
  · rw [running] at ended led
    rw [Program.bind_of_ok running]
    have ⟨goodEnd, ledOn⟩ := next value ended later
    exact ⟨goodEnd, IsTrans.trans _ _ _ led ledOn⟩

theorem bind {wanted : Value → Prop} {good : Except Payload Other → Prop}
    {rest : Value → Program Host Other} (first : Leads related (Gives wanted) program)
    (next : ∀ value, wanted value → Leads related good (rest value)) :
    Leads related good (program >>= rest) :=
  first.andThen next fun _ => False.elim

theorem bind_unwound {payload : Payload} {rest : Value → Program Host Other}
    (first : Leads related (Unwinds payload) program) :
    Leads related (Unwinds payload) (program >>= rest) :=
  first.andThen nofun fun _ same => congrArg Except.error (Except.error.inj same)

end Leads

end Instrumentation
