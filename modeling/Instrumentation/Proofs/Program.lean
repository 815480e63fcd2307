import Instrumentation.World

namespace Instrumentation

/-! Running programs step by step. A program is a function of the world in which it
starts; each of its steps has an equation here that says what it does there, so that
what a program does as a whole is computed without opening its monad. -/

variable {Host Value Other : Type}

namespace Program

/-- What comes after a program runs in the world that it left, unless it was unwound
through. -/
theorem bind_apply (program : Program Host Value) (rest : Value → Program Host Other)
    (world : World Host) :
    (program >>= rest) world =
      match program world with
      | (.ok value, later) => rest value later
      | (.error payload, later) => (.error payload, later) := by
  change ExceptT.bindCont rest (program world).1 (program world).2 = _
  rcases program world with ⟨result | result, later⟩ <;> rfl

theorem bind_of_ok {program : Program Host Value} {world later : World Host} {value : Value}
    (returns : program world = (.ok value, later)) (rest : Value → Program Host Other) :
    (program >>= rest) world = rest value later := by
  rw [bind_apply, returns]

theorem bind_of_error {program : Program Host Value} {world later : World Host}
    {payload : Payload} (unwinds : program world = (.error payload, later))
    (rest : Value → Program Host Other) :
    (program >>= rest) world = (.error payload, later) := by
  rw [bind_apply, unwinds]

@[simp] theorem pure_apply (value : Value) (world : World Host) :
    (pure value : Program Host Value) world = (.ok value, world) := rfl

theorem map_apply (transform : Value → Other) (program : Program Host Value)
    (world : World Host) :
    (transform <$> program) world =
      ((program world).1.map transform, (program world).2) := by
  rw [← bind_pure_comp, bind_apply]
  rcases program world with ⟨result | result, later⟩ <;> rfl

@[simp] theorem throw_apply (payload : Payload) (world : World Host) :
    (throw payload : Program Host Value) world = (.error payload, world) := rfl

@[simp] theorem get_apply (world : World Host) :
    (get : Program Host (World Host)) world = (.ok world, world) := rfl

@[simp] theorem modify_apply (change : World Host → World Host) (world : World Host) :
    (modify change : Program Host PUnit) world = (.ok (), change world) := rfl

@[simp] theorem attempt_apply (work : Program Host Value) (world : World Host) :
    attempt work world = (.ok (work world).1, (work world).2) := rfl

@[simp] theorem finish_apply (ending : Except Payload Value) (world : World Host) :
    (finish ending : Program Host Value) world = (ending, world) := rfl

@[simp] theorem emit_apply (event : Event) (world : World Host) :
    (emit event : Program Host Unit) world =
      (.ok (), { world with events := world.events ++ [event] }) := rfl

@[simp] theorem currentThread_apply (world : World Host) :
    (currentThread : Program Host ThreadId) world = (.ok world.thread, world) := rfl

end Program

end Instrumentation
