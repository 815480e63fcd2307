import Instrumentation.Proofs.Binding.Race
import Instrumentation.Proofs.Registry.Conduct

namespace Instrumentation

/-! What is reported of the calls that a host makes. The report of a call has in it what
factories were asked in the course of it, and what was asked of a factory has in it the
reports of all the calls that the factory made itself meanwhile, to any depth. The reports are
kept beside the host, where neither the conduct nor the factories can read them. -/

variable {Host Value : Type}

/-! ## Reports -/

inductive Errand where
  | bind (services : Key PluginServices) (factory : Key Factory)
  | get (registry : Key Registry) (id : String)
  | start (registry : Key Registry) (factory : Key Factory)

inductive Report where
  | errand (errand : Errand) (askings : List Report) (ending : BindEnding)
  | asking (factory : Key Factory) (plugin : PluginId) (errands : List Report)
      (answer : CreationEnding)

abbrev Reported (Host : Type) := Host × List Report

def forgetValue (ending : Except Payload (Except Error Value)) : BindEnding :=
  ending.map (·.map fun _ => ())

theorem forgetValue_eq (ending : BindEnding) : forgetValue ending = ending := by
  rcases ending with payload | error | _ <;> rfl

namespace Program

def reporting (report : List Report → Except Payload Value → Report)
    (program : Program (Reported Host) Value) : Program (Reported Host) Value := do
  let earlier := (← get).notes
  modify fun world => world.plain.noting []
  let ending ← attempt program
  modify fun world => world.plain.noting (earlier ++ [report world.notes ending])
  finish ending

theorem reporting_notes (report : List Report → Except Payload Value → Report)
    (program : Program (Reported Host) Value) (world : World (Reported Host)) :
    (program.reporting report world).2.notes = world.notes ++
      [report (program (world.plain.noting [])).2.notes (program.reporting report world).1] :=
  rfl

def onErrand (errand : Errand) (program : Program (Reported Host) (Except Error Value)) :
    Program (Reported Host) (Except Error Value) :=
  program.reporting fun askings ending => .errand errand askings (forgetValue ending)

end Program

/-! ## Conduct -/

def Conduct.reported (factories : Factories (Reported Host)) :
    Conduct Host Value → Program (Reported Host) Value
  | ends ending => finish ending
  | aside step rest => do
      let _ ← attempt (Program.besideNotes step.program)
      (rest (← get).plain.host).reported factories
  | binds services factory rest => do
      let ending ← attempt
        ((PluginServices.bind services (factories factory)).onErrand (.bind services factory))
      (rest ending).reported factories
  | gets registry id rest => do
      let ending ← attempt
        ((Registry.getServices factories registry id).onErrand (.get registry id))
      (rest ending).reported factories
  | starts registry factory rest => do
      let ending ← attempt
        ((Registry.start factories registry factory).onErrand (.start registry factory))
      (rest ending).reported factories

def Makers.reported (makers : Makers Host) : Nat → Factories (Reported Host)
  | 0 => fun factory plugin => (throw tooDeeplyNested : Program (Reported Host) _).reporting
      (.asking factory plugin)
  | depth + 1 => fun factory plugin =>
      ((makers factory plugin).reported (makers.reported depth)).reporting
        (.asking factory plugin)

def Conduct.reports (conduct : Conduct Host Value) (makers : Makers Host) (depth : Nat)
    (world : World Host) : List Report :=
  (conduct.reported (makers.reported depth) (world.noting [])).2.notes

end Instrumentation
