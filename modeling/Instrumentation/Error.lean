import Instrumentation.Text.Quoted

namespace Instrumentation

/-! Failures of the library. An error says what went wrong and for which plugin,
and carries the failures that led to it, nearest first. -/

inductive ErrorKind where
  | notReady
  | alreadyBound
  | engineConstruction
  | configuration
  | invalidArgument
  | internal
  deriving DecidableEq, Repr

namespace ErrorKind

def name : ErrorKind → String
  | notReady => "NotReady"
  | alreadyBound => "AlreadyBound"
  | engineConstruction => "EngineConstruction"
  | configuration => "Configuration"
  | invalidArgument => "InvalidArgument"
  | internal => "Internal"

def display : ErrorKind → String
  | notReady => "not ready"
  | alreadyBound => "already bound"
  | engineConstruction => "engine construction failed"
  | configuration => "configuration error"
  | invalidArgument => "invalid argument"
  | internal => "internal error"

def defaultMessage : ErrorKind → String
  | notReady =>
      "tracing engine hasn't finished initializing yet, plugins should check is_enabled() first"
  | alreadyBound => "plugin services are already bound to an engine"
  | engineConstruction => "engine factory failed"
  | configuration => "configuration error"
  | invalidArgument => "invalid argument"
  | internal => "internal error"

def isFatal : ErrorKind → Bool
  | alreadyBound | engineConstruction => true
  | _ => false

def isContractViolation : ErrorKind → Bool
  | notReady | invalidArgument => true
  | _ => false

end ErrorKind

structure Failure where
  kind : ErrorKind
  message : String
  plugin : Option String := none
  deriving DecidableEq, Repr

namespace Failure

def display (failure : Failure) : String :=
  let plugin := match failure.plugin with
    | none => ""
    | some plugin => " (plugin_id: " ++ plugin ++ ")"
  failure.kind.display ++ ": " ++ failure.message ++ plugin

end Failure

inductive Cause where
  | known (failure : Failure)
  | foreign (text : String)
  deriving DecidableEq, Repr

namespace Cause

def display : Cause → String
  | .known failure => failure.display
  | .foreign text => text

end Cause

structure Error extends Failure where
  causes : List Cause := []
  deriving DecidableEq, Repr

namespace Error

def new (kind : ErrorKind) (message : String) : Error :=
  { kind, message }

def ofKind (kind : ErrorKind) : Error :=
  new kind kind.defaultMessage

def withPlugin (error : Error) (plugin : String) : Error :=
  { error with plugin := some plugin }

/-- Gives an error its cause, with all that led to the cause; a cause that it
had before is forgotten. -/
def causedBy (error cause : Error) : Error :=
  { error with causes := .known cause.toFailure :: cause.causes }

def causedByForeign (error : Error) (text : String) : Error :=
  { error with causes := [.foreign text] }

def ofInputOutput (text : String) : Error :=
  (new .configuration ("I/O error: " ++ text)).causedByForeign text

def ofJson (text : String) : Error :=
  (new .configuration ("JSON error: " ++ text)).causedByForeign text

def display (error : Error) : String :=
  error.toFailure.display

def sources (error : Error) : List String :=
  error.causes.map Cause.display

def diagnosticOf (failure : Failure) (source : String) : String :=
  "Error \x7b kind: " ++ failure.kind.name ++ ", message: " ++ Text.quoted failure.message ++
    ", plugin_id: " ++ Text.quotedOption failure.plugin ++ ", source: " ++ source ++ " \x7d"

def diagnosticOfCauses : List Cause → String
  | [] => "None"
  | .known failure :: rest => "Some(" ++ diagnosticOf failure (diagnosticOfCauses rest) ++ ")"
  | .foreign text :: _ =>
      "Some(Custom \x7b kind: Other, error: " ++ Text.quoted text ++ " \x7d)"

def diagnostic (error : Error) : String :=
  diagnosticOf error.toFailure (diagnosticOfCauses error.causes)

theorem sources_causedBy (error cause : Error) :
    (error.causedBy cause).sources = cause.display :: cause.sources := rfl

end Error

end Instrumentation
