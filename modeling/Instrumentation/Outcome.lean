namespace Instrumentation

/-! How an intercepted call ended, as an engine sees it. -/

inductive Outcome where
  | completed
  | failed (message : String)
  deriving DecidableEq, Repr

namespace Outcome

def isCompleted : Outcome → Bool
  | completed => true
  | failed _ => false

def failureMessage : Outcome → Option String
  | completed => none
  | failed message => some message

def ofResult {Failure Value : Type} (describe : Failure → String) :
    Except Failure Value → Outcome
  | .ok _ => completed
  | .error failure => failed (describe failure)

def display : Outcome → String
  | completed => "completed"
  | failed message => "failed: " ++ message

def panicked : Outcome :=
  failed "panicked"

end Outcome

end Instrumentation
