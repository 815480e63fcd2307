namespace Instrumentation

/-! What a caller says about a span: a description, entries of context in the
order given, and for a root span the user it is attributed to. -/

structure Detail where
  description : String
  context : List (String × String) := []
  username : Option String := none
  deriving DecidableEq, Repr

namespace Detail

def withContext (detail : Detail) (key value : String) : Detail :=
  { detail with context := detail.context ++ [(key, value)] }

def withUsername (detail : Detail) (username : String) : Detail :=
  { detail with username := some username }

end Detail

end Instrumentation
