import Instrumentation.Json.Structure

namespace Instrumentation.Json

/-! A value whose kind is not known beforehand, read whole. -/

inductive Content where
  | null
  | boolean (value : Bool)
  | number (value : Number)
  | text (value : String)
  | sequence
  | map
  deriving DecidableEq, Repr

def depthLimit : Nat := 128

def readContent : Nat → Reader Content
  | depth, characters =>
      match skipBlank characters with
      | [] => .error .endInValue
      | 'n' :: rest => do return (.null, ← readIdentifier ['u', 'l', 'l'] rest)
      | 't' :: rest => do return (.boolean true, ← readIdentifier ['r', 'u', 'e'] rest)
      | 'f' :: rest => do return (.boolean false, ← readIdentifier ['a', 'l', 's', 'e'] rest)
      | '-' :: rest => (readNumber true rest).map fun read => (.number read.1, read.2)
      | '"' :: rest => (readText rest).map fun read => (.text read.1, read.2)
      | '[' :: rest =>
          match depth with
          | 0 | 1 => .error .tooDeep
          | depth + 2 =>
              readArray (fun _ characters =>
                (readContent (depth + 1) characters).map fun read => (.sequence, read.2))
                .sequence rest
      | '{' :: rest =>
          match depth with
          | 0 | 1 => .error .tooDeep
          | depth + 2 =>
              readObject (fun _ _ characters => do
                let (_, rest) ← readContent (depth + 1) (← readColon characters)
                return (.map, rest))
                .map rest
      | character :: rest =>
          if isDigit character then
            (readNumber false (character :: rest)).map fun read => (.number read.1, read.2)
          else .error .expectedValue

def readAny (text : String) : Except Fault Content :=
  readDocument (readContent depthLimit) text

def readFound (characters : List Char) : Except Fault Found :=
  match skipBlank characters with
  | [] => .error .endInValue
  | '[' :: _ => .ok .sequence
  | '{' :: _ => .ok .map
  | 'n' :: rest => (readIdentifier ['u', 'l', 'l'] rest).map fun _ => .null
  | 't' :: rest => (readIdentifier ['r', 'u', 'e'] rest).map fun _ => .boolean true
  | 'f' :: rest => (readIdentifier ['a', 'l', 's', 'e'] rest).map fun _ => .boolean false
  | '-' :: rest => (readNumber true rest).map fun read => read.1.found
  | '"' :: rest => (readText rest).map fun read => .text read.1
  | character :: rest =>
      if isDigit character then
        (readNumber false (character :: rest)).map fun read => read.1.found
      else .error .expectedValue

def mismatched {Result : Type} (expected : Expected) (characters : List Char) :
    Except Fault Result := do
  .error (.mismatch (← readFound characters) expected)

end Instrumentation.Json
