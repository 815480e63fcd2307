import Instrumentation.Json.Structure

namespace Instrumentation.Json

/-! Passing over a value that is not wanted. Its syntax is checked, but not the
range of its numbers, and it may nest to any depth. -/

inductive Bracket where
  | list
  | object
  deriving DecidableEq, Repr

inductive SkipPhase where
  | value
  | afterOpening
  | afterValue
  deriving DecidableEq, Repr

namespace Bracket

def endFault : Bracket → Fault
  | list => .endInList
  | object => .endInObject

def commaFault : Bracket → Fault
  | list => .expectedListCommaOrEnd
  | object => .expectedObjectCommaOrEnd

def closing : Bracket → Char
  | list => ']'
  | object => '}'

end Bracket

def skipNumber (characters : List Char) : Except Fault (List Char) :=
  let unsigned := match characters with
    | '-' :: rest => rest
    | other => other
  (readNumeral .invalidNumber unsigned).map Prod.snd

def skipLeaf (characters : List Char) : Except Fault (Option Bracket × List Char) :=
  match characters with
  | [] => .error .endInValue
  | '[' :: rest => .ok (some .list, rest)
  | '{' :: rest => .ok (some .object, rest)
  | '"' :: rest => (skipText rest).map (none, ·)
  | 'n' :: rest => (readIdentifier ['u', 'l', 'l'] rest).map (none, ·)
  | 't' :: rest => (readIdentifier ['r', 'u', 'e'] rest).map (none, ·)
  | 'f' :: rest => (readIdentifier ['a', 'l', 's', 'e'] rest).map (none, ·)
  | character :: rest =>
      if character = '-' || isDigit character then
        (skipNumber (character :: rest)).map (none, ·)
      else .error .expectedValue

def skipKey (characters : List Char) : Except Fault (List Char) :=
  match skipBlank characters with
  | [] => .error .endInObject
  | '"' :: rest => do readColon (← skipText rest)
  | _ => .error .keyNotText

def skipToValue (bracket : Bracket) (characters : List Char) : Except Fault (List Char) :=
  match bracket with
  | .list => .ok characters
  | .object => skipKey characters

def skipStep (phase : SkipPhase) (brackets : List Bracket) (characters : List Char) :
    Except Fault (SkipPhase × List Bracket × List Char) :=
  match phase, brackets with
  | .value, brackets => do
      match ← skipLeaf (skipBlank characters) with
      | (none, rest) => return (.afterValue, brackets, rest)
      | (some bracket, rest) => return (.afterOpening, bracket :: brackets, rest)
  | _, [] => .ok (.afterValue, [], characters)
  | phase, bracket :: outer =>
      match skipBlank characters with
      | [] => .error bracket.endFault
      | character :: rest =>
          if character = bracket.closing then .ok (.afterValue, outer, rest)
          else if phase = .afterOpening then do
            return (.value, bracket :: outer, ← skipToValue bracket (character :: rest))
          else if character = ',' then do
            return (.value, bracket :: outer, ← skipToValue bracket rest)
          else .error bracket.commaFault

/-- Repeats the step until no bracket is open after a value. Every two steps pass
over a character, so that a budget of two for each is never exhausted. -/
def skipWith : Nat → SkipPhase → List Bracket → List Char → Except Fault (List Char)
  | 0, _, _, _ => .error .endInValue
  | budget + 1, phase, brackets, characters =>
      match phase, brackets with
      | .afterValue, [] => .ok characters
      | phase, brackets => do
          let (phase, brackets, rest) ← skipStep phase brackets characters
          skipWith budget phase brackets rest

def skipValue (characters : List Char) : Except Fault (List Char) :=
  skipWith (2 * characters.length + 2) .value [] characters

end Instrumentation.Json
