import Instrumentation.Json.Numeral
import Instrumentation.Json.Text

namespace Instrumentation.Json

/-! Arrays and objects of JSON texts, read from after their opening bracket. -/

def readIdentifier : List Char → List Char → Except Fault (List Char)
  | [], characters => .ok characters
  | _ :: _, [] => .error .endInValue
  | expected :: more, character :: rest =>
      if character = expected then readIdentifier more rest else .error .expectedIdentifier

def nextElement (first : Bool) (characters : List Char) : Except Fault (Option (List Char)) :=
  match skipBlank characters with
  | [] => .error .endInList
  | ']' :: _ => .ok none
  | character :: rest =>
      if first then .ok (some (character :: rest))
      else if character = ',' then
        match skipBlank rest with
        | [] => .error .endInValue
        | ']' :: _ => .error .trailingComma
        | element => .ok (some element)
      else .error .expectedListCommaOrEnd

def endList (characters : List Char) : Except Fault (List Char) :=
  match skipBlank characters with
  | [] => .error .endInList
  | ']' :: rest => .ok rest
  | ',' :: rest =>
      match skipBlank rest with
      | ']' :: _ => .error .trailingComma
      | _ => .error .trailingCharacters
  | _ => .error .trailingCharacters

def nextKey (first : Bool) : Reader (Option String) := fun characters =>
  match skipBlank characters with
  | [] => .error .endInObject
  | '}' :: rest => .ok (none, rest)
  | character :: rest =>
      if first then
        if character = '"' then named rest else .error .keyNotText
      else if character = ',' then
        match skipBlank rest with
        | [] => .error .endInValue
        | '"' :: rest => named rest
        | '}' :: _ => .error .trailingComma
        | _ => .error .keyNotText
      else .error .expectedObjectCommaOrEnd
where
  named (characters : List Char) : Except Fault (Option String × List Char) :=
    (readText characters).map fun read => (some read.1, read.2)

def readColon (characters : List Char) : Except Fault (List Char) :=
  match skipBlank characters with
  | [] => .error .endInObject
  | ':' :: rest => .ok rest
  | _ => .error .expectedColon

abbrev MemberReader (State : Type) := State → String → Reader State

/-- Takes up the members of an object one after another. A budget of as many
members as there are characters is never exhausted. -/
def readMembers {State : Type} (member : MemberReader State) :
    Nat → Bool → State → Reader State
  | 0, _, _, _ => .error .endInObject
  | budget + 1, first, state, characters => do
      match ← nextKey first characters with
      | (none, rest) => return (state, rest)
      | (some key, rest) =>
          let (state, rest) ← member state key rest
          readMembers member budget false state rest

def readObject {State : Type} (member : MemberReader State) (start : State) : Reader State :=
  fun characters => readMembers member characters.length true start characters

def readElements {State : Type} (element : State → Reader State) :
    Nat → Bool → State → Reader State
  | 0, _, _, _ => .error .endInList
  | budget + 1, first, state, characters => do
      match ← nextElement first characters with
      | none => return (state, ← endList characters)
      | some start =>
          let (state, rest) ← element state start
          readElements element budget false state rest

def readArray {State : Type} (element : State → Reader State) (start : State) : Reader State :=
  fun characters => readElements element characters.length true start characters

def readDocument {Result : Type} (value : Reader Result) (text : String) :
    Except Fault Result := do
  let (result, rest) ← value text.toList
  match skipBlank rest with
  | [] => return result
  | _ => .error .trailingCharacters

end Instrumentation.Json
