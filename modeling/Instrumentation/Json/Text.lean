import Instrumentation.Json.Fault

namespace Instrumentation.Json

/-! Strings of JSON texts, read from after their opening quote. -/

def hexValue? (character : Char) : Option Nat :=
  if '0' ≤ character && character ≤ '9' then some (character.toNat - '0'.toNat)
  else if 'a' ≤ character && character ≤ 'f' then some (character.toNat - 'a'.toNat + 10)
  else if 'A' ≤ character && character ≤ 'F' then some (character.toNat - 'A'.toNat + 10)
  else none

def hexUnit? (first second third fourth : Char) : Option Nat := do
  let first ← hexValue? first
  let second ← hexValue? second
  let third ← hexValue? third
  let fourth ← hexValue? fourth
  return ((first * 16 + second) * 16 + third) * 16 + fourth

/-- A unit is cut off by the end of the text if fewer than four bytes are left. -/
def shortUnit (characters : List Char) : Fault :=
  if (String.ofList characters).utf8ByteSize < 4 then .endInText else .invalidEscape

def shortEscape? : Char → Option Char
  | '"' => some '"'
  | '\\' => some '\\'
  | '/' => some '/'
  | 'b' => some '\x08'
  | 'f' => some '\x0c'
  | 'n' => some '\n'
  | 'r' => some '\r'
  | 't' => some '\t'
  | _ => none

def isLeading (code : Nat) : Bool := 0xd800 ≤ code && code ≤ 0xdbff

def isTrailing (code : Nat) : Bool := 0xdc00 ≤ code && code ≤ 0xdfff

def joinPair (leading trailing : Nat) : Char :=
  Char.ofNat ((leading - 0xd800) * 1024 + (trailing - 0xdc00) + 0x10000)

def prepend (character : Char) (result : Except Fault (List Char × List Char)) :
    Except Fault (List Char × List Char) :=
  result.map fun read => (character :: read.1, read.2)

def readCharacters : List Char → Except Fault (List Char × List Char)
  | [] => .error .endInText
  | '"' :: rest => .ok ([], rest)
  | '\\' :: 'u' :: first :: second :: third :: fourth :: rest =>
      match hexUnit? first second third fourth with
      | none => .error .invalidEscape
      | some code =>
          if isTrailing code then .error .loneSurrogate
          else if !isLeading code then prepend (Char.ofNat code) (readCharacters rest)
          else match rest with
            | '\\' :: 'u' :: first :: second :: third :: fourth :: rest =>
                match hexUnit? first second third fourth with
                | none => .error .invalidEscape
                | some trailing =>
                    if isTrailing trailing then
                      prepend (joinPair code trailing) (readCharacters rest)
                    else .error .loneSurrogate
            | '\\' :: 'u' :: short => .error (shortUnit short)
            | [] | ['\\'] => .error .endInText
            | _ => .error .unpairedEscape
  | '\\' :: 'u' :: short => .error (shortUnit short)
  | '\\' :: escape :: rest =>
      match shortEscape? escape with
      | some character => prepend character (readCharacters rest)
      | none => .error .invalidEscape
  | ['\\'] => .error .endInText
  | character :: rest =>
      if character.toNat < 0x20 then .error .controlCharacter
      else prepend character (readCharacters rest)

def readText : Reader String := fun characters =>
  (readCharacters characters).map fun read => (String.ofList read.1, read.2)

/-- Passes over a string whose value is not wanted: surrogates need no partner. -/
def skipText : List Char → Except Fault (List Char)
  | [] => .error .endInText
  | '"' :: rest => .ok rest
  | '\\' :: 'u' :: first :: second :: third :: fourth :: rest =>
      match hexUnit? first second third fourth with
      | none => .error .invalidEscape
      | some _ => skipText rest
  | '\\' :: 'u' :: short => .error (shortUnit short)
  | '\\' :: escape :: rest =>
      match shortEscape? escape with
      | some _ => skipText rest
      | none => .error .invalidEscape
  | ['\\'] => .error .endInText
  | character :: rest =>
      if character.toNat < 0x20 then .error .controlCharacter else skipText rest

end Instrumentation.Json
