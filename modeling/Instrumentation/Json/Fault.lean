import Instrumentation.Number.Shortest
import Instrumentation.Text.Quoted

namespace Instrumentation.Json

/-! Why a text is not the JSON text that was expected. A text is read once from
left to right, and the first fault met is the one reported. -/

inductive Expected where
  | record (name : String)
  | boolean
  | word
  | map
  deriving DecidableEq, Repr

inductive Found where
  | null
  | boolean (value : Bool)
  | integer (value : Int)
  | floating (value : Binary64)
  | text (value : String)
  | sequence
  | map
  deriving DecidableEq, Repr

inductive Fault where
  | endInValue
  | endInText
  | endInObject
  | endInList
  | expectedValue
  | expectedIdentifier
  | keyNotText
  | expectedColon
  | expectedObjectCommaOrEnd
  | expectedListCommaOrEnd
  | trailingComma
  | trailingCharacters
  | invalidNumber
  | numberOutOfRange
  | invalidEscape
  | controlCharacter
  | unpairedEscape
  | loneSurrogate
  | tooDeep
  | duplicateField (name : String)
  | mismatch (found : Found) (expected : Expected)
  | negativeWord (value : Int)
  | noVariant (name : String)
  deriving DecidableEq, Repr

/-- Exponents from -5 to 15 are left out; one that is written has a sign. A tie goes
to the even digit. -/
def numberLayout : DecimalLayout where
  leastPositional := -5
  greatestPositional := 15
  plusSign := true
  tie := .toEven

example : numberLayout.render ⟨0x3fb999999999999a⟩ = "0.1" := by decide +kernel

example : numberLayout.render ⟨0x43f0000000000000⟩ = "1.8446744073709552e+19" := by
  decide +kernel

example : numberLayout.render ⟨0x3eb0c6f7a0b5ed8d⟩ = "1e-6" := by decide +kernel

namespace Expected

def display : Expected → String
  | record name => "struct " ++ name
  | boolean => "a boolean"
  | word => "usize"
  | map => "a map"

end Expected

namespace Found

def display : Found → String
  | null => "null"
  | boolean value => "boolean `" ++ toString value ++ "`"
  | integer value => "integer `" ++ toString value ++ "`"
  | floating value => "floating point `" ++ numberLayout.render value ++ "`"
  | text value => "string " ++ Text.quoted value
  | sequence => "sequence"
  | map => "map"

end Found

namespace Fault

def message : Fault → String
  | endInValue => "EOF while parsing a value"
  | endInText => "EOF while parsing a string"
  | endInObject => "EOF while parsing an object"
  | endInList => "EOF while parsing a list"
  | expectedValue => "expected value"
  | expectedIdentifier => "expected ident"
  | keyNotText => "key must be a string"
  | expectedColon => "expected `:`"
  | expectedObjectCommaOrEnd => "expected `,` or `\x7d`"
  | expectedListCommaOrEnd => "expected `,` or `]`"
  | trailingComma => "trailing comma"
  | trailingCharacters => "trailing characters"
  | invalidNumber => "invalid number"
  | numberOutOfRange => "number out of range"
  | invalidEscape => "invalid escape"
  | controlCharacter =>
      "control character (\\u0000-\\u001F) found while parsing a string"
  | unpairedEscape => "unexpected end of hex escape"
  | loneSurrogate => "lone leading surrogate in hex escape"
  | tooDeep => "recursion limit exceeded"
  | duplicateField name => "duplicate field `" ++ name ++ "`"
  | mismatch found expected =>
      "invalid type: " ++ found.display ++ ", expected " ++ expected.display
  | negativeWord value =>
      "invalid value: integer `" ++ toString value ++ "`, expected " ++ Expected.word.display
  | noVariant name => "data did not match any variant of untagged enum " ++ name

end Fault

abbrev Reader (Result : Type) := List Char → Except Fault (Result × List Char)

def isBlank (character : Char) : Bool :=
  character == ' ' || character == '\n' || character == '\t' || character == '\r'

def skipBlank (characters : List Char) : List Char :=
  characters.dropWhile isBlank

end Instrumentation.Json
