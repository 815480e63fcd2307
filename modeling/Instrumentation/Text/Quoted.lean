import Instrumentation.Text.Printable

namespace Instrumentation.Text

/-! Text in quotes, as diagnostics show it: on one line, with every character
visible. -/

def hexDigits (number : Nat) : String :=
  String.ofList (Nat.toDigits 16 number)

/-- Quotes and backslashes are escaped, the common controls have short escapes,
and any other character without a glyph is written by its code point. -/
def quotedCharacter (character : Char) : String :=
  match character with
  | '"' => "\\\""
  | '\\' => "\\\\"
  | '\n' => "\\n"
  | '\r' => "\\r"
  | '\t' => "\\t"
  | _ =>
      if character.toNat = 0 then "\\0"
      else if isPrintable character then character.toString
      else "\\u\x7b" ++ hexDigits character.toNat ++ "\x7d"

def quoted (text : String) : String :=
  "\"" ++ String.join (text.toList.map quotedCharacter) ++ "\""

def quotedOption : Option String → String
  | none => "None"
  | some text => "Some(" ++ quoted text ++ ")"

end Instrumentation.Text
