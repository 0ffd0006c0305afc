import Microbench.Text.Character
import Microbench.Text.Hexadecimal

/-!
# Quoted texts

A text between double quotes in which every character that would not be seen, or would be seen
as something else, is escaped.
-/

namespace Microbench.Text

/-- How one character stands in a quoted text. -/
def escape (c : Char) : List Char :=
  if c == '\x00' then ['\\', '0']
  else if c == '\t' then ['\\', 't']
  else if c == '\n' then ['\\', 'n']
  else if c == '\r' then ['\\', 'r']
  else if c == '"' then ['\\', '"']
  else if c == '\\' then ['\\', '\\']
  else if extendsGrapheme c || !isPrintable c then
    ['\\', 'u', '\x7b'] ++ hex c.toNat ++ ['\x7d']
  else [c]

/-- A text between double quotes. -/
def quoted (s : String) : String := String.ofList ('"' :: s.toList.flatMap escape ++ ['"'])

/-- An optional text, shown as the quoted text in `Some(…)` or as `None`. -/
def quotedOption : Option String → String
  | some s => "Some(" ++ quoted s ++ ")"
  | none => "None"

end Microbench.Text
