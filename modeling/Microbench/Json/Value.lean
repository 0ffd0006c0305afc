import Microbench.Json.Numeral
import Microbench.Text.Hexadecimal

/-!
# Documents

A document of nested lists and records, and the way it is written over several lines: two spaces
for each level, one item a line, nothing between the brackets of what is empty.
-/

namespace Microbench

/-- A document. Fields keep their order, and a name may occur more than once. -/
inductive Json where
  | null
  | bool (b : Bool)
  | number (n : Json.Numeral)
  | text (s : String)
  | array (items : List Json)
  | object (fields : List (String × Json))

namespace Json

/-- A whole number. -/
def ofNat (n : Nat) : Json := .number (.ofNat n)

/-- An integer. -/
def ofInt (i : Int) : Json := .number (.ofInt i)

/-- A float; what is no finite number is null. -/
def ofFloat (x : Float) : Json := if Binary64.isFinite x then .number (.ofFloat x) else .null

/-- A text, or null. -/
def ofText? : Option String → Json
  | some s => .text s
  | none => .null

/-- How a character stands in a text. -/
def escape (c : Char) : List Char :=
  if c = '"' then ['\\', '"']
  else if c = '\\' then ['\\', '\\']
  else if c = '\n' then ['\\', 'n']
  else if c = '\r' then ['\\', 'r']
  else if c = '\t' then ['\\', 't']
  else if c.toNat = 8 then ['\\', 'b']
  else if c.toNat = 12 then ['\\', 'f']
  else if c.toNat < 32 then '\\' :: 'u' :: Text.hexPadded 4 c.toNat
  else [c]

/-- A text between quotes. -/
def quote (s : String) : List Char := '"' :: (s.toList.flatMap escape ++ ['"'])

/-- A new line at a level. -/
def newLine (level : Nat) : List Char := '\n' :: List.replicate (2 * level) ' '

mutual

/-- A document at a level. -/
def write (level : Nat) : Json → List Char
  | .null => ['n', 'u', 'l', 'l']
  | .bool true => ['t', 'r', 'u', 'e']
  | .bool false => ['f', 'a', 'l', 's', 'e']
  | .number n => n.text
  | .text s => quote s
  | .array [] => ['[', ']']
  | .array (v :: vs) =>
    '[' :: newLine (level + 1) ++ write (level + 1) v ++ writeItems level vs ++ newLine level ++ [']']
  | .object [] => ['\x7b', '\x7d']
  | .object ((k, v) :: fs) =>
    '\x7b' :: newLine (level + 1) ++ quote k ++ ':' :: ' ' :: write (level + 1) v ++
      writeFields level fs ++ newLine level ++ ['\x7d']

/-- The items after the first. -/
def writeItems (level : Nat) : List Json → List Char
  | [] => []
  | v :: vs => ',' :: newLine (level + 1) ++ write (level + 1) v ++ writeItems level vs

/-- The fields after the first. -/
def writeFields (level : Nat) : List (String × Json) → List Char
  | [] => []
  | (k, v) :: fs =>
    ',' :: newLine (level + 1) ++ quote k ++ ':' :: ' ' :: write (level + 1) v ++ writeFields level fs

end

/-- The document as a text. -/
def render (v : Json) : String := String.ofList (write 0 v)

end Json

end Microbench
