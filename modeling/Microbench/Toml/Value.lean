import Microbench.Decimal.Layout
import Microbench.Moment
import Microbench.Text.Hexadecimal

/-!
# TOML values

The values of a settings file and the way one is written on a single line. The entries of a table
are in ascending order of their keys.

A text is written between the first of these delimiters that leaves it readable: double quotes,
single quotes, three double quotes, three single quotes; where none does, escapes are used.
-/

namespace Microbench

/-- A date, a time of day, or both, the distance from universal time being optional. -/
structure Toml.Datetime where
  date : Option (Nat × Nat × Nat) := none
  /-- Hour, minute, second and nanosecond. -/
  time : Option (Nat × Nat × Nat × Nat) := none
  /-- `some none` for universal time itself, otherwise the distance in minutes. -/
  offset : Option (Option Int) := none
  deriving DecidableEq, Repr

/-- A value of a settings file. -/
inductive Toml where
  | text (s : String)
  | integer (i : Int)
  | float (x : Float)
  | bool (b : Bool)
  | datetime (d : Toml.Datetime)
  | array (items : List Toml)
  | table (entries : List (String × Toml))

namespace Toml

/-- A date and a time as they are written. -/
def Datetime.text (d : Datetime) : String :=
  let two := Moment.digitsOf 2
  let date := match d.date with
    | some (y, m, day) => Moment.digitsOf 4 y ++ "-" ++ two m ++ "-" ++ two day
    | none => ""
  let mark := if d.date.isSome && d.time.isSome then "T" else ""
  let time := match d.time with
    | some (h, m, s, ns) =>
      let part := ((Moment.digitsOf 9 ns).toList.reverse.dropWhile (· == '0')).reverse
      two h ++ ":" ++ two m ++ ":" ++ two s ++
        (if part.isEmpty then "" else "." ++ String.ofList part)
    | none => ""
  let offset := match d.offset with
    | some none => "Z"
    | some (some minutes) =>
      let n := minutes.natAbs
      (if minutes < 0 then "-" else "+") ++ two (n / 60) ++ ":" ++ two (n % 60)
    | none => ""
  date ++ mark ++ time ++ offset

/-! ## Texts -/

/-- The longest run of a character. -/
def longestRun (c : Char) : List Char → Nat → Nat
  | [], run => run
  | d :: cs, run => if d = c then longestRun c cs (run + 1) else max run (longestRun c cs 0)

/-- A control character that has to be escaped wherever it stands. -/
def needsEscape (c : Char) : Bool :=
  c != '\t' && c != '\n' && (c.toNat < 0x20 || c.toNat == 0x7F)

/-- The delimiters of a text. -/
inductive Delimiter where
  | basic
  | literal
  | longBasic
  | longLiteral
  deriving DecidableEq, Repr

/-- The delimiter that a text is written with. -/
def Delimiter.choose (cs : List Char) : Delimiter :=
  let codes := cs.any needsEscape
  let backslash := cs.contains '\\'
  let newline := cs.contains '\n'
  let double := longestRun '"' cs 0
  let single := longestRun '\'' cs 0
  if !codes && !backslash && double == 0 && !newline then .basic
  else if !codes && single == 0 && !newline then .literal
  else if !codes && !backslash && double ≤ 2 then .longBasic
  else if !codes && single ≤ 2 then .longLiteral
  else if newline then .longBasic
  else .basic

/-- The delimiter of a key that has to be quoted. -/
def Delimiter.chooseForKey (cs : List Char) : Delimiter :=
  match choose cs with
  | .basic => .basic
  | .literal => .literal
  | _ => .basic

/-- Escapes a text. A line feed stands for itself in a long text, as do up to `quotes` double
quotes in a row; `run` of them came before. -/
def escape (long : Bool) (quotes run : Nat) : List Char → List Char
  | [] => []
  | c :: cs =>
    if c = '"' then
      if quotes < run + 1 then '\\' :: '"' :: escape long quotes 0 cs
      else '"' :: escape long quotes (run + 1) cs
    else
      let written :=
        if c.toNat = 8 then ['\\', 'b']
        else if c = '\t' then ['\\', 't']
        else if c = '\n' then if long then ['\n'] else ['\\', 'n']
        else if c.toNat = 12 then ['\\', 'f']
        else if c = '\r' then ['\\', 'r']
        else if c = '\\' then ['\\', '\\']
        else if needsEscape c then
          '\\' :: 'u' :: (Text.hexPadded 4 c.toNat).map Char.toUpper
        else [c]
      written ++ escape long quotes 0 cs

/-- A text between delimiters; a long text with a line feed starts on a line of its own. -/
def Delimiter.write (d : Delimiter) (cs : List Char) : List Char :=
  let start := if cs.contains '\n' then ['\n'] else []
  match d with
  | .basic => '"' :: (escape false 0 0 cs ++ ['"'])
  | .literal => '\'' :: (cs ++ ['\''])
  | .longBasic => ['"', '"', '"'] ++ start ++ escape true 2 0 cs ++ ['"', '"', '"']
  | .longLiteral => ['\'', '\'', '\''] ++ start ++ cs ++ ['\'', '\'', '\'']

/-- A character of a key that needs no quotes. -/
def isBareKeyCharacter (c : Char) : Bool :=
  Text.isAsciiLetter c || Text.isAsciiDigit c || c == '_' || c == '-'

/-- A key. -/
def writeKey (k : String) : List Char :=
  let cs := k.toList
  if !cs.isEmpty && cs.all isBareKeyCharacter then cs else (Delimiter.chooseForKey cs).write cs

/-! ## Values -/

/-- How floats are written: in positional notation, with a point. -/
def floatLayout : Decimal.Layout where
  leastPoint := none
  greatestPoint := none
  keepsFraction := true
  exponentMark := "e"
  nan := "nan"
  infinity := "inf"

mutual

/-- A value on one line. -/
def write : Toml → List Char
  | .text s => (Delimiter.choose s.toList).write s.toList
  | .integer i => (Decimal.signedText i).toList
  | .float x => (floatLayout.write x).toList
  | .bool b => if b then ['t', 'r', 'u', 'e'] else ['f', 'a', 'l', 's', 'e']
  | .datetime d => d.text.toList
  | .array [] => ['[', ']']
  | .array (v :: vs) => '[' :: (write v ++ writeItems vs)
  | .table [] => ['\x7b', '\x7d']
  | .table ((k, v) :: es) =>
    '\x7b' :: ' ' :: (writeKey k ++ [' ', '=', ' '] ++ write v ++ writeEntries es)

/-- The items after the first, and the closing bracket. -/
def writeItems : List Toml → List Char
  | [] => [']']
  | v :: vs => ',' :: ' ' :: (write v ++ writeItems vs)

/-- The entries after the first, and the closing bracket. -/
def writeEntries : List (String × Toml) → List Char
  | [] => [' ', '\x7d']
  | (k, v) :: es => ',' :: ' ' :: (writeKey k ++ [' ', '=', ' '] ++ write v ++ writeEntries es)

end

/-- A value as a text on one line. -/
def render (v : Toml) : String := String.ofList (write v)

/-- The entries with one more, in its place by key. -/
def place (key : String) (v : Toml) : List (String × Toml) → List (String × Toml)
  | [] => [(key, v)]
  | (k, w) :: rest => if key < k then (key, v) :: (k, w) :: rest else (k, w) :: place key v rest

/-- A table of the given entries, in order. -/
def ofEntries (entries : List (String × Toml)) : Toml :=
  .table (entries.foldl (fun es e => place e.1 e.2 es) [])

end Toml

end Microbench
