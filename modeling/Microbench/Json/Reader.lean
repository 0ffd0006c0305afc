import Microbench.Json.Value
import Microbench.Text.Hexadecimal

/-!
# Reading documents

The text is read from the left; each step answers what it read and what is left. Blanks are the
space, the tab and the two line ends. A text holds no control character, and half a surrogate pair
is no character.
-/

namespace Microbench.Json

/-- Drops blanks. -/
def skipBlanks (cs : List Char) : List Char :=
  cs.dropWhile fun c => c == ' ' || c == '\n' || c == '\t' || c == '\r'

/-- The character after a backslash. -/
def escaped? : Char → Option Char
  | '"' => some '"'
  | '\\' => some '\\'
  | '/' => some '/'
  | 'b' => some '\x08'
  | 'f' => some '\x0c'
  | 'n' => some '\n'
  | 'r' => some '\r'
  | 't' => some '\t'
  | _ => none

/-- Reads a text after its opening quote. -/
def readText : List Char → Option (List Char × List Char)
  | [] => none
  | '"' :: rest => some ([], rest)
  | '\\' :: 'u' :: a :: b :: c :: d :: rest => do
    let first ← Text.hexValue? [a, b, c, d]
    if 0xDC00 ≤ first ∧ first < 0xE000 then none
    else if 0xD800 ≤ first ∧ first < 0xDC00 then
      match rest with
      | '\\' :: 'u' :: e :: f :: g :: h :: rest =>
        let second ← Text.hexValue? [e, f, g, h]
        if 0xDC00 ≤ second ∧ second < 0xE000 then
          let c := Char.ofNat (0x10000 + (first - 0xD800) * 0x400 + (second - 0xDC00))
          let (cs, left) ← readText rest
          pure (c :: cs, left)
        else none
      | _ => none
    else
      let (cs, left) ← readText rest
      pure (Char.ofNat first :: cs, left)
  | '\\' :: c :: rest => do
    let c ← escaped? c
    let (cs, left) ← readText rest
    pure (c :: cs, left)
  | c :: rest =>
    if c == '\\' || c.toNat < 32 then none
    else do
      let (cs, left) ← readText rest
      pure (c :: cs, left)

mutual

/-- Reads a document; at most `fuel` levels and items deep. -/
def readValue : Nat → List Char → Option (Json × List Char)
  | 0, _ => none
  | fuel + 1, cs =>
    match skipBlanks cs with
    | 'n' :: 'u' :: 'l' :: 'l' :: rest => some (.null, rest)
    | 't' :: 'r' :: 'u' :: 'e' :: rest => some (.bool true, rest)
    | 'f' :: 'a' :: 'l' :: 's' :: 'e' :: rest => some (.bool false, rest)
    | '"' :: rest => do
      let (s, rest) ← readText rest
      pure (.text (String.ofList s), rest)
    | '[' :: rest =>
      match skipBlanks rest with
      | ']' :: rest => some (.array [], rest)
      | rest => do
        let (vs, rest) ← readItems fuel rest
        pure (.array vs, rest)
    | '\x7b' :: rest =>
      match skipBlanks rest with
      | '\x7d' :: rest => some (.object [], rest)
      | rest => do
        let (fs, rest) ← readFields fuel rest
        pure (.object fs, rest)
    | cs => do
      let (n, rest) ← Numeral.scan cs
      pure (.number n, rest)

/-- Reads the items of a list, one at least, and the closing bracket. -/
def readItems : Nat → List Char → Option (List Json × List Char)
  | 0, _ => none
  | fuel + 1, cs => do
    let (v, rest) ← readValue fuel cs
    match skipBlanks rest with
    | ',' :: rest =>
      let (vs, rest) ← readItems fuel rest
      pure (v :: vs, rest)
    | ']' :: rest => pure ([v], rest)
    | _ => none

/-- Reads the fields of a record, one at least, and the closing bracket. -/
def readFields : Nat → List Char → Option (List (String × Json) × List Char)
  | 0, _ => none
  | fuel + 1, cs =>
    match skipBlanks cs with
    | '"' :: rest => do
      let (k, rest) ← readText rest
      match skipBlanks rest with
      | ':' :: rest =>
        let (v, rest) ← readValue fuel rest
        match skipBlanks rest with
        | ',' :: rest =>
          let (fs, rest) ← readFields fuel rest
          pure ((String.ofList k, v) :: fs, rest)
        | '\x7d' :: rest => pure ([(String.ofList k, v)], rest)
        | _ => none
      | _ => none
    | _ => none

end

/-- Reads a text that holds one document and nothing else. -/
def read? (s : String) : Option Json := do
  let cs := s.toList
  let (v, rest) ← readValue (2 * cs.length + 2) cs
  if (skipBlanks rest).isEmpty then pure v else none

end Microbench.Json
