import Microbench.Toml.Token
import Microbench.Toml.Tree

/-!
# Reading settings files

Values nest less than eighty deep. A file is a sequence of lines, each a key with its value or the header
of a table; a byte order mark in front is passed over.
-/

namespace Microbench.Toml

/-- How deep values may nest, and how many names a key may have at most. -/
def deepest : Nat := 79

/-- The names in front of the last one, and the last one. -/
def splitKey (names : List String) : Option (List String × String) := do
  if deepest < names.length then none else return (names.dropLast, ← names.getLast?)

/-- Reads a dotted key and its equals sign. -/
def readKeySign (cs : List Char) : Option ((List String × String) × List Char) := do
  let (names, rest) ← readKey (cs.length + 1) cs
  let key ← splitKey names
  let rest ← take? '=' (skipBlanks rest)
  pure (key, skipBlanks rest)

/-- The two words for truth. -/
def readBool : Reader Bool
  | 't' :: 'r' :: 'u' :: 'e' :: rest => some (true, rest)
  | 'f' :: 'a' :: 'l' :: 's' :: 'e' :: rest => some (false, rest)
  | _ => none

/-- Reads a value that has no parts. -/
def readScalar (cs : List Char) : Option (Toml × List Char) :=
  match cs.head? with
  | some c =>
    if c = '"' ∨ c = '\'' then
      (readText cs).map fun (s, rest) => (.text (String.ofList s), rest)
    else
      ((readBool cs).map fun (b, rest) => (Toml.bool b, rest)).or <|
      ((readDatetime cs).map fun (d, rest) => (Toml.datetime d, rest)).or <|
      ((readFloat cs).map fun (x, rest) => (Toml.float x, rest)).or <|
      (readInteger cs).map fun (i, rest) => (Toml.integer i, rest)
  | none => none

mutual

/-- Reads a value at most `depth` levels deep; `fuel` bounds the steps. -/
def readValue (depth : Nat) : Nat → Reader Toml
  | 0, _ => none
  | fuel + 1, cs =>
    match cs with
    | '[' :: rest =>
      match depth with
      | 0 => none
      | depth + 1 => do
        let (items, rest) ← readItems depth fuel rest
        pure (.array items, rest)
    | '\x7b' :: rest =>
      match depth with
      | 0 => none
      | depth + 1 =>
        match skipBlanks rest with
        | '\x7d' :: rest => some (.table [], rest)
        | rest => do
          let (t, rest) ← readEntries depth fuel .root rest
          pure (t.finish, rest)
    | cs => readScalar cs

/-- Reads the items of a list and the closing bracket. -/
def readItems (depth : Nat) : Nat → Reader (List Toml)
  | 0, _ => none
  | fuel + 1, cs =>
    match skipLines cs.length cs with
    | ']' :: rest => some ([], rest)
    | rest => do
      let (v, rest) ← readValue depth fuel rest
      match skipLines rest.length rest with
      | ',' :: rest =>
        let (vs, rest) ← readItems depth fuel rest
        pure (v :: vs, rest)
      | ']' :: rest => pure ([v], rest)
      | _ => none

/-- Reads the entries of a table on one line and the closing bracket. -/
def readEntries (depth : Nat) : Nat → Item → Reader Item
  | 0, _, _ => none
  | fuel + 1, t, cs => do
    let ((path, key), rest) ← readKeySign cs
    let (v, rest) ← readValue depth fuel rest
    let t ← t.setDotted path key v
    match skipBlanks rest with
    | ',' :: rest => readEntries depth fuel t rest
    | '\x7d' :: rest => pure (t, rest)
    | _ => none

end

/-- A file being read: its tables, and the table that keys are added to. -/
structure Progress where
  tree : Item
  place : List String

/-- Reads the header of a table, or of the next table of a list. -/
def readHeader (p : Progress) (cs : List Char) : Option (Progress × List Char) := do
  match cs with
  | '[' :: '[' :: rest =>
    let (names, rest) ← readKey (rest.length + 1) rest
    let (path, key) ← splitKey names
    let rest ← take? ']' (skipBlanks rest)
    let rest ← take? ']' rest
    pure (⟨← p.tree.openNext path key, names⟩, ← lineEnd? rest)
  | '[' :: rest =>
    let (names, rest) ← readKey (rest.length + 1) rest
    let (path, key) ← splitKey names
    let rest ← take? ']' (skipBlanks rest)
    pure (⟨← p.tree.openTable path key, names⟩, ← lineEnd? rest)
  | _ => none

/-- Reads a key and its value. -/
def readSetting (p : Progress) (cs : List Char) : Option (Progress × List Char) := do
  let ((path, key), rest) ← readKeySign cs
  let (v, rest) ← readValue deepest (2 * rest.length + 2) rest
  let tree ← p.tree.changeAt p.place (Item.setDotted path key v)
  pure ({ p with tree }, ← lineEnd? rest)

/-- Reads the lines of a file, at most `fuel` of them. -/
def readLines : Nat → Progress → List Char → Option Progress
  | 0, _, _ => none
  | fuel + 1, p, cs =>
    match skipBlanks cs with
    | [] => some p
    | c :: rest =>
      if c = '#' ∨ c = '\n' ∨ c = '\r' then do readLines fuel p (← lineEnd? (c :: rest))
      else if c = '[' then do
        let (p, rest) ← readHeader p (c :: rest)
        readLines fuel p rest
      else do
        let (p, rest) ← readSetting p (c :: rest)
        readLines fuel p rest

/-- Reads a settings file: the table of its entries. -/
def read? (s : String) : Option Toml := do
  let cs := match s.toList with
    | '\uFEFF' :: rest => rest
    | cs => cs
  let p ← readLines (cs.length + 1) ⟨.root, []⟩ cs
  pure p.tree.finish

end Microbench.Toml
