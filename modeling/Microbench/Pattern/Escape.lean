import Microbench.Decimal.Digits
import Microbench.Pattern.Search
import Microbench.Text.Hexadecimal

/-!
# Escapes

What may follow a backslash in a pattern: a character that stands for itself, a control
character, a character by its number, a set of characters or an assertion. Flags say how characters
are compared and what counts as a word.
-/

namespace Microbench.Pattern

/-- How a part of a pattern is meant. -/
structure Flags where
  caseless : Bool := false
  multiLine : Bool := false
  /-- A dot stands for the end of a line too. -/
  dotAll : Bool := false
  /-- A carriage return ends a line too. -/
  anyLineEnd : Bool := false
  /-- Characters beyond ASCII count. -/
  unicode : Bool := true
  /-- Blanks and comments do not count. -/
  verbose : Bool := false

/-- What a letter or an escape stands for. -/
inductive Primitive where
  | letter (c : Char)
  | set (s : CharSet)
  | assertion (a : Assertion)

/-- Drops a comment up to its line end. -/
def dropComment (cs : List Char) : List Char := (cs.dropWhile (· != '\n')).drop 1

/-- Drops blanks and comments where they do not count. -/
def dropIgnored (f : Flags) : Nat → List Char → List Char
  | 0, cs => cs
  | fuel + 1, cs =>
    if !f.verbose then cs
    else match cs with
      | '#' :: rest => dropIgnored f fuel (dropComment rest)
      | c :: rest => if Text.isBlank c then dropIgnored f fuel rest else cs
      | [] => []

/-- Drops what does not count. -/
def skip (f : Flags) (cs : List Char) : List Char := dropIgnored f cs.length cs

/-- The set in which letters are compared under the flags. -/
def Flags.fold (f : Flags) (s : CharSet) : CharSet :=
  if !f.caseless then s else if f.unicode then .caseless s else .asciiCaseless s

/-- The characters of words. -/
def Flags.words (f : Flags) : CharSet := if f.unicode then .word else .asciiWord

/-- Whether a set may be used: without the characters beyond ASCII it holds none of them. -/
def Flags.admits (f : Flags) (s : CharSet) : Bool :=
  f.unicode || !(List.range 128).any fun n => s.holds (Char.ofNat (128 + n))

/-- A set that may be used. -/
def Flags.admit? (f : Flags) (s : CharSet) : Option CharSet := if f.admits s then some s else none

/-- The character with a number. -/
def charOf? (n : Nat) : Option Char := if n.isValidChar then some (Char.ofNat n) else none

/-- A character by its number, after the letter that says how many digits it has. -/
def readNumbered (f : Flags) (digits : Nat) (cs : List Char) : Option (Char × List Char) :=
  match skip f cs with
  | '\x7b' :: rest => do
    let inside := rest.takeWhile (· != '\x7d')
    let after ← match rest.dropWhile (· != '\x7d') with
      | _ :: after => some after
      | [] => none
    let c ← charOf? (← Text.hexValue? (if f.verbose then inside.filter (!Text.isBlank ·) else inside))
    return (c, after)
  | cs => do
    if cs.length < digits then none
    let n ← Text.hexValue? (cs.take digits)
    if !f.unicode && digits = 2 && 127 < n then none
    return (← charOf? n, cs.drop digits)

/-- The name before a sign and the value after it. -/
def cutProperty (name : List Char) : Bool × List Char :=
  let isSign (c : Char) : Bool := c == '=' || c == ':'
  match name.dropWhile (!isSign ·) with
  | [] => (false, name)
  | _ :: value =>
    let key := name.takeWhile (!isSign ·)
    (key.getLast? == some '!', value)

/-- Whether a key asks for a category. -/
def isCategoryKey (name : List Char) : Bool :=
  let key := (name.takeWhile fun c => c != '=' && c != ':').filter fun c => c.isAlpha
  ["gc", "generalcategory"].contains (String.ofList (key.map Text.asciiLower))

/-- A property, after its letter; `negated` if the letter was a capital. -/
def readProperty (f : Flags) (negated : Bool) (cs : List Char) : Option (CharSet × List Char) := do
  let (name, after) ← match skip f cs with
    | '\x7b' :: rest =>
      match rest.dropWhile (· != '\x7d') with
      | _ :: after => some (rest.takeWhile (· != '\x7d'), after)
      | [] => none
    | '\\' :: _ => none
    | c :: rest => some ([c], rest)
    | [] => none
  if !f.unicode then none
  let (differs, value) := cutProperty name
  if value.length < name.length && !isCategoryKey name then none
  let s := f.fold (← CharSet.property? value)
  return (if negated != differs then .complement s else s, after)

/-- The set of a letter such as `d`, in the script of the flags. -/
def letterSet? (f : Flags) (c : Char) : Option CharSet :=
  match c with
  | 'd' => some (if f.unicode then .digit else .asciiDigit)
  | 's' => some (if f.unicode then .blank else .asciiBlank)
  | 'w' => some f.words
  | 'D' => some (.complement (if f.unicode then .digit else .asciiDigit))
  | 'S' => some (.complement (if f.unicode then .blank else .asciiBlank))
  | 'W' => some (.complement f.words)
  | _ => none

/-- The control character of a letter. -/
def control? (c : Char) : Option Char :=
  [('a', '\x07'), ('f', '\x0c'), ('t', '\t'), ('n', '\n'), ('r', '\r'), ('v', '\x0b')].lookup c

/-- The assertion of a letter. -/
def assertion? (f : Flags) (c : Char) : Option Assertion :=
  match c with
  | 'A' => some .textStart
  | 'z' => some .textEnd
  | 'b' => some (.wordBoundary f.words)
  | 'B' => some (.noWordBoundary f.words)
  | '<' => some (.wordStart f.words)
  | '>' => some (.wordEnd f.words)
  | _ => none

/-- The kind of word boundary with a name. -/
def boundary? (f : Flags) (name : String) : Option Assertion :=
  [("start", .wordStart f.words), ("end", .wordEnd f.words), ("start-half", .noWordBefore f.words),
    ("end-half", .noWordAfter f.words)].lookup name

/-- A word boundary, whose kind may follow in braces; braces around anything else but a name are left
for what comes next. -/
def readBoundary (f : Flags) (cs : List Char) : Option (Primitive × List Char) :=
  let isNamed (c : Char) : Bool := Text.isAsciiLetter c || c == '-'
  match cs with
  | '\x7b' :: rest =>
    match skip f rest with
    | [] => none
    | c :: inside =>
      if !isNamed c then some (.assertion (.wordBoundary f.words), cs)
      else
        let name := (c :: inside).takeWhile isNamed
        match skip f ((c :: inside).dropWhile isNamed) with
        | '\x7d' :: after => (boundary? f (String.ofList name)).map fun a => (.assertion a, after)
        | _ => none
  | cs => some (.assertion (.wordBoundary f.words), cs)

/-- What follows a backslash. -/
def readEscape (f : Flags) : List Char → Option (Primitive × List Char)
  | [] => none
  | c :: rest =>
    let letter (r : Char × List Char) : Primitive × List Char := (.letter r.1, r.2)
    if c = 'x' then (readNumbered f 2 rest).map letter
    else if c = 'u' then (readNumbered f 4 rest).map letter
    else if c = 'U' then (readNumbered f 8 rest).map letter
    else if c = 'p' || c = 'P' then (readProperty f (c = 'P') rest).map fun (s, cs) => (.set s, cs)
    else if c = 'b' then readBoundary f rest
    else match letterSet? f c, control? c, assertion? f c with
      | some s, _, _ => some (.set s, rest)
      | _, some k, _ => some (.letter k, rest)
      | _, _, some a => some (.assertion a, rest)
      | _, _, _ =>
        if 127 < c.toNat || Text.isAsciiLetter c || Text.isAsciiDigit c then none
        else some (.letter c, rest)

end Microbench.Pattern
