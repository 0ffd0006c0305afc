import Microbench.Arithmetic
import Microbench.Decimal.Reading
import Microbench.Text.Hexadecimal
import Microbench.Toml.Value

/-!
# The simple parts of a settings file

Blanks, comments, keys, texts, numbers and dates. Each reader takes its part off the front of the
input and answers what is left; there is none if the input does not start with such a part.
-/

namespace Microbench.Toml

/-- What a reader answers: the part and the input behind it. -/
abbrev Reader (α : Type) := List Char → Option (α × List Char)

/-- Drops spaces and tabs. -/
def skipBlanks (cs : List Char) : List Char := cs.dropWhile fun c => c == ' ' || c == '\t'

/-- Takes a line end. -/
def newline? : List Char → Option (List Char)
  | '\n' :: rest => some rest
  | '\r' :: '\n' :: rest => some rest
  | _ => none

/-- A character of a comment. -/
def isCommentCharacter (c : Char) : Bool :=
  c == '\t' || (0x20 ≤ c.toNat && c.toNat ≤ 0x7E) || 0x80 ≤ c.toNat

/-- Drops a comment. -/
def skipComment : List Char → List Char
  | '#' :: rest => rest.dropWhile isCommentCharacter
  | cs => cs

/-- The rest of a line: blanks, a comment, and its end, which may be that of the input. -/
def lineEnd? (cs : List Char) : Option (List Char) :=
  let rest := skipComment (skipBlanks cs)
  if rest.isEmpty then some [] else newline? rest

/-- Drops blanks, comments and line ends, at most `fuel` of them. -/
def skipLines : Nat → List Char → List Char
  | 0, cs => cs
  | fuel + 1, cs =>
    match skipBlanks cs with
    | '#' :: rest =>
      match newline? (rest.dropWhile isCommentCharacter) with
      | some rest => skipLines fuel rest
      | none => '#' :: rest
    | cs =>
      match newline? cs with
      | some rest => skipLines fuel rest
      | none => cs

/-! ## Texts -/

/-- The character of a number, if it is one. -/
def scalar? (n : Nat) : Option Char := if n.isValidChar then some (Char.ofNat n) else none

/-- Reads what follows a backslash. -/
def readEscape : Reader Char
  | 'b' :: rest => some ('\x08', rest)
  | 't' :: rest => some ('\t', rest)
  | 'n' :: rest => some ('\n', rest)
  | 'f' :: rest => some ('\x0c', rest)
  | 'r' :: rest => some ('\r', rest)
  | '"' :: rest => some ('"', rest)
  | '\\' :: rest => some ('\\', rest)
  | 'u' :: a :: b :: c :: d :: rest => do
    return (← scalar? (← Text.hexValue? [a, b, c, d]), rest)
  | 'U' :: a :: b :: c :: d :: e :: f :: g :: h :: rest => do
    return (← scalar? (← Text.hexValue? [a, b, c, d, e, f, g, h]), rest)
  | _ => none

/-- A character that stands for itself in a text: no control character but the tab. -/
def isTextCharacter (c : Char) : Bool := isCommentCharacter c

/-- Reads a text up to its double quote. -/
def readBasic : Nat → Reader (List Char)
  | 0, _ => none
  | fuel + 1, cs =>
    match cs with
    | [] => none
    | '"' :: rest => some ([], rest)
    | '\\' :: rest => do
      let (c, rest) ← readEscape rest
      let (cs, rest) ← readBasic fuel rest
      pure (c :: cs, rest)
    | c :: rest =>
      if isTextCharacter c then do
        let (cs, rest) ← readBasic fuel rest
        pure (c :: cs, rest)
      else none

/-- Reads a text up to its single quote. -/
def readLiteral (cs : List Char) : Option (List Char × List Char) :=
  let body := cs.takeWhile fun c => isTextCharacter c && c != '\''
  match cs.drop body.length with
  | '\'' :: rest => some (body, rest)
  | _ => none

/-- A run of quotes in a long text, `n` of them: those that belong to the text, and whether the
text ends with them. More than five cannot stand in a row. -/
def quotesOf (n : Nat) : Option (Nat × Bool) :=
  if n < 3 then some (n, false) else if n ≤ 5 then some (n - 3, true) else none

/-- Reads a long text up to its three quotes; with escapes if the quotes are double. -/
def readLong (quote : Char) : Nat → Reader (List Char)
  | 0, _ => none
  | fuel + 1, cs =>
    match cs with
    | [] => none
    | c :: rest =>
      if c = quote then do
        let run := cs.takeWhile (· == quote)
        let (kept, ends) ← quotesOf run.length
        let rest := cs.drop run.length
        if ends then pure (List.replicate kept quote, rest)
        else
          let (body, rest) ← readLong quote fuel rest
          pure (List.replicate kept quote ++ body, rest)
      else if c = '\\' ∧ quote = '"' then
        match newline? (skipBlanks rest) with
        | some rest =>
          -- a line end after a backslash counts for nothing, nor do the blanks around it
          readLong quote fuel (rest.dropWhile fun d => d == ' ' || d == '\t' || d == '\n' || d == '\r')
        | none => do
          let (d, rest) ← readEscape rest
          let (body, rest) ← readLong quote fuel rest
          pure (d :: body, rest)
      else
        match newline? cs with
        | some rest => do
          let (body, rest) ← readLong quote fuel rest
          pure ('\n' :: body, rest)
        | none =>
          if isTextCharacter c then do
            let (body, rest) ← readLong quote fuel rest
            pure (c :: body, rest)
          else none

/-- Drops the line end at the start of a long text. -/
def dropFirstLineEnd (cs : List Char) : List Char := (newline? cs).getD cs

/-- Reads a text on one line. -/
def readShortText : Reader (List Char)
  | '"' :: rest => readBasic (rest.length + 1) rest
  | '\'' :: rest => readLiteral rest
  | _ => none

/-- Reads a text with its delimiters. -/
def readText : Reader (List Char)
  | '"' :: '"' :: '"' :: rest => readLong '"' (rest.length + 1) (dropFirstLineEnd rest)
  | '\'' :: '\'' :: '\'' :: rest => readLong '\'' (rest.length + 1) (dropFirstLineEnd rest)
  | cs => readShortText cs

/-! ## Keys -/

/-- Reads one name of a key. -/
def readName (cs : List Char) : Option (String × List Char) :=
  match cs.head? with
  | some c =>
    if c = '"' ∨ c = '\'' then (readShortText cs).map fun (k, rest) => (String.ofList k, rest)
    else
      let name := cs.takeWhile isBareKeyCharacter
      if name.isEmpty then none else some (String.ofList name, cs.drop name.length)
  | none => none

/-- Reads the names of a key, with dots between them and blanks around. -/
def readKey : Nat → Reader (List String)
  | 0, _ => none
  | fuel + 1, cs => do
    let (name, rest) ← readName (skipBlanks cs)
    match skipBlanks rest with
    | '.' :: rest =>
      let (names, rest) ← readKey fuel rest
      pure (name :: names, rest)
    | rest => pure ([name], rest)

/-! ## Numbers -/

/-- Digits of a kind after the first, an underscore between two of them being allowed. -/
def moreDigits (isDigit : Char → Bool) : List Char → List Char × List Char
  | '_' :: c :: rest =>
    if isDigit c then
      let (ds, rest) := moreDigits isDigit rest
      (c :: ds, rest)
    else ([], '_' :: c :: rest)
  | c :: rest =>
    if isDigit c then
      let (ds, rest) := moreDigits isDigit rest
      (c :: ds, rest)
    else ([], c :: rest)
  | [] => ([], [])

/-- Digits of a kind, one at least. -/
def readDigits (isDigit : Char → Bool) : Reader (List Char)
  | c :: rest =>
    if isDigit c then
      let (ds, rest) := moreDigits isDigit rest
      some (c :: ds, rest)
    else none
  | [] => none

/-- Digits of a whole number: zero, or digits that start with another one. -/
def readWhole : Reader (List Char)
  | '0' :: rest => some (['0'], rest)
  | cs => readDigits Decimal.isDigit cs

/-- A sign in front of a number. -/
def readSign : List Char → Bool × List Char
  | '-' :: rest => (true, rest)
  | '+' :: rest => (false, rest)
  | cs => (false, cs)

/-- The value of digits in a base. -/
def valueIn (base : Nat) (ds : List Char) : Nat :=
  ds.foldl (fun n c => base * n + (Text.hexDigit? c).getD 0) 0

/-- A digit of a base up to sixteen. -/
def isDigitIn (base : Nat) (c : Char) : Bool := (Text.hexDigit? c).any (· < base)

/-- The base that letters in front of digits stand for. -/
def base? : Char → Option Nat
  | 'x' => some 16
  | 'o' => some 8
  | 'b' => some 2
  | _ => none

/-- Reads an integer of 64 bits, in base ten or after the mark of another base. -/
def readInteger (cs : List Char) : Option (Int × List Char) :=
  let based := match cs with
    | '0' :: mark :: rest => (base? mark).map fun b => (b, rest)
    | _ => none
  match based with
  | some (base, rest) => do
    let (ds, rest) ← readDigits (isDigitIn base) rest
    let n := valueIn base ds
    if (n : Int) ≤ greatestSigned then pure ((n : Int), rest) else none
  | none => do
    let (negative, rest) := readSign cs
    let (ds, rest) ← readWhole rest
    let n : Int := if negative then -(Decimal.value ds : Int) else Decimal.value ds
    if leastSigned ≤ n ∧ n ≤ greatestSigned then pure (n, rest) else none

/-- The power of ten in front of the input, without its mark. -/
def readPower (cs : List Char) : Option (Int × List Char) := do
  match cs with
  | c :: rest =>
    if c = 'e' ∨ c = 'E' then
      let (negative, rest) := readSign rest
      let (ds, rest) ← readDigits Decimal.isDigit rest
      pure (if negative then -(Decimal.value ds : Int) else Decimal.value ds, rest)
    else none
  | [] => none

/-- A float that has a value. -/
def finite? (x : Decimal.Literal) : Option Float :=
  if Binary64.isFinite x.toFloat then some x.toFloat else none

/-- Reads a float: digits with a fraction or a power of ten or both, or one of the two words. -/
def readFloat (cs : List Char) : Option (Float × List Char) := do
  let (negative, rest) := readSign cs
  match rest with
  | 'i' :: 'n' :: 'f' :: rest => pure (Binary64.nearest negative (Nat.pow 2 1100) 1, rest)
  | 'n' :: 'a' :: 'n' :: rest => pure (Decimal.notANumber, rest)
  | _ =>
    let (whole, rest) ← readWhole rest
    match rest with
    | '.' :: rest =>
      let (part, rest) ← readDigits Decimal.isDigit rest
      let places : Int := part.length
      let digits := Decimal.value (whole ++ part)
      match readPower rest with
      | some (e, rest) => pure (← finite? ⟨negative, digits, e - places⟩, rest)
      | none => pure (← finite? ⟨negative, digits, -places⟩, rest)
    | _ =>
      let (e, rest) ← readPower rest
      pure (← finite? ⟨negative, Decimal.value whole, e⟩, rest)

/-! ## Dates -/

/-- Reads exactly `n` digits that stand for a number in a range. -/
def readField (n least greatest : Nat) (cs : List Char) : Option (Nat × List Char) :=
  let ds := cs.take n
  if ds.length = n ∧ ds.all Decimal.isDigit then
    let v := Decimal.value ds
    if least ≤ v ∧ v ≤ greatest then some (v, cs.drop n) else none
  else none

/-- Takes a character. -/
def take? (c : Char) : List Char → Option (List Char)
  | d :: rest => if c = d then some rest else none
  | [] => none

/-- Reads a date. -/
def readDate (cs : List Char) : Option ((Nat × Nat × Nat) × List Char) := do
  let (y, cs) ← readField 4 0 9999 cs
  let (m, cs) ← readField 2 1 12 (← take? '-' cs)
  let (d, cs) ← readField 2 1 (Moment.daysIn y m) (← take? '-' cs)
  pure ((y, m, d), cs)

/-- Reads a time of day. Digits beyond nanoseconds are dropped. -/
def readTime (cs : List Char) : Option ((Nat × Nat × Nat × Nat) × List Char) := do
  let (h, cs) ← readField 2 0 23 cs
  let (m, cs) ← readField 2 0 59 (← take? ':' cs)
  let (s, cs) ← readField 2 0 60 (← take? ':' cs)
  match cs with
  | '.' :: rest =>
    let ds := rest.takeWhile Decimal.isDigit
    if ds.isEmpty then none
    else
      let kept := ds.take 9
      pure ((h, m, s, Decimal.value kept * Nat.pow 10 (9 - kept.length)), rest.drop ds.length)
  | _ => pure ((h, m, s, 0), cs)

/-- Reads a distance from universal time. -/
def readOffset : Reader (Option Int)
  | 'Z' :: rest => some (none, rest)
  | 'z' :: rest => some (none, rest)
  | c :: rest =>
    if c = '+' ∨ c = '-' then do
      let (h, rest) ← readField 2 0 23 rest
      let (m, rest) ← readField 2 0 59 (← take? ':' rest)
      let minutes : Int := h * 60 + m
      pure (some (if c = '-' then -minutes else minutes), rest)
    else none
  | [] => none

/-- Reads a time after the mark that parts it from a date. -/
def readMarkedTime : Reader (Nat × Nat × Nat × Nat)
  | c :: rest => if c = 'T' ∨ c = 't' ∨ c = ' ' then readTime rest else none
  | [] => none

/-- Reads a date, a time or both. -/
def readDatetime (cs : List Char) : Option (Datetime × List Char) :=
  match readDate cs with
  | some (date, rest) =>
    match readMarkedTime rest with
    | some (time, rest) =>
      match readOffset rest with
      | some (offset, rest) => some (⟨some date, some time, some offset⟩, rest)
      | none => some (⟨some date, some time, none⟩, rest)
    | none => some (⟨some date, none, none⟩, rest)
  | none => (readTime cs).map fun (time, rest) => (⟨none, some time, none⟩, rest)

end Microbench.Toml
