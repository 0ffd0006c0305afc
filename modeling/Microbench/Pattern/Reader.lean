import Microbench.Pattern.Bracket

/-!
# Reading patterns

The notation of regular expressions without look-around and references to groups. A text that
does not follow it has no pattern, and neither has one whose pattern would grow beyond a limit
once its repetitions are written out.
-/

namespace Microbench

namespace Pattern

/-- What is known while a pattern is read. -/
structure Position where
  flags : Flags
  /-- The names of groups so far. -/
  names : List String
  rest : List Char

/-- The pattern of a character set. -/
def ofSet? (f : Flags) (s : CharSet) : Option Pattern := (f.admit? s).map .one

/-- The pattern of a primitive. -/
def ofPrimitive? (f : Flags) : Primitive → Option Pattern
  | .letter c => some (.one (f.fold (.only c)))
  | .set s => ofSet? f s
  | .assertion a => some (.assertion a)

/-- The pattern of a dot. -/
def dot? (f : Flags) : Option Pattern :=
  ofSet? f <|
    if f.dotAll then .all
    else if f.anyLineEnd then .complement (.union (.only '\n') (.only '\r'))
    else .complement (.only '\n')

/-- The start of a text or line. -/
def startOf (f : Flags) : Assertion :=
  if f.multiLine then if f.anyLineEnd then .lineStartAnyEnd else .lineStart else .textStart

/-- The end of a text or line. -/
def endOf (f : Flags) : Assertion :=
  if f.multiLine then if f.anyLineEnd then .lineEndAnyEnd else .lineEnd else .textEnd

/-- A primitive outside brackets. -/
def readPrimitive (f : Flags) : List Char → Option (Pattern × List Char)
  | '\\' :: rest => do
    let (p, rest) ← readEscape f rest
    return (← ofPrimitive? f p, rest)
  | '.' :: rest => (dot? f).map (·, rest)
  | '^' :: rest => some (.assertion (startOf f), rest)
  | '$' :: rest => some (.assertion (endOf f), rest)
  | c :: rest => some (.one (f.fold (.only c)), rest)
  | [] => none

/-- A count, with blanks around it. -/
def readCount (f : Flags) (cs : List Char) : Option (Nat × List Char) :=
  let cs := skip f (cs.dropWhile Text.isBlank)
  let digits := cs.takeWhile Decimal.isDigit
  let rest := (cs.dropWhile Decimal.isDigit).dropWhile Text.isBlank
  if digits.isEmpty || Nat.pow 2 32 ≤ Decimal.value digits then none
  else some (Decimal.value digits, skip f rest)

/-- The bounds of a repetition, after the brace. -/
def readBounds (f : Flags) (cs : List Char) : Option (Nat × Option Nat × List Char) := do
  let (least, rest) ← readCount f cs
  match rest with
  | '\x7d' :: rest => return (least, some least, rest)
  | ',' :: rest =>
    match skip f rest with
    | '\x7d' :: rest => return (least, none, rest)
    | rest =>
      let (most, rest) ← readCount f rest
      match rest with
      | '\x7d' :: rest => if least ≤ most then return (least, some most, rest) else none
      | _ => none
  | _ => none

/-- Drops the mark that a repetition shall be short. -/
def dropLazy : List Char → List Char
  | '?' :: rest => rest
  | cs => cs

/-- Sets a flag. -/
def setFlag? (f : Flags) (on : Bool) : Char → Option Flags
  | 'i' => some { f with caseless := on }
  | 'm' => some { f with multiLine := on }
  | 's' => some { f with dotAll := on }
  | 'R' => some { f with anyLineEnd := on }
  | 'u' => some { f with unicode := on }
  | 'x' => some { f with verbose := on }
  | 'U' => some f
  | _ => none

/-- Flags up to the sign behind them. No flag and no hyphen comes twice, and a hyphen is followed by a
flag. -/
def readFlags (f : Flags) (on : Bool) (seen : List Char) : List Char → Option (Flags × List Char)
  | [] => none
  | c :: rest =>
    if c = ':' || c = ')' then if seen.head? = some '-' then none else some (f, c :: rest)
    else if seen.contains c then none
    else if c = '-' then readFlags f false ('-' :: seen) rest
    else match setFlag? f on c with
      | some f => readFlags f on (c :: seen) rest
      | none => none

/-- Whether a character may stand in the name of a group. -/
def isNameCharacter (first : Bool) (c : Char) : Bool :=
  c == '_' || Text.isAlphabetic c ||
    (!first && (Text.isDecimalNumber c || c == '.' || c == '[' || c == ']'))

/-- The name of a group, after the angle bracket. -/
def readName (cs : List Char) : Option (String × List Char) :=
  let name := cs.takeWhile (· != '>')
  match name, cs.dropWhile (· != '>') with
  | c :: more, _ :: rest =>
    if isNameCharacter true c && more.all (isNameCharacter false) then
      some (String.ofList name, rest)
    else none
  | _, _ => none

/-- How a group opens. -/
inductive Opening where
  /-- Flags for the rest of the group around. -/
  | flags (f : Flags) (rest : List Char)
  | group (inside : Position)

/-- What follows the parenthesis that opens a group. -/
def readOpening (r : Position) : Option Opening :=
  match skip r.flags r.rest with
  | '?' :: '=' :: _ => none
  | '?' :: '!' :: _ => none
  | '?' :: '<' :: '=' :: _ => none
  | '?' :: '<' :: '!' :: _ => none
  | '?' :: 'P' :: '<' :: rest => named rest
  | '?' :: '<' :: rest => named rest
  | '?' :: rest =>
    match readFlags r.flags true [] rest with
    | some (f, ')' :: after) => if after.length + 1 = rest.length then none else some (.flags f after)
    | some (f, ':' :: after) => some (.group { r with flags := f, rest := after })
    | _ => none
  | rest => some (.group { r with rest })
where
  /-- A group with a name that no group before it has. -/
  named (cs : List Char) : Option Opening := do
    let (name, rest) ← readName cs
    if r.names.contains name then none
    else some (.group { r with names := name :: r.names, rest })

/-- A pattern behind one or none. -/
def after (p : Option Pattern) (q : Pattern) : Pattern :=
  match p with
  | some p => .sequence p q
  | none => q

mutual

/-- Alternatives up to the end or to a closing parenthesis. -/
def readAlternatives : Nat → Position → Option (Pattern × Position)
  | 0, _ => none
  | fuel + 1, r => do
    let (p, r) ← readSequence fuel none none r
    match r.rest with
    | '|' :: rest =>
      let (q, r) ← readAlternatives fuel { r with rest }
      return (.either p q, r)
    | _ => return (p, r)

/-- A sequence, of which `done` was read and `last` behind it, which may still be repeated. -/
def readSequence : Nat → Option Pattern → Option Pattern → Position → Option (Pattern × Position)
  | 0, _, _, _ => none
  | fuel + 1, done, last, r =>
    let settled : Option Pattern := match last with
      | some p => some (after done p)
      | none => done
    let again (least : Nat) (most : Option Nat) (rest : List Char) :=
      match last with
      | some p => readSequence fuel done (some (.repeated least most p)) { r with rest := dropLazy rest }
      | none => none
    let rest := skip r.flags r.rest
    match rest with
    | [] => some (settled.getD .empty, { r with rest })
    | ')' :: _ => some (settled.getD .empty, { r with rest })
    | '|' :: _ => some (settled.getD .empty, { r with rest })
    | '*' :: rest => again 0 none rest
    | '+' :: rest => again 1 none rest
    | '?' :: rest => again 0 (some 1) rest
    | '\x7b' :: rest =>
      match readBounds r.flags rest with
      | some (least, most, rest) => again least most (skip r.flags rest)
      | none => none
    | '[' :: rest => do
      let (s, rest) ← readBracket r.flags (2 * rest.length + 2) rest
      readSequence fuel settled (some (← ofSet? r.flags s)) { r with rest }
    | '(' :: rest =>
      match readOpening { r with rest } with
      | some (.flags flags rest) => readSequence fuel settled none { r with flags, rest }
      | some (.group inside) =>
        match readAlternatives fuel inside with
        | some (p, { names, rest := ')' :: rest, .. }) =>
          readSequence fuel settled (some p) { r with names, rest }
        | _ => none
      | none => none
    | cs =>
      match readPrimitive r.flags cs with
      | some (p, rest) => readSequence fuel settled (some p) { r with rest }
      | none => none

end

/-- Bytes that a set takes once the pattern is laid out. -/
def setSize : CharSet → Nat
  | .span first last => if first.toNat < 128 && last.toNat < 128 then 40 else 200
  | .listed spans => 40 * spans.length
  | .word => 45000
  | .digit => 3000
  | .blank => 600
  | .alphabetic => 40000
  | .complement s => setSize s + 200
  | .union s t => setSize s + setSize t
  | .inter s t => setSize s + setSize t
  | .caseless s => 2 * setSize s
  | .asciiCaseless s => 2 * setSize s

/-- Bytes that a pattern takes once its repetitions are written out. -/
def layoutSize : Pattern → Nat
  | .empty => 40
  | .one s => setSize s
  | .assertion _ => 40
  | .sequence p q => layoutSize p + layoutSize q
  | .either p q => layoutSize p + layoutSize q + 40
  | .repeated least most p => (max 1 (max least (most.getD 0))) * (layoutSize p + 40)

/-- The bytes that a pattern may take. -/
def sizeLimit : Nat := 10 * Nat.pow 2 20

/-- The pattern that a text denotes. -/
def read? (s : String) : Option Pattern :=
  let cs := s.toList
  match readAlternatives (2 * cs.length + 2) ⟨{}, [], cs⟩ with
  | some (p, { rest := [], .. }) => if layoutSize p ≤ sizeLimit then some p else none
  | _ => none

end Pattern

end Microbench
