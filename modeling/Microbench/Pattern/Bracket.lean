import Microbench.Pattern.Escape

/-!
# Sets in brackets

A set in brackets lists characters, spans, escapes and further sets, in brackets of their own or
between colons. Two sets are joined by signs for intersection, difference and symmetric difference,
taken from left to right.
-/

namespace Microbench.Pattern

/-- A character or a set, in brackets; an assertion cannot stand there. -/
def readMember (f : Flags) : List Char → Option (Primitive × List Char)
  | '\\' :: rest =>
    match readEscape f rest with
    | some (.assertion _, _) => none
    | r => r
  | c :: rest => some (.letter c, rest)
  | [] => none

/-- A character that may be compared under the flags. -/
def Flags.letter? (f : Flags) (c : Char) : Option Char :=
  if f.unicode || c.toNat < 128 then some c else none

/-- A member, or the span from it to another one. -/
def readSpan (f : Flags) (cs : List Char) : Option (CharSet × List Char) := do
  let (start, rest) ← readMember f cs
  let alone : Option (CharSet × List Char) :=
    match start with
    | .letter c => (f.letter? c).map fun c => (.only c, skip f rest)
    | .set s => some (s, skip f rest)
    | .assertion _ => none
  match skip f rest with
  | [] => none
  | '-' :: after =>
    match skip f after with
    | ']' :: _ => alone
    | '-' :: _ => alone
    | [] => none
    | after => do
      let (finish, rest) ← readMember f after
      match start, finish with
      | .letter a, .letter b =>
        if (← f.letter? a) ≤ (← f.letter? b) then some (.span a b, rest) else none
      | _, _ => none
  | _ => alone

/-- A set between colons, after its opening bracket, if there is one. -/
def readNamed? (cs : List Char) : Option (CharSet × List Char) := do
  let rest ← match cs with
    | ':' :: rest => some rest
    | _ => none
  let (negated, rest) := match rest with
    | '^' :: rest => (true, rest)
    | rest => (false, rest)
  let s ← CharSet.named? (String.ofList (rest.takeWhile (· != ':')))
  match rest.dropWhile (· != ':') with
  | ':' :: ']' :: after => return (if negated then .complement s else s, after)
  | _ => none

/-- The operation that waits for its right side. -/
abbrev Pending := Option ((CharSet → CharSet → CharSet) × CharSet)

/-- The set when its last part is known. -/
def closePending (f : Flags) (pending : Pending) (s : CharSet) : CharSet :=
  match pending with
  | none => s
  | some (op, t) => op (f.fold t) (f.fold s)

/-- The hyphens that open a bracket. -/
def readHyphens (f : Flags) : Nat → List Char → List Char
  | 0, cs => cs
  | fuel + 1, cs =>
    match cs with
    | '-' :: rest => readHyphens f fuel (skip f rest)
    | cs => cs

mutual

/-- The set of a bracket, after the bracket. -/
def readBracket (f : Flags) : Nat → List Char → Option (CharSet × List Char)
  | 0, _ => none
  | fuel + 1, cs => do
    let (negated, cs) := match skip f cs with
      | '^' :: rest => (true, skip f rest)
      | cs => (false, cs)
    let rest := readHyphens f cs.length cs
    let start := if rest.length < cs.length then CharSet.only '-' else CharSet.empty
    let (start, rest) := match rest with
      | ']' :: after => if rest.length < cs.length then (start, rest) else (CharSet.only ']', after)
      | rest => (start, rest)
    let (s, after) ← readMembers f fuel none start rest
    let s := f.fold s
    return (if negated then .complement s else s, after)

/-- The members of a bracket up to its end. -/
def readMembers (f : Flags) :
    Nat → Pending → CharSet → List Char → Option (CharSet × List Char)
  | 0, _, _, _ => none
  | fuel + 1, pending, s, cs =>
    let operate (op : CharSet → CharSet → CharSet) (rest : List Char) :=
      readMembers f fuel (some (op, closePending f pending s)) .empty rest
    match skip f cs with
    | [] => none
    | ']' :: rest => some (closePending f pending s, rest)
    | '[' :: rest =>
      match readNamed? rest with
      | some (t, rest) => readMembers f fuel pending (.union s t) rest
      | none =>
        match readBracket f fuel rest with
        | some (t, rest) => readMembers f fuel pending (.union s t) rest
        | none => none
    | '&' :: '&' :: rest => operate .inter rest
    | '-' :: '-' :: rest => operate .diff rest
    | '~' :: '~' :: rest => operate .symmetricDiff rest
    | cs =>
      match readSpan f cs with
      | some (t, rest) => readMembers f fuel pending (.union s t) rest
      | none => none

end

end Microbench.Pattern
