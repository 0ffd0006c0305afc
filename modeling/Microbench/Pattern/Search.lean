import Microbench.Pattern.CharSet

/-!
# Patterns

A regular expression as a tree. What it matches is said by the places of a text: from a set of
places at which a match may start, `Pattern.step` leads to the places at which one may end. A text
is found by a pattern if it can be led from any place to any other.
-/

namespace Microbench

namespace Pattern

/-- A condition on a place between two characters. -/
inductive Assertion where
  | textStart
  | textEnd
  | lineStart
  | lineEnd
  /-- The same where a carriage return ends a line too. -/
  | lineStartAnyEnd
  | lineEndAnyEnd
  | wordBoundary (words : CharSet)
  | noWordBoundary (words : CharSet)
  | wordStart (words : CharSet)
  | wordEnd (words : CharSet)
  | noWordBefore (words : CharSet)
  | noWordAfter (words : CharSet)

/-- Whether the assertion holds between two characters, either of which may be missing. -/
def Assertion.holds (before after : Option Char) : Assertion → Bool
  | textStart => before.isNone
  | textEnd => after.isNone
  | lineStart => before.all (· == '\n')
  | lineEnd => after.all (· == '\n')
  | lineStartAnyEnd => before.all fun c => c == '\n' || (c == '\r' && after != some '\n')
  | lineEndAnyEnd => after.all fun c => c == '\r' || (c == '\n' && before != some '\r')
  | wordBoundary w => before.any w.holds != after.any w.holds
  | noWordBoundary w => before.any w.holds == after.any w.holds
  | wordStart w => !before.any w.holds && after.any w.holds
  | wordEnd w => before.any w.holds && !after.any w.holds
  | noWordBefore w => !before.any w.holds
  | noWordAfter w => !after.any w.holds

end Pattern

/-- A regular expression. -/
inductive Pattern where
  | empty
  | one (s : Pattern.CharSet)
  | assertion (a : Pattern.Assertion)
  | sequence (p q : Pattern)
  | either (p q : Pattern)
  /-- As often as the first number says at least, and as the second says at most. -/
  | repeated (least : Nat) (most : Option Nat) (p : Pattern)

namespace Pattern

/-- Places of one list and then those of another that are not in the first. -/
def join (ps qs : List Nat) : List Nat := ps ++ qs.filter fun i => !ps.contains i

/-- The places reached from some by any number of steps up to a bound, those themselves included. -/
def reach (step : List Nat → List Nat) : Nat → List Nat → List Nat
  | 0, ps => ps
  | n + 1, ps =>
    match (step ps).filter fun i => !ps.contains i with
    | [] => ps
    | new => reach step n (join ps new)

/-- The places reached by a number of steps. -/
def times (step : List Nat → List Nat) : Nat → List Nat → List Nat
  | 0, ps => ps
  | n + 1, ps =>
    match step ps with
    | [] => []
    | qs => times step n qs

/-- The places reached from some by at most a number of steps. -/
def upTo (step : List Nat → List Nat) : Nat → List Nat → List Nat
  | 0, ps => ps
  | n + 1, ps =>
    match step ps with
    | [] => ps
    | qs => join ps (upTo step n qs)

/-- The character before a place. -/
def before? (text : Array Char) : Nat → Option Char
  | 0 => none
  | i + 1 => text[i]?

/-- The places at which a match can end that starts at one of the given places. -/
def step (text : Array Char) : Pattern → List Nat → List Nat
  | empty, ps => ps
  | one s, ps => (ps.filter fun i => (text[i]?).any s.holds).map (· + 1)
  | assertion a, ps => ps.filter fun i => a.holds (before? text i) text[i]?
  | sequence p q, ps => q.step text (p.step text ps)
  | either p q, ps => join (p.step text ps) (q.step text ps)
  | repeated least none p, ps => reach (p.step text) (text.size + 1) (times (p.step text) least ps)
  | repeated least (some most) p, ps =>
    let start := times (p.step text) least ps
    if least + text.size < most then reach (p.step text) (text.size + 1) start
    else upTo (p.step text) (most - least) start

/-- Whether a part of the text matches. -/
def finds (p : Pattern) (text : String) : Bool :=
  let cs := text.toList.toArray
  !(p.step cs (List.range (cs.size + 1))).isEmpty

end Pattern

end Microbench
