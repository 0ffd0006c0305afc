/-!
# Decimal digits

Whole numbers written in base ten, and texts of digits read back. A text of digits is read from
the left, so leading zeros change nothing.
-/

namespace Microbench.Decimal

/-- The value of a digit character. -/
def digit? (c : Char) : Option Nat :=
  if '0' ≤ c ∧ c ≤ '9' then some (c.toNat - '0'.toNat) else none

/-- Whether a character is one of the ten digits. -/
def isDigit (c : Char) : Bool := (digit? c).isSome

/-- The digits of a whole number, most significant first. -/
def digits (n : Nat) : List Char := Nat.toDigits 10 n

/-- A whole number in base ten. -/
def text (n : Nat) : String := String.ofList (digits n)

/-- A signed whole number in base ten. -/
def signedText (i : Int) : String :=
  if i < 0 then "-" ++ text i.natAbs else text i.natAbs

/-- Continues a number with further digits; characters that are no digits are passed over. -/
def accumulate (start : Nat) (cs : List Char) : Nat :=
  cs.foldl (fun n c => match digit? c with | some d => 10 * n + d | none => n) start

/-- The value of a text of digits. -/
def value (cs : List Char) : Nat := accumulate 0 cs

/-- A number of at most `limit`: digits, one at least, a plus sign in front being allowed. -/
def readUnsigned (limit : Nat) (s : String) : Option Nat :=
  let body := match s.toList with
    | '+' :: rest => rest
    | cs => cs
  if body.isEmpty || !body.all isDigit then none
  else
    let n := value body
    if n ≤ limit then some n else none

/-- A number in `[lo, hi]`: digits, one at least, after an optional sign. -/
def readSigned (lo hi : Int) (s : String) : Option Int :=
  let (negative, body) := match s.toList with
    | '+' :: rest => (false, rest)
    | '-' :: rest => (true, rest)
    | cs => (false, cs)
  if body.isEmpty || !body.all isDigit then none
  else
    let n : Int := if negative then -(value body : Int) else value body
    if lo ≤ n ∧ n ≤ hi then some n else none

/-- The text padded on the left with a character up to a width. -/
def padLeft (width : Nat) (c : Char) (cs : List Char) : List Char :=
  List.replicate (width - cs.length) c ++ cs

end Microbench.Decimal
