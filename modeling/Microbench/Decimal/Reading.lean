import Microbench.Binary64
import Microbench.Decimal.Digits
import Microbench.Text.Character

/-!
# Reading floats

A decimal number is taken apart into a sign, a coefficient and a power of ten; the float is the
one nearest to that number. A number beyond the largest float reads as an infinity, one nearer to
zero than half the smallest as zero.
-/

namespace Microbench.Decimal

/-- The decimal number `± coefficient · 10 ^ exponent`. -/
structure Literal where
  negative : Bool
  coefficient : Nat
  exponent : Int
  deriving DecidableEq, Repr

/-- The float nearest to a decimal number. -/
def Literal.toFloat (x : Literal) : Float :=
  let places := (digits x.coefficient).length
  -- powers of ten far outside the range of floats are never computed
  if x.coefficient == 0 || x.exponent + places < -400 then Binary64.nearest x.negative 0 1
  else if 400 < x.exponent + places then Binary64.nearest x.negative (Nat.pow 2 1100) 1
  else if 0 ≤ x.exponent then
    Binary64.nearest x.negative (x.coefficient * Nat.pow 10 x.exponent.toNat) 1
  else Binary64.nearest x.negative x.coefficient (Nat.pow 10 (-x.exponent).toNat)

/-- An optional sign in front: whether it is a minus, and what follows. -/
def splitSign : List Char → Bool × List Char
  | '+' :: rest => (false, rest)
  | '-' :: rest => (true, rest)
  | cs => (false, cs)

/-- The power of ten after an exponent mark. -/
def exponent? : List Char → Option Int
  | [] => some 0
  | c :: rest =>
    if c == 'e' || c == 'E' then
      let (negative, ds) := splitSign rest
      if ds.isEmpty || !ds.all isDigit then none
      else some (if negative then -(value ds : Int) else value ds)
    else none

/-- Digits, with a point before, among or after them, and an optional power of ten. -/
def literal? (negative : Bool) (cs : List Char) : Option Literal :=
  let whole := cs.takeWhile isDigit
  let rest := cs.dropWhile isDigit
  let (part, rest) := match rest with
    | '.' :: more => (more.takeWhile isDigit, more.dropWhile isDigit)
    | _ => ([], rest)
  if whole.isEmpty && part.isEmpty then none
  else
    (exponent? rest).map fun e => ⟨negative, value (whole ++ part), e - part.length⟩

/-- Whether a text is one of the words for an infinity, in any case. -/
def isInfinityWord (cs : List Char) : Bool :=
  let w := String.ofList (cs.map Text.asciiLower)
  w == "inf" || w == "infinity"

/-- Whether a text is the word for no number, in any case. -/
def isNanWord (cs : List Char) : Bool := String.ofList (cs.map Text.asciiLower) == "nan"

/-- The float that is no number. -/
def notANumber : Float := Float.ofBits 0x7FF8000000000000

/-- Reads a float: a decimal number or one of the words for what is no number, after a sign. -/
def readFloat (s : String) : Option Float :=
  let (negative, body) := splitSign s.toList
  if isInfinityWord body then some (Binary64.nearest negative (Nat.pow 2 1100) 1)
  else if isNanWord body then some notANumber
  else (literal? negative body).map (·.toFloat)

end Microbench.Decimal
