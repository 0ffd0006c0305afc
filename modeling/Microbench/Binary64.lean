/-!
# Binary floating-point numbers as exact fractions

`Binary64.Value` reads the 64 bits of a float as a sign, a whole mantissa and a power of two, so
that printing, rounding and truncation work on whole numbers. `Binary64.nearest` goes the other
way: the float nearest to a fraction, a half going to the even neighbour.
-/

namespace Microbench

/-- What the bits of a float stand for: `± mantissa · 2 ^ exponent`, an infinity, or no number. -/
inductive Binary64.Value where
  | finite (negative : Bool) (mantissa : Nat) (exponent : Int)
  | infinite (negative : Bool)
  | nan
  deriving DecidableEq, Repr

namespace Binary64

/-- The exponent of the last bit of a number that is too small for a leading bit. -/
def leastExponent : Int := -1074

/-- Splits 64 bits into sign, mantissa (with its leading bit) and exponent. -/
def ofBits (bits : Nat) : Value :=
  let negative := bits / Nat.pow 2 63 % 2 == 1
  let field := bits / Nat.pow 2 52 % 2048
  let fraction := bits % Nat.pow 2 52
  if field == 2047 then
    if fraction == 0 then .infinite negative else .nan
  else if field == 0 then .finite negative fraction leastExponent
  else .finite negative (Nat.pow 2 52 + fraction) (leastExponent + (field - 1 : Nat))

/-- The exact value of a float. -/
def decode (x : Float) : Value := ofBits x.toBits.toNat

/-- The quotient rounded to the nearest whole number, a half going to the even neighbour. -/
def roundQuotient (num den : Nat) : Nat :=
  let q := num / den
  let r := num % den
  if 2 * r < den then q
  else if den < 2 * r then q + 1
  else if q % 2 == 0 then q else q + 1

/-- `num / den * 2 ^ -e` as a fraction of whole numbers. -/
def scaleBinary (num den : Nat) (e : Int) : Nat × Nat :=
  if 0 ≤ e then (num, den * Nat.pow 2 e.toNat) else (num * Nat.pow 2 (-e).toNat, den)

/-- The exponent at which the quotient has 53 bits, or the least one. -/
def exponentFor (num den : Nat) : Int :=
  let guess : Int := (Nat.log2 num : Int) - (Nat.log2 den : Int) - 53
  let (n, d) := scaleBinary num den guess
  -- the guess leaves the quotient 53 or 54 bits
  let e := if n / d < Nat.pow 2 53 then guess else guess + 1
  max leastExponent e

/-- The bits of the float nearest to a fraction, without its sign; an infinity when too large. -/
def nearestBits (num den : Nat) : Nat :=
  if num == 0 then 0
  else
    let e := exponentFor num den
    let (n, d) := scaleBinary num den e
    -- a carry out of the mantissa raises the exponent field, as it should
    let bits := (e - leastExponent).toNat * Nat.pow 2 52 + roundQuotient n d
    min bits (2047 * Nat.pow 2 52)

/-- The float nearest to `± num / den`. -/
def nearest (negative : Bool) (num den : Nat) : Float :=
  let bits := nearestBits num den
  Float.ofBits (UInt64.ofNat (if negative then Nat.pow 2 63 + bits else bits))

/-- The whole part of a float, towards zero; an infinity or no number has none. -/
def truncate? (x : Float) : Option Int :=
  match decode x with
  | .finite negative mantissa exponent =>
    let whole := if 0 ≤ exponent then mantissa * Nat.pow 2 exponent.toNat
      else mantissa / Nat.pow 2 (-exponent).toNat
    some (if negative then -(whole : Int) else whole)
  | _ => none

/-- The whole part of a float brought into `[lo, hi]`; no number counts as zero. -/
def clampWhole (lo hi : Int) (x : Float) : Int :=
  match decode x with
  | .nan => max lo (min hi 0)
  | .infinite negative => if negative then lo else hi
  | .finite .. => max lo (min hi ((truncate? x).getD 0))

/-- Whether a float is neither an infinity nor no number. -/
def isFinite (x : Float) : Bool :=
  match decode x with
  | .finite .. => true
  | _ => false

end Binary64

end Microbench
