import Microbench.Binary64

/-!
# The fewest digits that read back

A finite float other than zero owns the interval of numbers that round to it. `Decimal.shortest`
takes the coarsest decimal grid with a point in that interval, and of its points there the one
nearest to the float.
-/

namespace Microbench.Decimal

/-- A number `coefficient · 10 ^ exponent`. -/
structure Scientific where
  coefficient : Nat
  exponent : Int
  deriving DecidableEq, Repr

/-- A positive number and the interval that rounds to it, as whole multiples of `1 / den`. -/
structure Rounding where
  value : Nat
  lower : Nat
  upper : Nat
  /-- Whether the ends of the interval belong to it. -/
  closed : Bool
  den : Nat

namespace Rounding

/-- The interval of a positive float: half way to its neighbours, the gap below a power of two
being half as wide. The ends round to the float when its mantissa is even. -/
def ofParts (mantissa : Nat) (exponent : Int) : Rounding :=
  let narrow := mantissa == Nat.pow 2 52 && Binary64.leastExponent < exponent
  let below := if narrow then 1 else 2
  let e := exponent - 2
  let scale := if 0 ≤ e then Nat.pow 2 e.toNat else 1
  let den := if 0 ≤ e then 1 else Nat.pow 2 (-e).toNat
  { value := 4 * mantissa * scale
    lower := (4 * mantissa - below) * scale
    upper := (4 * mantissa + 2) * scale
    closed := mantissa % 2 == 0
    den }

/-- Whether `c · 10 ^ s` lies in the interval. -/
def holds (r : Rounding) (c : Nat) (s : Int) : Bool :=
  let point := if 0 ≤ s then c * Nat.pow 10 s.toNat * r.den else c * r.den
  let up := if 0 ≤ s then 1 else Nat.pow 10 (-s).toNat
  if r.closed then r.lower * up ≤ point && point ≤ r.upper * up
  else r.lower * up < point && point < r.upper * up

/-- The grid point at or below the number, with the distance to it and the width of the grid. -/
def below (r : Rounding) (s : Int) : Nat × Nat × Nat :=
  let up := if 0 ≤ s then 1 else Nat.pow 10 (-s).toNat
  let width := if 0 ≤ s then Nat.pow 10 s.toNat * r.den else r.den
  (r.value * up / width, r.value * up % width, width)

/-- The grid point of step `10 ^ s` nearest to the number, if one lies in the interval. -/
def point? (r : Rounding) (s : Int) : Option Nat :=
  let (c, rest, width) := r.below s
  match r.holds c s, r.holds (c + 1) s with
  | true, true => some (if 2 * rest < width then c else c + 1)
  | true, false => some c
  | false, true => some (c + 1)
  | false, false => none

/-- The number of powers of ten, at most `fuel`, that lift a fraction below one up to one. -/
def lift (num den : Nat) : Nat → Nat
  | 0 => 0
  | fuel + 1 => if den ≤ num then 0 else lift (num * 10) den fuel + 1

/-- The exponent of the leading decimal digit. -/
def leading (r : Rounding) : Int :=
  if r.den ≤ r.value then ((Nat.toDigits 10 (r.value / r.den)).length : Int) - 1
  else -(lift r.value r.den 400 : Int)

/-- Tries grids of `digits`, `digits + 1`, … digits. -/
def search (r : Rounding) (digits : Nat) : Nat → Scientific
  | 0 => ⟨r.value / r.den, 0⟩
  | fuel + 1 =>
    let s := r.leading - digits + 1
    match r.point? s with
    | some c => ⟨c, s⟩
    | none => search r (digits + 1) fuel

end Rounding

/-- Drops the zeros at the end of the coefficient, at most `fuel` of them. -/
def Scientific.trim (x : Scientific) : Nat → Scientific
  | 0 => x
  | fuel + 1 =>
    if x.coefficient ≠ 0 ∧ x.coefficient % 10 = 0 then
      Scientific.trim ⟨x.coefficient / 10, x.exponent + 1⟩ fuel
    else x

/-- The shortest decimal number that reads back as `mantissa · 2 ^ exponent`. -/
def shortest (mantissa : Nat) (exponent : Int) : Scientific :=
  if mantissa == 0 then ⟨0, 0⟩
  else ((Rounding.ofParts mantissa exponent).search 1 17).trim 20

end Microbench.Decimal
