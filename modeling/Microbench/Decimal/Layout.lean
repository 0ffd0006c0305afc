import Microbench.Decimal.Digits
import Microbench.Decimal.Shortest

/-!
# Writing floats

`Layout` holds every choice that a format makes when it writes a float with the fewest digits:
where positional notation ends, whether a whole number keeps a fraction, how an exponent is
marked, and the words for what is no number. `Decimal.fixed` writes a fixed number of places.
-/

namespace Microbench.Decimal

/-- How a format writes floats. -/
structure Layout where
  /-- Positional notation is used when the position of the point is in this range. -/
  leastPoint : Option Int
  greatestPoint : Option Int
  /-- Whether a whole number is written with `.0`. -/
  keepsFraction : Bool
  /-- What stands before a positive exponent. -/
  exponentMark : String
  nan : String
  infinity : String

/-- Positional throughout, as few characters as possible. -/
def Layout.plain : Layout where
  leastPoint := none
  greatestPoint := none
  keepsFraction := false
  exponentMark := "e"
  nan := "NaN"
  infinity := "inf"

/-- Digits with the point `point` places after the first one's left side. -/
def positional (keepsFraction : Bool) (ds : List Char) (point : Int) : List Char :=
  if point ≤ 0 then
    '0' :: '.' :: (List.replicate (-point).toNat '0' ++ ds)
  else
    let p := point.toNat
    if ds.length ≤ p then
      ds ++ List.replicate (p - ds.length) '0' ++ (if keepsFraction then ['.', '0'] else [])
    else ds.take p ++ '.' :: ds.drop p

/-- One digit, a point and the others, then the exponent. -/
def exponential (mark : String) (ds : List Char) (point : Int) : List Char :=
  let e := point - 1
  let head := match ds with
    | [] => []
    | [d] => [d]
    | d :: rest => d :: '.' :: rest
  head ++ (if 0 ≤ e then mark.toList else ['e', '-']) ++ digits e.natAbs

/-- A number without its sign. -/
def Layout.magnitude (l : Layout) (x : Scientific) : List Char :=
  let ds := digits x.coefficient
  let point := x.exponent + ds.length
  if x.coefficient == 0 then if l.keepsFraction then ['0', '.', '0'] else ['0']
  else if l.leastPoint.all (· ≤ point) && l.greatestPoint.all (point ≤ ·) then
    positional l.keepsFraction ds point
  else exponential l.exponentMark ds point

/-- A float with the fewest digits that read back. -/
def Layout.write (l : Layout) (x : Float) : String :=
  match Binary64.decode x with
  | .nan => l.nan
  | .infinite negative => if negative then "-" ++ l.infinity else l.infinity
  | .finite negative mantissa exponent =>
    let body := String.ofList (l.magnitude (shortest mantissa exponent))
    if negative then "-" ++ body else body

/-- A float in plain positional notation. -/
def plain (x : Float) : String := Layout.plain.write x

/-- A float with `places` digits after the point, the exact value rounded to nearest and a half
going to the even neighbour. -/
def fixed (places : Nat) (x : Float) : String :=
  match Binary64.decode x with
  | .nan => Layout.plain.nan
  | .infinite negative =>
    if negative then "-" ++ Layout.plain.infinity else Layout.plain.infinity
  | .finite negative mantissa exponent =>
    let num := if 0 ≤ exponent then mantissa * Nat.pow 2 exponent.toNat else mantissa
    let den := if 0 ≤ exponent then 1 else Nat.pow 2 (-exponent).toNat
    let n := Binary64.roundQuotient (num * Nat.pow 10 places) den
    let ds := padLeft (places + 1) '0' (digits n)
    let whole := ds.take (ds.length - places)
    let part := ds.drop (ds.length - places)
    let body := String.ofList (if places == 0 then whole else whole ++ '.' :: part)
    if negative then "-" ++ body else body

end Microbench.Decimal
