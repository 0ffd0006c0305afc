import Microbench.Arithmetic
import Microbench.Decimal.Layout
import Microbench.Decimal.Reading

/-!
# Numbers in a document

A `Numeral` is a number as it is spelled: sign, digits, digits after the point, power of ten. Its
spelling decides what it is read as: without point and power it is a whole number if a word can
hold it, otherwise a float.

The float is computed in the document format's own way: the digits that fit into a word, times a
float power of ten. The result can be off by one in the last place; a number beyond the largest
float is an error.
-/

namespace Microbench.Json

/-- A number as it is spelled. -/
structure Numeral where
  negative : Bool
  /-- The digits in front of the point. -/
  whole : List Char
  /-- The digits after the point. -/
  fraction : Option (List Char) := none
  /-- What stands between the mark of a power and its digits, and the digits. -/
  power : Option (List Char × List Char) := none
  deriving DecidableEq, Repr

namespace Numeral

/-- The spelling. -/
def text (n : Numeral) : List Char :=
  (if n.negative then ['-'] else []) ++ n.whole ++
    (match n.fraction with | some ds => '.' :: ds | none => []) ++
    (match n.power with | some (sign, ds) => 'e' :: (sign ++ ds) | none => [])

/-- The digits after a point, if there is one. -/
def scanFraction : List Char → Option (Option (List Char) × List Char)
  | '.' :: rest =>
    let ds := rest.takeWhile Decimal.isDigit
    if ds.isEmpty then none else some (some ds, rest.dropWhile Decimal.isDigit)
  | cs => some (none, cs)

/-- The sign in front of the digits of a power. -/
def scanSign : List Char → List Char × List Char
  | '+' :: rest => (['+'], rest)
  | '-' :: rest => (['-'], rest)
  | cs => ([], cs)

/-- The power of ten, if there is one. -/
def scanPower : List Char → Option (Option (List Char × List Char) × List Char)
  | c :: rest =>
    if c = 'e' ∨ c = 'E' then
      let (sign, rest) := scanSign rest
      let ds := rest.takeWhile Decimal.isDigit
      if ds.isEmpty then none else some (some (sign, ds), rest.dropWhile Decimal.isDigit)
    else some (none, c :: rest)
  | [] => some (none, [])

/-- Takes a number off the front of a text. Only zero itself starts with the digit zero. -/
def scan (cs : List Char) : Option (Numeral × List Char) := do
  let (negative, cs) := match cs with
    | '-' :: rest => (true, rest)
    | _ => (false, cs)
  let whole := cs.takeWhile Decimal.isDigit
  if whole.isEmpty || (whole.head? == some '0' && 1 < whole.length) then none
  else
    let (fraction, cs) ← scanFraction (cs.dropWhile Decimal.isDigit)
    let (power, cs) ← scanPower cs
    pure (⟨negative, whole, fraction, power⟩, cs)

/-- A whole number. -/
def ofNat (n : Nat) : Numeral := ⟨false, Decimal.digits n, none, none⟩

/-- An integer. -/
def ofInt (i : Int) : Numeral := ⟨i < 0, Decimal.digits i.natAbs, none, none⟩

/-- How floats are spelled: a point always, and a power of ten for the very small and large. -/
def floatLayout : Decimal.Layout where
  leastPoint := some (-4)
  greatestPoint := some 16
  keepsFraction := true
  exponentMark := "e+"
  nan := "null"
  infinity := "null"

/-- A finite float. -/
def ofFloat (x : Float) : Numeral :=
  match scan (floatLayout.write x).toList with
  | some (n, _) => n
  | none => ofNat 0

/-- What a number is read as. -/
inductive Value where
  | whole (n : Nat)
  /-- The integer `-(n + 1)`. -/
  | belowZero (n : Nat)
  | float (x : Float)

/-- The digits that fit into a word after `start`, and how many were left out. -/
def fitting (start : Nat) : List Char → Nat × List Char
  | [] => (start, [])
  | c :: cs =>
    let next := Decimal.accumulate start [c]
    if next ≤ greatestWord then fitting next cs else (start, c :: cs)

/-- The float power of ten. -/
def powerOfTen (e : Nat) : Float := Binary64.nearest false (Nat.pow 10 e) 1

/-- A significand times a power of ten, in steps of float multiplications and divisions. Each step
but the last divides by the greatest power of ten; after eight of them nothing is left. -/
def scaled (f : Float) (e : Int) : Nat → Option Float
  | 0 => some f
  | fuel + 1 =>
    if e.natAbs ≤ 308 then
      if 0 ≤ e then
        let g := f * powerOfTen e.natAbs
        if Binary64.isFinite g then some g else none
      else some (f / powerOfTen e.natAbs)
    else if f == 0.0 then some f
    else if 0 ≤ e then none
    else scaled (f / powerOfTen 308) (e + 308) fuel

/-- The greatest signed word of 32 bits, which bounds a power of ten. -/
def greatestPower : Nat := Nat.pow 2 31 - 1

/-- The float that a number with a point, a power or too many digits is read as. -/
def float? (n : Numeral) : Option Float := do
  let (significand, left) := fitting 0 n.whole
  let (significand, shift) :=
    match n.fraction with
    | none => (significand, (left.length : Int))
    | some ds =>
      let (s, leftOfFraction) := fitting significand ds
      (s, (left.length : Int) - (ds.length - leftOfFraction.length : Nat))
  let signed (x : Float) : Float := if n.negative then -x else x
  let start : Float := Float.ofNat significand
  match n.power with
  | none => return signed (← scaled start shift 8)
  | some (sign, ds) =>
    let e := Decimal.value ds
    let below := sign == ['-']
    if greatestPower < e then
      if significand ≠ 0 ∧ !below then none else return signed 0.0
    else
      let power := if below then shift - e else shift + e
      return signed (← scaled start power 8)

/-- What the number is read as, if it is not beyond the largest float. -/
def value? (n : Numeral) : Option Value :=
  let m := Decimal.value n.whole
  if n.fraction.isSome || n.power.isSome || greatestWord < m then n.float?.map .float
  else if !n.negative then some (.whole m)
  else if 0 < m ∧ m ≤ Nat.pow 2 63 then some (.belowZero (m - 1))
  else some (.float (-(Float.ofNat m)))

end Numeral

end Microbench.Json
