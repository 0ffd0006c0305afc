import Microbench.Binary64

/-!
# Number systems to measure in

Durations and progress are computed in floats. Nothing in those computations depends on the
representation, so they are written over an `Arithmetic`: the four operations, the whole numbers,
and the whole part brought into a range. The same definitions then speak of exact fractions.
-/

namespace Microbench

/-- Numbers with the four operations and a clamped whole part. -/
class Arithmetic (α : Type) extends Add α, Sub α, Mul α, Div α, NatCast α where
  /-- The whole part, towards zero, brought into the range from the first bound to the second. -/
  clampWhole : Int → Int → α → Int

/-- Floats; a whole number goes to the nearest one. -/
instance Binary64.arithmetic : Arithmetic Float where
  natCast := Float.ofNat
  clampWhole := Binary64.clampWhole

/-- The bounds of a signed word of 64 bits. -/
def leastSigned : Int := -Nat.pow 2 63

/-- The greatest signed word of 64 bits. -/
def greatestSigned : Int := Nat.pow 2 63 - 1

/-- An integer brought into the range of a signed word. -/
def clampSigned (i : Int) : Int := max leastSigned (min greatestSigned i)

/-- An integer wrapped into the range of a signed word. -/
def wrapSigned (i : Int) : Int := i.bmod (Nat.pow 2 64)

/-- The greatest unsigned word of 64 bits. -/
def greatestWord : Nat := Nat.pow 2 64 - 1

end Microbench
