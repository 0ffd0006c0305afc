import Mathlib.Data.Rat.Floor
import Microbench.Arithmetic

/-!
# Exact fractions

Fractions are numbers to measure in: what is computed over an `Arithmetic` can be read in them
without any rounding but the one to whole numbers, which goes towards zero (`clampWhole_eq`).
-/

namespace Microbench

/-- Exact fractions. -/
instance Rational.arithmetic : Arithmetic ℚ where
  clampWhole lo hi q := max lo (min hi (q.num.tdiv q.den))

namespace Rational

variable {q r : ℚ}

/-- The whole part of a fraction, towards zero. -/
def truncated (q : ℚ) : Int := if 0 ≤ q then ⌊q⌋ else ⌈q⌉

theorem truncated_of_nonneg (nonneg : 0 ≤ q) : truncated q = ⌊q⌋ := if_pos nonneg

theorem truncated_of_neg (negative : q < 0) : truncated q = ⌈q⌉ := if_neg (not_le.mpr negative)

theorem tdiv_eq_truncated (q : ℚ) : q.num.tdiv q.den = truncated q := by
  rcases le_or_gt 0 q with nonneg | negative
  · rw [truncated_of_nonneg nonneg, Rat.floor_def',
      Int.tdiv_eq_ediv_of_nonneg (Rat.num_nonneg.mpr nonneg)]
  · have opposite : 0 ≤ -q.num := neg_nonneg.mpr (Rat.num_neg.mpr negative).le
    rw [truncated_of_neg negative, Rat.ceil_def', ← Int.tdiv_eq_ediv_of_nonneg opposite,
      Int.neg_tdiv, neg_neg]

theorem clampWhole_eq (lo hi : Int) (q : ℚ) :
    Arithmetic.clampWhole lo hi q = max lo (min hi (truncated q)) := by
  rw [← tdiv_eq_truncated]
  rfl

theorem truncated_mono (le : q ≤ r) : truncated q ≤ truncated r := by
  rcases le_or_gt 0 q with nonneg | negative
  · rw [truncated_of_nonneg nonneg, truncated_of_nonneg (nonneg.trans le)]
    exact Int.floor_le_floor le
  · rw [truncated_of_neg negative]
    rcases le_or_gt 0 r with nonneg' | negative'
    · rw [truncated_of_nonneg nonneg']
      exact (Int.ceil_nonpos.mpr negative.le).trans (Int.floor_nonneg.mpr nonneg')
    · rw [truncated_of_neg negative']
      exact Int.ceil_le_ceil le

/-- The quotient of whole numbers loses what their whole division loses. -/
theorem truncated_div (a b : Nat) : truncated ((a : ℚ) / (b : ℚ)) = ((a / b : Nat) : Int) := by
  rw [truncated_of_nonneg (div_nonneg (Nat.cast_nonneg _) (Nat.cast_nonneg _)),
    Rat.floor_natCast_div_natCast, Int.natCast_div]

end Rational

end Microbench
