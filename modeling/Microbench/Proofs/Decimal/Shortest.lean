import Mathlib
import Microbench.Decimal.Shortest
import Microbench.Proofs.Binary64.Nearest
import Microbench.Proofs.Decimal.Digits

/-!
# The shortest decimal number lies in the interval

What `Decimal.shortest` returns rounds back to the float that it was made of: `shortest_rounds`. A
grid of seventeen digits is finer than the interval is wide, so the search ends there at the latest.
-/

namespace Microbench.Decimal

open Binary64

/-- The value of a decimal number. -/
def Scientific.ratio (x : Scientific) : ℚ := x.coefficient * 10 ^ x.exponent

/-! ## The interval as fractions -/

/-- A power of two as a fraction of whole numbers. -/
theorem scale_ratio (a : Int) :
    0 < (if 0 ≤ a then 1 else 2 ^ (-a).toNat) ∧
      ((if 0 ≤ a then 2 ^ a.toNat else 1 : Nat) : ℚ) /
        (if 0 ≤ a then 1 else 2 ^ (-a).toNat : Nat) = 2 ^ a := by
  by_cases up : 0 ≤ a
  · rw [if_pos up, if_pos up]
    refine ⟨by decide, ?_⟩
    push_cast
    rw [div_one, ← zpow_natCast, Int.toNat_of_nonneg up]
  · rw [if_neg up, if_neg up]
    refine ⟨Nat.pow_pos (by decide), ?_⟩
    push_cast
    rw [one_div, ← zpow_natCast, Int.toNat_of_nonneg (by omega), zpow_neg, inv_inv]

/-- In quarters of the last bit of the mantissa the interval has whole ends. -/
theorem cast_reach {m : Nat} (nonzero : 0 < m) (e : Int) :
    ((4 * m - (if m == 2 ^ 52 && decide (leastExponent < e) then 1 else 2) : Nat) : ℚ) =
      4 * ((m : ℚ) - reachBelow m e) := by
  rw [Nat.cast_sub (by split <;> omega)]
  unfold reachBelow
  by_cases narrow : m = 2 ^ 52 ∧ leastExponent < e
  · rw [if_pos narrow, if_pos (by simpa using narrow)]
    push_cast
    ring
  · rw [if_neg narrow, if_neg (by simpa using narrow)]
    push_cast
    ring

theorem ofParts_ratios {m : Nat} (nonzero : 0 < m) (e : Int) :
    0 < (Rounding.ofParts m e).den ∧
      ((Rounding.ofParts m e).value : ℚ) / (Rounding.ofParts m e).den = m * 2 ^ e ∧
      ((Rounding.ofParts m e).lower : ℚ) / (Rounding.ofParts m e).den =
        ((m : ℚ) - reachBelow m e) * 2 ^ e ∧
      ((Rounding.ofParts m e).upper : ℚ) / (Rounding.ofParts m e).den =
        ((m : ℚ) + 1 / 2) * 2 ^ e := by
  have unit : (2 : ℚ) ^ e = 4 * 2 ^ (e - 2) := by
    rw [zpow_sub₀ (by norm_num)]
    norm_num
    ring
  have reach := cast_reach nonzero e
  obtain ⟨den_pos, ratio⟩ := scale_ratio (e - 2)
  unfold Rounding.ofParts
  simp only [Nat.pow_eq]
  refine ⟨den_pos, ?_, ?_, ?_⟩
  · rw [Nat.cast_mul, mul_div_assoc, ratio, unit]
    push_cast
    ring
  · rw [Nat.cast_mul, mul_div_assoc, ratio, unit, reach]
    ring
  · rw [Nat.cast_mul, mul_div_assoc, ratio, unit]
    push_cast
    ring

/-- A number on a decimal grid against a multiple of the unit of the interval. -/
theorem grid_compare {den : Nat} (positive : 0 < den) (n c : Nat) (s : Int) :
    let point := if 0 ≤ s then c * Nat.pow 10 s.toNat * den else c * den
    let up := if 0 ≤ s then 1 else Nat.pow 10 (-s).toNat
    (n * up ≤ point ↔ (n : ℚ) / den ≤ c * 10 ^ s) ∧
      (n * up < point ↔ (n : ℚ) / den < c * 10 ^ s) ∧
      (point ≤ n * up ↔ (c : ℚ) * 10 ^ s ≤ n / den) ∧
      (point < n * up ↔ (c : ℚ) * 10 ^ s < n / den) := by
  have den_pos : (0 : ℚ) < den := by exact_mod_cast positive
  intro point up
  have up_pos : (0 : ℚ) < up := by
    have : 0 < up := by
      simp only [up]
      split
      · decide
      · exact Nat.pow_pos (by decide)
    exact_mod_cast this
  have scaled : (point : ℚ) = c * 10 ^ s * (den * up) := by
    simp only [point, up]
    split
    · rename_i above
      simp only [Nat.pow_eq]
      push_cast
      rw [← zpow_natCast, Int.toNat_of_nonneg above]
      ring
    · rename_i below
      simp only [Nat.pow_eq]
      push_cast
      rw [← zpow_natCast, Int.toNat_of_nonneg (by omega), zpow_neg]
      field_simp
  have unscaled : ((n * up : Nat) : ℚ) = n / den * (den * up) := by
    push_cast
    field_simp
  have factor : (0 : ℚ) < den * up := mul_pos den_pos up_pos
  refine ⟨?_, ?_, ?_, ?_⟩
  · rw [← mul_le_mul_iff_of_pos_right factor, ← scaled, ← unscaled, Nat.cast_le]
  · rw [← mul_lt_mul_iff_of_pos_right factor, ← scaled, ← unscaled, Nat.cast_lt]
  · rw [← mul_le_mul_iff_of_pos_right factor, ← scaled, ← unscaled, Nat.cast_le]
  · rw [← mul_lt_mul_iff_of_pos_right factor, ← scaled, ← unscaled, Nat.cast_lt]

theorem holds_iff {m : Nat} (nonzero : 0 < m) (e : Int) (c : Nat) (s : Int) :
    (Rounding.ofParts m e).holds c s = true ↔ Rounds m e (c * 10 ^ s) := by
  obtain ⟨den_pos, -, lower, upper⟩ := ofParts_ratios nonzero e
  have closed : (Rounding.ofParts m e).closed = (m % 2 == 0) := rfl
  obtain ⟨lower_le, lower_lt, -, -⟩ := grid_compare den_pos (Rounding.ofParts m e).lower c s
  obtain ⟨-, -, upper_le, upper_lt⟩ := grid_compare den_pos (Rounding.ofParts m e).upper c s
  rw [lower] at lower_le lower_lt
  rw [upper] at upper_le upper_lt
  unfold Rounding.holds
  simp only [closed, beq_iff_eq]
  split
  · rename_i even
    rw [Bool.and_eq_true, decide_eq_true_iff, decide_eq_true_iff, lower_le, upper_le]
    constructor
    · rintro ⟨low, high⟩
      exact ⟨low, high, by omega, by omega⟩
    · rintro ⟨low, high, -, -⟩
      exact ⟨low, high⟩
  · rename_i odd
    rw [Bool.and_eq_true, decide_eq_true_iff, decide_eq_true_iff, lower_lt, upper_lt]
    constructor
    · rintro ⟨low, high⟩
      exact ⟨low.le, high.le, fun _ => low, fun _ => high⟩
    · rintro ⟨-, -, low, high⟩
      exact ⟨low (by omega), high (by omega)⟩

/-! ## The leading digit -/

theorem le_lift {num den fuel : Nat} (enough : den ≤ num * 10 ^ fuel) :
    den ≤ num * 10 ^ Rounding.lift num den fuel := by
  induction fuel generalizing num with
  | zero => exact enough
  | succ fuel ih =>
    unfold Rounding.lift
    split
    · rename_i reached
      simpa using reached
    · have := @ih (num * 10) (by rw [mul_assoc, ← pow_succ']; exact enough)
      rwa [mul_assoc, ← pow_succ'] at this

/-- The leading digit is no further left than the number is large. -/
theorem leading_le (r : Rounding) (positive : 0 < r.den) (enough : r.den ≤ r.value * 10 ^ 400) :
    (10 : ℚ) ^ r.leading ≤ (r.value : ℚ) / r.den := by
  have den_pos : (0 : ℚ) < r.den := by exact_mod_cast positive
  unfold Rounding.leading
  split
  · rename_i whole
    have some : 0 < r.value / r.den := Nat.div_pos whole positive
    have length : 0 < (Nat.toDigits 10 (r.value / r.den)).length := Nat.length_toDigits_pos
    have least : 10 ^ ((Nat.toDigits 10 (r.value / r.den)).length - 1) ≤ r.value / r.den :=
      pow_length_le some
    have exponent : ((Nat.toDigits 10 (r.value / r.den)).length : Int) - 1 =
        (((Nat.toDigits 10 (r.value / r.den)).length - 1 : Nat) : Int) := by omega
    rw [exponent, zpow_natCast, le_div_iff₀ den_pos]
    have scaled : 10 ^ ((Nat.toDigits 10 (r.value / r.den)).length - 1) * r.den ≤ r.value :=
      (Nat.mul_le_mul_right _ least).trans (Nat.div_mul_le_self _ _)
    exact_mod_cast scaled
  · have lifted := le_lift enough
    have lifted' : (r.den : ℚ) ≤ r.value * 10 ^ Rounding.lift r.value r.den 400 := by
      exact_mod_cast lifted
    rw [le_div_iff₀ den_pos, zpow_neg, zpow_natCast]
    rw [inv_mul_le_iff₀ (by positivity), mul_comm]
    exact lifted'

/-! ## The search -/

/-- The grid point that is found at or below the number. -/
theorem below_spec (r : Rounding) (positive : 0 < r.den) (s : Int) :
    ((r.below s).1 : ℚ) * 10 ^ s ≤ (r.value : ℚ) / r.den ∧
      (r.value : ℚ) / r.den < (((r.below s).1 + 1 : Nat) : ℚ) * 10 ^ s := by
  obtain ⟨-, -, low, -⟩ := grid_compare positive r.value (r.below s).1 s
  obtain ⟨-, high, -, -⟩ := grid_compare positive r.value ((r.below s).1 + 1) s
  rw [← low, ← high]
  unfold Rounding.below
  simp only [Nat.pow_eq]
  split
  · have width : 0 < 10 ^ s.toNat * r.den := Nat.mul_pos (Nat.pow_pos (by decide)) positive
    rw [mul_assoc, mul_assoc, mul_comm (_ + 1)]
    exact ⟨Nat.div_mul_le_self _ _, Nat.lt_mul_div_succ _ width⟩
  · rw [mul_comm (_ + 1)]
    exact ⟨Nat.div_mul_le_self _ _, Nat.lt_mul_div_succ _ positive⟩

/-- A grid that is finer than the interval is wide has a point in it. -/
theorem point?_isSome {m : Nat} (nonzero : 0 < m) {e s : Int}
    (fine : (10 : ℚ) ^ s < (reachBelow m e + 1 / 2) * 2 ^ e) :
    ((Rounding.ofParts m e).point? s).isSome = true := by
  obtain ⟨den_pos, value, -, -⟩ := ofParts_ratios nonzero e
  obtain ⟨low, high⟩ := below_spec (Rounding.ofParts m e) den_pos s
  rw [value] at low high
  have scale_pos := two_zpow_pos e
  have reach_pos := reachBelow_pos m e
  generalize at_grid : (Rounding.ofParts m e).below s = grid at low high
  rcases grid with ⟨c, rest, width⟩
  simp only at low high
  push_cast at high
  have inside : (Rounding.ofParts m e).holds c s = true ∨
      (Rounding.ofParts m e).holds (c + 1) s = true := by
    rw [holds_iff nonzero, holds_iff nonzero]
    by_cases near : ((m : ℚ) - reachBelow m e) * 2 ^ e < c * 10 ^ s
    · have upper : (c : ℚ) * 10 ^ s < ((m : ℚ) + 1 / 2) * 2 ^ e := by nlinarith
      exact .inl ⟨near.le, upper.le, fun _ => near, fun _ => upper⟩
    · have lower : ((m : ℚ) - reachBelow m e) * 2 ^ e < ((c + 1 : Nat) : ℚ) * 10 ^ s := by
        push_cast
        nlinarith
      have upper : ((c + 1 : Nat) : ℚ) * 10 ^ s < ((m : ℚ) + 1 / 2) * 2 ^ e := by
        push_cast
        nlinarith
      exact .inr ⟨lower.le, upper.le, fun _ => lower, fun _ => upper⟩
  unfold Rounding.point?
  simp only [at_grid]
  rcases inside with here | next
  · rw [here]
    split <;> simp_all
  · rw [next]
    split <;> simp_all

theorem rounds_of_point? {m : Nat} (nonzero : 0 < m) {e s : Int} {c : Nat}
    (h : (Rounding.ofParts m e).point? s = some c) : Rounds m e (c * 10 ^ s) := by
  rw [← holds_iff nonzero]
  unfold Rounding.point? at h
  generalize (Rounding.ofParts m e).below s = grid at h
  rcases grid with ⟨below, rest, width⟩
  simp only at h
  split at h
  · rename_i here next
    cases h
    split
    · exact here
    · exact next
  · rename_i here _
    cases h
    exact here
  · rename_i _ next
    cases h
    exact next
  · cases h

theorem rounds_of_search {m : Nat} (nonzero : 0 < m) {e : Int} (r : Rounding)
    (parts : r = Rounding.ofParts m e) (digits fuel : Nat)
    (last : (r.point? (r.leading - (digits + fuel : Nat) + 1)).isSome = true) :
    Rounds m e (r.search digits (fuel + 1)).ratio := by
  induction fuel generalizing digits with
  | zero =>
    rcases Option.isSome_iff_exists.mp last with ⟨c, found⟩
    rw [Nat.add_zero] at found
    unfold Rounding.search
    simp only [found]
    exact rounds_of_point? nonzero (parts ▸ found)
  | succ fuel ih =>
    unfold Rounding.search
    simp only
    split
    · rename_i c found
      exact rounds_of_point? nonzero (parts ▸ found)
    · exact ih (digits + 1) (by rwa [show digits + 1 + fuel = digits + (fuel + 1) by omega])

/-! ## The zeros at the end -/

theorem ratio_trim (x : Scientific) (fuel : Nat) : (x.trim fuel).ratio = x.ratio := by
  induction fuel generalizing x with
  | zero => rfl
  | succ fuel ih =>
    unfold Scientific.trim
    split
    · rename_i zeros
      rw [ih]
      unfold Scientific.ratio
      have whole : x.coefficient = x.coefficient / 10 * 10 := by omega
      rw [zpow_add₀ (by norm_num), zpow_one]
      conv_rhs => rw [whole]
      push_cast
      ring
    · rfl

/-! ## The shortest number -/

theorem two_pow_le {k : Nat} (small : k ≤ 1200) : (2 : ℚ) ^ k ≤ 10 ^ 400 :=
  calc (2 : ℚ) ^ k ≤ 2 ^ (3 * 400) := pow_le_pow_right₀ (by norm_num) small
    _ = (2 ^ 3) ^ 400 := pow_mul 2 3 400
    _ ≤ 10 ^ 400 := pow_le_pow_left₀ (by norm_num) (by norm_num) 400

/-- The powers of two of finite floats lie far within the powers of ten of the search. -/
theorem le_two_zpow {e : Int} (least : leastExponent - 1 ≤ e) : (1 : ℚ) / 10 ^ 400 ≤ 2 ^ e := by
  have smallest : (1 : ℚ) / 10 ^ 400 ≤ 2 ^ (leastExponent - 1) := by
    rw [show leastExponent - 1 = -((1075 : Nat) : Int) from rfl, zpow_neg, zpow_natCast, one_div]
    exact inv_anti₀ (by positivity) (two_pow_le (by decide))
  exact smallest.trans (two_zpow_le least)

/-- A grid of seventeen digits has a step of less than the width of the interval. -/
theorem step_lt_width {m : Nat} {e l : Int} (canonical : Canonical m e)
    (leading : (10 : ℚ) ^ l ≤ m * 2 ^ e) :
    (10 : ℚ) ^ (l - 16) < (reachBelow m e + 1 / 2) * 2 ^ e := by
  have scale_pos := two_zpow_pos e
  have step : (10 : ℚ) ^ (l - 16) * 10 ^ 16 = 10 ^ l := by
    rw [← zpow_natCast, ← zpow_add₀ (by norm_num)]
    congr 1
    push_cast
    ring
  rw [← step] at leading
  generalize (10 : ℚ) ^ (l - 16) = width at *
  have mantissa : (m : ℚ) ≤ 2 ^ 53 := by exact_mod_cast canonical.mantissa.le
  unfold reachBelow
  split
  · rename_i narrow
    have power : (m : ℚ) = 2 ^ 52 := by exact_mod_cast narrow.1
    rw [power] at leading
    linarith
  · have below : (m : ℚ) * 2 ^ e ≤ 2 ^ 53 * 2 ^ e :=
      mul_le_mul_of_nonneg_right mantissa scale_pos.le
    linarith

theorem shortest_rounds {m : Nat} {e : Int} (canonical : Canonical m e) (nonzero : 0 < m) :
    Rounds m e (shortest m e).ratio := by
  obtain ⟨den_pos, value, -, -⟩ := ofParts_ratios nonzero e
  have den_rat : (0 : ℚ) < (Rounding.ofParts m e).den := by exact_mod_cast den_pos
  have enough : (Rounding.ofParts m e).den ≤ (Rounding.ofParts m e).value * 10 ^ 400 := by
    have scale_low := le_two_zpow (by linarith [canonical.least] : leastExponent - 1 ≤ e)
    have low : (1 : ℚ) / 10 ^ 400 ≤ m * 2 ^ e :=
      scale_low.trans (le_mul_of_one_le_left (two_zpow_pos e).le (by exact_mod_cast nonzero))
    rw [← value, div_le_div_iff₀ (by positivity) den_rat, one_mul] at low
    exact_mod_cast low
  have leading := leading_le (Rounding.ofParts m e) den_pos enough
  rw [value] at leading
  have fine := step_lt_width canonical leading
  unfold shortest
  rw [if_neg (by simpa using nonzero.ne'), ratio_trim]
  apply rounds_of_search nonzero _ rfl 1 16 (point?_isSome nonzero _)
  have last : (Rounding.ofParts m e).leading - ((1 + 16 : Nat) : Int) + 1 =
      (Rounding.ofParts m e).leading - 16 := by omega
  rw [last]
  exact fine

end Microbench.Decimal
