import Microbench.Proofs.Binary64.Nearest

/-!
# Values of rounded fractions

The value of the float nearest to a fraction, as a fraction itself. It is off by a part in `2 ^ 53` at
most (`NearestValue.error_le`), and rounding never passes a number with so few bits that it is a float:
`NearestValue.le_of_grid`, `NearestValue.grid_le`.
-/

namespace Microbench.Binary64

/-- `v` is the value of the float nearest to `q`, a half going to the even mantissa. -/
def NearestValue (q v : ℚ) : Prop := ∃ m e, Canonical m e ∧ Rounds m e q ∧ v = m * 2 ^ e

/-! ## Rounding to a mantissa -/

theorem exists_roundsTo {y : ℚ} (nonneg : 0 ≤ y) : ∃ k, RoundsTo k y := by
  have floor_le : (⌊y⌋₊ : ℚ) ≤ y := Nat.floor_le nonneg
  have lt_next : y < (⌊y⌋₊ : ℚ) + 1 := Nat.lt_floor_add_one y
  generalize ⌊y⌋₊ = f at floor_le lt_next
  rcases lt_trichotomy (y - f) (1 / 2) with less | tie | more
  · exact ⟨f, ⟨by linarith, by linarith, fun _ => by linarith, fun _ => by linarith⟩⟩
  · rcases Nat.mod_two_eq_zero_or_one f with even | odd
    · exact ⟨f, ⟨by linarith, by linarith, fun odd => by omega, fun odd => by omega⟩⟩
    · refine ⟨f + 1, ⟨?_, ?_, fun odd' => by omega, fun odd' => by omega⟩⟩ <;> push_cast <;> linarith
  · refine ⟨f + 1, ⟨?_, ?_, fun _ => ?_, fun _ => ?_⟩⟩ <;> push_cast <;> linarith

theorem zpow_neg_mul (x : ℚ) (e : Int) : x * 2 ^ (-e) * 2 ^ e = x := by
  rw [mul_assoc, ← zpow_add₀ (by norm_num), neg_add_cancel, zpow_zero, mul_one]

/-- What fills 53 bits is rounded to whole units. -/
theorem rounds_of_fills {k : Nat} {y : ℚ} (e : Int) (near : RoundsTo k y) (fills : 2 ^ 52 ≤ y) :
    Rounds k e (y * 2 ^ e) := by
  have scale := two_zpow_pos e
  have upper := near.upper
  by_cases power : k = 2 ^ 52
  · have reach := reachBelow_pos k e
    have value : (k : ℚ) = 2 ^ 52 := by exact_mod_cast power
    refine ⟨?_, ?_, fun odd => by omega, fun odd => by omega⟩
    · gcongr
      linarith
    · gcongr
  · have reach : reachBelow k e = 1 / 2 := if_neg fun both => power both.1
    have lower := near.lower
    refine ⟨?_, ?_, fun odd => ?_, fun odd => ?_⟩
    · rw [reach]
      gcongr
    · gcongr
    · have above := near.above odd
      rw [reach]
      gcongr
    · have below := near.below odd
      gcongr

/-- What is rounded up to 54 bits is half of that in units of twice the size. -/
theorem rounds_of_carry {y : ℚ} {e : Int} (least : leastExponent ≤ e) (near : RoundsTo (2 ^ 53) y)
    (fits : y < 2 ^ 53) : Rounds (2 ^ 52) (e + 1) (y * 2 ^ e) := by
  have scale := two_zpow_pos e
  have reach : reachBelow (2 ^ 52) (e + 1) = 1 / 4 := if_pos ⟨rfl, by omega⟩
  have next : (2 : ℚ) ^ (e + 1) = 2 * 2 ^ e := by
    rw [zpow_add₀ (by norm_num), zpow_one, mul_comm]
  have lower := near.lower
  push_cast at lower
  refine ⟨?_, ?_, fun odd => by omega, fun odd => by omega⟩
  · rw [reach, next, ← mul_assoc]
    push_cast
    gcongr
    linarith
  · rw [next, ← mul_assoc]
    push_cast
    gcongr
    linarith

/-- A fraction that fills 53 bits is rounded to a mantissa, or up to the power of two above. -/
theorem rounds_of_roundsTo {k : Nat} {e : Int} {q : ℚ} (least : leastExponent ≤ e)
    (near : RoundsTo k (q * 2 ^ (-e))) (fills : (2 : ℚ) ^ 52 ≤ q * 2 ^ (-e))
    (fits : q * 2 ^ (-e) < 2 ^ 53) :
    2 ^ 52 ≤ k ∧ k < 2 ^ 53 ∧ Rounds k e q ∨ k = 2 ^ 53 ∧ Rounds (2 ^ 52) (e + 1) q := by
  have full : 2 ^ 52 ≤ k := by
    by_contra less
    have : (k : ℚ) + 1 ≤ 2 ^ 52 := by exact_mod_cast (by omega : k + 1 ≤ 2 ^ 52)
    linarith [near.upper]
  have limit : k ≤ 2 ^ 53 := by
    by_contra more
    have : (2 : ℚ) ^ 53 + 1 ≤ k := by exact_mod_cast (by omega : 2 ^ 53 + 1 ≤ k)
    linarith [near.lower]
  rcases Nat.lt_or_eq_of_le limit with small | rfl
  · have rounds := rounds_of_fills e near fills
    rw [zpow_neg_mul] at rounds
    exact .inl ⟨full, small, rounds⟩
  · have rounds := rounds_of_carry least near fits
    rw [zpow_neg_mul] at rounds
    exact .inr ⟨rfl, rounds⟩

/-- A fraction that fills 53 bits with an exponent has a nearest float of that exponent or the next. -/
theorem exists_rounds {e : Int} {q : ℚ} (least : leastExponent ≤ e) (greatest : e < 971)
    (fills : (2 : ℚ) ^ 52 ≤ q * 2 ^ (-e)) (fits : q * 2 ^ (-e) < 2 ^ 53) :
    ∃ m e', Canonical m e' ∧ Rounds m e' q ∧ 2 ^ 52 ≤ m ∧ e ≤ e' ∧ e' ≤ e + 1 := by
  obtain ⟨k, near⟩ := exists_roundsTo (le_trans (by positivity) fills)
  rcases rounds_of_roundsTo least near fills fits with ⟨full, small, rounds⟩ | ⟨-, rounds⟩
  · exact ⟨k, e, ⟨small, least, by omega, .inl full⟩, rounds, full, le_refl e, by omega⟩
  · exact ⟨2 ^ 52, e + 1, ⟨by decide, by omega, by omega, .inl (le_refl _)⟩, rounds, le_refl _,
      by omega, le_refl _⟩

/-! ## How far rounding goes -/

section Value

variable {m : Nat} {e : Int} {q v : ℚ}

theorem NearestValue.nonneg (nearest : NearestValue q v) : 0 ≤ v := by
  obtain ⟨m, e, -, -, rfl⟩ := nearest
  have scale := two_zpow_pos e
  positivity

/-- Floats near fractions that are not tiny fill their mantissa. -/
theorem Rounds.normal (rounds : Rounds m e q) (canonical : Canonical m e)
    (large : (2 : ℚ) ^ (-1000 : Int) ≤ q) : leastExponent < e := by
  refine lt_of_le_of_ne canonical.least fun tiny => ?_
  have few : (m : ℚ) + 1 ≤ 2 ^ 53 := by exact_mod_cast canonical.mantissa
  have below : q ≤ 2 ^ (-1021 : Int) := calc
    q ≤ ((m : ℚ) + 1 / 2) * 2 ^ e := rounds.upper
    _ ≤ 2 ^ 53 * 2 ^ e := mul_le_mul_of_nonneg_right (by linarith) (two_zpow_pos e).le
    _ = 2 ^ (-1021 : Int) := by
      rw [← tiny, ← zpow_natCast, ← zpow_add₀ (by norm_num)]
      rfl
  exact absurd (large.trans below) (not_le.mpr (zpow_lt_zpow_right₀ (by norm_num) (by decide)))

/-- A rounded fraction is off by a part in `2 ^ 53` at most. -/
theorem NearestValue.error_le (nearest : NearestValue q v) (large : (2 : ℚ) ^ (-1000 : Int) ≤ q) :
    |v - q| ≤ q / 2 ^ 53 := by
  obtain ⟨m, e, canonical, rounds, rfl⟩ := nearest
  have normal := rounds.normal canonical large
  have full : 2 ^ 52 ≤ m := canonical.leading.resolve_right (by omega)
  have scale := two_zpow_pos e
  obtain ⟨y, rfl⟩ : ∃ y, q = y * 2 ^ e := ⟨_, (zpow_neg_mul q e).symm⟩
  have lower := le_of_mul_le_mul_right rounds.lower scale
  have upper := le_of_mul_le_mul_right rounds.upper scale
  have full' : (2 : ℚ) ^ 52 ≤ m := by exact_mod_cast full
  have half := reachBelow_le m e
  have near : |(m : ℚ) - y| ≤ y / 2 ^ 53 := by
    rw [abs_le]
    rcases le_or_gt ((2 : ℚ) ^ 52) y with fills | below
    · constructor <;> linarith
    · -- only the power of two itself is reached from below it
      have power : m = 2 ^ 52 := by
        by_contra other
        have : (2 : ℚ) ^ 52 + 1 ≤ m := by exact_mod_cast (by omega : 2 ^ 52 + 1 ≤ m)
        linarith
      have reach : reachBelow m e = 1 / 4 := if_pos ⟨power, normal⟩
      have value : (m : ℚ) = 2 ^ 52 := by exact_mod_cast power
      rw [reach] at lower
      constructor <;> linarith
  calc |(m : ℚ) * 2 ^ e - y * 2 ^ e| = |(m : ℚ) - y| * 2 ^ e := by
        rw [← sub_mul, abs_mul, abs_of_pos scale]
    _ ≤ y / 2 ^ 53 * 2 ^ e := by gcongr
    _ = y * 2 ^ e / 2 ^ 53 := by ring

/-- A number of few bits is whole in units of a smaller exponent. -/
theorem grid_eq {a : Nat} {f : Int} (finer : e ≤ f) :
    (a : ℚ) * 2 ^ f = ((a * 2 ^ (f - e).toNat : Nat) : ℚ) * 2 ^ e := by
  have power : (2 : ℚ) ^ f = 2 ^ (f - e).toNat * 2 ^ e := by
    rw [← zpow_natCast, ← zpow_add₀ (by norm_num)]
    congr 1
    omega
  push_cast
  rw [power, mul_assoc]

/-- Rounding does not go below a float that the fraction is not below. -/
theorem NearestValue.le_of_grid (nearest : NearestValue q v) {a : Nat} {f : Int} (few : a ≤ 2 ^ 53)
    (least : leastExponent ≤ f) (le : (a : ℚ) * 2 ^ f ≤ q) : (a : ℚ) * 2 ^ f ≤ v := by
  obtain ⟨m, e, canonical, rounds, rfl⟩ := nearest
  have scale := two_zpow_pos e
  have upper := le.trans rounds.upper
  rcases le_or_gt e f with finer | coarser
  · rw [grid_eq finer] at upper ⊢
    have units := le_of_mul_le_mul_right upper scale
    have whole : a * 2 ^ (f - e).toNat ≤ m := by
      by_contra more
      have : (m : ℚ) + 1 ≤ (a * 2 ^ (f - e).toNat : Nat) := by exact_mod_cast not_le.mp more
      linarith
    gcongr
  · have full : 2 ^ 52 ≤ m := canonical.leading.resolve_right (by omega)
    have binade : (2 : ℚ) * 2 ^ f ≤ 2 ^ e := by
      rw [← zpow_one_add₀ (by norm_num)]
      exact two_zpow_le (by omega)
    have few' : (a : ℚ) ≤ 2 ^ 53 := by exact_mod_cast few
    have full' : (2 : ℚ) ^ 52 ≤ m := by exact_mod_cast full
    calc (a : ℚ) * 2 ^ f ≤ 2 ^ 53 * 2 ^ f := by gcongr
      _ = 2 ^ 52 * (2 * 2 ^ f) := by ring
      _ ≤ m * 2 ^ e := by gcongr

/-- A float with a full mantissa reaches down to a number of few bits in units of a smaller exponent
only if it is that number, the power of two in common to both. -/
theorem le_of_coarser {a : Nat} {f : Int} (full : 2 ^ 52 ≤ m) (normal : leastExponent < e)
    (few : a ≤ 2 ^ 53) (coarser : f < e) (lower : (m - reachBelow m e) * 2 ^ e ≤ a * 2 ^ f) :
    (m : ℚ) * 2 ^ e ≤ a * 2 ^ f := by
  have half := reachBelow_le m e
  have wide : (2 : ℚ) ^ 52 - 1 / 4 ≤ m - reachBelow m e := by
    by_cases power : m = 2 ^ 52
    · have reach : reachBelow m e = 1 / 4 := if_pos ⟨power, normal⟩
      have value : (m : ℚ) = 2 ^ 52 := by exact_mod_cast power
      rw [reach, value]
    · have : (2 : ℚ) ^ 52 + 1 ≤ m := by exact_mod_cast (by omega : 2 ^ 52 + 1 ≤ m)
      linarith
  obtain ⟨j, binade⟩ : ∃ j : Nat, e = f + 1 + j := ⟨(e - f - 1).toNat, by omega⟩
  have power : (2 : ℚ) ^ e = 2 ^ j * 2 * 2 ^ f := by
    rw [binade, zpow_add_nat, zpow_add₀ (by norm_num), zpow_one]
    ring
  have at_least : (1 : ℚ) ≤ 2 ^ j := one_le_pow₀ (by norm_num)
  rw [power, ← mul_assoc] at lower ⊢
  have units := le_of_mul_le_mul_right lower (two_zpow_pos f)
  have all : a = 2 ^ 53 := by
    by_contra other
    have : (a : ℚ) + 1 ≤ 2 ^ 53 := by exact_mod_cast (by omega : a + 1 ≤ 2 ^ 53)
    nlinarith
  have value : (a : ℚ) = 2 ^ 53 := by exact_mod_cast all
  have next : j = 0 := by
    by_contra farther
    have : (2 : ℚ) ^ 1 ≤ 2 ^ j := pow_le_pow_right₀ (by norm_num) (by omega)
    nlinarith
  have least_full : m = 2 ^ 52 := by
    by_contra other
    have : (2 : ℚ) ^ 52 + 1 ≤ m := by exact_mod_cast (by omega : 2 ^ 52 + 1 ≤ m)
    rw [next] at units
    linarith
  rw [least_full, next, value]
  apply le_of_eq
  norm_num

/-- Rounding does not go above a float that the fraction is not above. -/
theorem NearestValue.grid_le (nearest : NearestValue q v) {a : Nat} {f : Int} (few : a ≤ 2 ^ 53)
    (least : leastExponent ≤ f) (le : q ≤ (a : ℚ) * 2 ^ f) : v ≤ a * 2 ^ f := by
  obtain ⟨m, e, canonical, rounds, rfl⟩ := nearest
  have scale := two_zpow_pos e
  have lower := rounds.lower.trans le
  rcases le_or_gt e f with finer | coarser
  · have half := reachBelow_le m e
    rw [grid_eq finer] at lower ⊢
    have units := le_of_mul_le_mul_right lower scale
    have whole : m ≤ a * 2 ^ (f - e).toNat := by
      by_contra less
      have : ((a * 2 ^ (f - e).toNat : Nat) : ℚ) + 1 ≤ m := by exact_mod_cast not_le.mp less
      linarith
    gcongr
  · exact le_of_coarser (canonical.leading.resolve_right (by omega)) (by omega) few coarser lower

end Value

end Microbench.Binary64
