import Mathlib
import Microbench.Proofs.Binary64.Bits

/-!
# Rounding to the nearest float

Every fraction in the rounding interval of a float is rounded to that float:
`nearestBits_eq_of_rounds`. The interval reaches half way to the two neighbours, so it is narrower
below a power of two. There a fraction is found in the binade below, and it is the carry out of the
mantissa that leads back to the float.
-/

namespace Microbench.Binary64

/-! ## Rounding to a whole number -/

/-- Numbers that round to a whole number, a half going to the even neighbour. -/
structure RoundsTo (k : Nat) (q : ℚ) : Prop where
  lower : (k : ℚ) - 1 / 2 ≤ q
  upper : q ≤ (k : ℚ) + 1 / 2
  -- an odd number does not own the ends
  above : k % 2 = 1 → (k : ℚ) - 1 / 2 < q
  below : k % 2 = 1 → q < (k : ℚ) + 1 / 2

/-- A rest of at most one half leaves the quotient, except for a tie behind an odd one. -/
theorem roundQuotient_of_le {den q r : Nat} (near : 2 * r ≤ den)
    (even : 2 * r = den → q % 2 = 0) :
    (if 2 * r < den then q
      else if den < 2 * r then q + 1
      else if q % 2 = 0 then q else q + 1) = q := by
  rcases Nat.lt_or_ge (2 * r) den with less | more
  · rw [if_pos less]
  · have tie : 2 * r = den := le_antisymm near more
    rw [if_neg (by omega), if_neg (by omega), if_pos (even tie)]

/-- A rest of at least one half raises the quotient, except for a tie behind an even one. -/
theorem roundQuotient_of_ge {den q r : Nat} (far : den ≤ 2 * r)
    (odd : 2 * r = den → q % 2 ≠ 0) :
    (if 2 * r < den then q
      else if den < 2 * r then q + 1
      else if q % 2 = 0 then q else q + 1) = q + 1 := by
  rw [if_neg (by omega)]
  rcases Nat.lt_or_ge den (2 * r) with more | less
  · rw [if_pos more]
  · have tie : 2 * r = den := le_antisymm less far
    rw [if_neg (by omega), if_neg (odd tie)]

theorem roundQuotient_eq {num den k : Nat} (positive : 0 < den)
    (near : RoundsTo k ((num : ℚ) / den)) : roundQuotient num den = k := by
  have den_pos : (0 : ℚ) < den := by exact_mod_cast positive
  have lower : 2 * k * den ≤ 2 * num + den := by
    have := (le_div_iff₀ den_pos).mp near.lower
    have : (2 * k * den : ℚ) ≤ 2 * num + den := by linarith
    exact_mod_cast this
  have upper : 2 * num ≤ 2 * k * den + den := by
    have := (div_le_iff₀ den_pos).mp near.upper
    have : (2 * num : ℚ) ≤ 2 * k * den + den := by linarith
    exact_mod_cast this
  have above : k % 2 = 1 → 2 * k * den < 2 * num + den := by
    intro odd
    have := (lt_div_iff₀ den_pos).mp (near.above odd)
    have : (2 * k * den : ℚ) < 2 * num + den := by linarith
    exact_mod_cast this
  have below : k % 2 = 1 → 2 * num < 2 * k * den + den := by
    intro odd
    have := (div_lt_iff₀ den_pos).mp (near.below odd)
    have : (2 * num : ℚ) < 2 * k * den + den := by linarith
    exact_mod_cast this
  have division : den * (num / den) + num % den = num := Nat.div_add_mod num den
  have rest : num % den < den := Nat.mod_lt _ positive
  unfold roundQuotient
  simp only [beq_iff_eq]
  generalize num / den = q at *
  generalize num % den = r at *
  -- the quotient is the whole number or the one before it
  have first : q < k + 1 := by
    by_contra far
    have : den * (k + 1) ≤ den * q := Nat.mul_le_mul_left den (by omega)
    nlinarith
  have second : k ≤ q + 1 := by
    by_contra far
    have : den * (q + 2) ≤ den * k := Nat.mul_le_mul_left den (by omega)
    nlinarith
  obtain rfl | rfl : q = k ∨ q + 1 = k := by omega
  · apply roundQuotient_of_le (by nlinarith)
    intro tie
    by_contra odd
    have := below (by omega)
    nlinarith
  · apply roundQuotient_of_ge (by nlinarith)
    intro tie even
    have := above (by omega)
    nlinarith

/-! ## Powers of two -/

theorem two_zpow_pos (e : Int) : (0 : ℚ) < 2 ^ e := zpow_pos (by norm_num) e

theorem two_zpow_le {a b : Int} (h : a ≤ b) : (2 : ℚ) ^ a ≤ 2 ^ b :=
  zpow_le_zpow_right₀ (by norm_num) h

theorem mul_zpow_neg (x : ℚ) (e : Int) : x * 2 ^ e * 2 ^ (-e) = x := by
  rw [mul_assoc, ← zpow_add₀ (by norm_num), add_neg_cancel, zpow_zero, mul_one]

theorem zpow_add_nat (e : Int) (k : Nat) : (2 : ℚ) ^ (e + k) = 2 ^ e * 2 ^ k := by
  rw [zpow_add₀ (by norm_num), zpow_natCast]

/-! ## The exponent of a fraction -/

theorem scaleBinary_ratio (num den : Nat) (positive : 0 < den) (e : Int) :
    0 < (scaleBinary num den e).2 ∧
      ((scaleBinary num den e).1 : ℚ) / (scaleBinary num den e).2 = (num : ℚ) / den * 2 ^ (-e) := by
  unfold scaleBinary
  split
  · rename_i up
    have power : (2 : ℚ) ^ (-e) = ((2 : ℚ) ^ e.toNat)⁻¹ := by
      rw [zpow_neg, ← zpow_natCast, Int.toNat_of_nonneg up]
    refine ⟨Nat.mul_pos positive (Nat.pow_pos (by decide)), ?_⟩
    simp only [Nat.pow_eq]
    push_cast
    rw [power, div_mul_eq_div_mul_one_div, one_div]
  · rename_i down
    have power : (2 : ℚ) ^ (-e) = (2 : ℚ) ^ (-e).toNat := by
      rw [← zpow_natCast, Int.toNat_of_nonneg (by omega)]
    refine ⟨positive, ?_⟩
    simp only [Nat.pow_eq]
    push_cast
    rw [power, mul_div_right_comm]

/-- A fraction lies within a factor of two of the powers of two that its parts suggest. -/
theorem ratio_of_log2 {num den : Nat} (some : 0 < num) (positive : 0 < den) :
    (2 : ℚ) ^ ((Nat.log2 num : Int) - Nat.log2 den - 1) < (num : ℚ) / den ∧
      (num : ℚ) / den < 2 ^ ((Nat.log2 num : Int) - Nat.log2 den + 1) := by
  have den_pos : (0 : ℚ) < den := by exact_mod_cast positive
  have num_low : (2 : ℚ) ^ Nat.log2 num ≤ num := by exact_mod_cast Nat.log2_self_le (by omega)
  have num_high : (num : ℚ) < 2 ^ (Nat.log2 num + 1) := by exact_mod_cast Nat.lt_log2_self
  have den_low : (2 : ℚ) ^ Nat.log2 den ≤ den := by exact_mod_cast Nat.log2_self_le (by omega)
  have den_high : (den : ℚ) < 2 ^ (Nat.log2 den + 1) := by exact_mod_cast Nat.lt_log2_self
  constructor
  · rw [lt_div_iff₀ den_pos]
    calc (2 : ℚ) ^ ((Nat.log2 num : Int) - Nat.log2 den - 1) * den
        < 2 ^ ((Nat.log2 num : Int) - Nat.log2 den - 1) * 2 ^ (Nat.log2 den + 1) := by gcongr
      _ = 2 ^ Nat.log2 num := by
        rw [← zpow_add_nat, ← zpow_natCast]
        congr 1
        push_cast
        ring
      _ ≤ num := num_low
  · rw [div_lt_iff₀ den_pos]
    calc (num : ℚ) < 2 ^ (Nat.log2 num + 1) := num_high
      _ = 2 ^ ((Nat.log2 num : Int) - Nat.log2 den + 1) * 2 ^ Nat.log2 den := by
        rw [← zpow_add_nat, ← zpow_natCast]
        congr 1
        push_cast
        ring
      _ ≤ 2 ^ ((Nat.log2 num : Int) - Nat.log2 den + 1) * den := by gcongr

/-- Of the guess and the exponent after it, the quotient fills 53 bits with the one that is chosen. -/
theorem chosen_spec {n d : Nat} {guess : Int} {q : ℚ} (positive : 0 < d)
    (ratio : q = (n : ℚ) / d * 2 ^ guess) (low : (2 : ℚ) ^ (guess + 52) ≤ q)
    (high : q < 2 ^ (guess + 54)) :
    q < 2 ^ ((if n / d < 2 ^ 53 then guess else guess + 1) + 53) ∧
      (2 : ℚ) ^ ((if n / d < 2 ^ 53 then guess else guess + 1) + 52) ≤ q := by
  have d_pos : (0 : ℚ) < d := by exact_mod_cast positive
  have whole : n / d < 2 ^ 53 ↔ (n : ℚ) / d < 2 ^ 53 := by
    rw [Nat.div_lt_iff_lt_mul positive, div_lt_iff₀ d_pos]
    exact_mod_cast Iff.rfl
  split
  · rename_i small
    refine ⟨?_, low⟩
    rw [ratio, zpow_add₀ (by norm_num), mul_comm ((2 : ℚ) ^ guess)]
    have := whole.mp small
    gcongr
    exact_mod_cast this
  · rename_i large
    have next : guess + 1 + 53 = guess + 54 := by omega
    rw [next]
    refine ⟨high, ?_⟩
    rw [ratio, add_assoc, zpow_add₀ (by norm_num), mul_comm ((2 : ℚ) ^ guess)]
    have := not_lt.mp (mt whole.mpr large)
    gcongr
    exact_mod_cast this

theorem exponentFor_spec {num den : Nat} (some : 0 < num) (positive : 0 < den) :
    leastExponent ≤ exponentFor num den ∧
      (num : ℚ) / den < 2 ^ (exponentFor num den + 53) ∧
      (exponentFor num den = leastExponent ∨
        (2 : ℚ) ^ (exponentFor num den + 52) ≤ (num : ℚ) / den) := by
  obtain ⟨low, high⟩ := ratio_of_log2 some positive
  obtain ⟨guess, guessed⟩ : ∃ g : Int, g = (Nat.log2 num : Int) - (Nat.log2 den : Int) - 53 :=
    ⟨_, rfl⟩
  obtain ⟨n, d, scaling⟩ : ∃ n d, scaleBinary num den guess = (n, d) := ⟨_, _, rfl⟩
  obtain ⟨scaled_pos, scaled⟩ := scaleBinary_ratio num den positive guess
  rw [scaling] at scaled_pos scaled
  simp only at scaled_pos scaled
  have ratio : (num : ℚ) / den = (n : ℚ) / d * 2 ^ guess := by
    rw [scaled, mul_assoc, ← zpow_add₀ (by norm_num)]
    simp
  have from_guess : (Nat.log2 num : Int) - Nat.log2 den - 1 = guess + 52 := by omega
  have to_guess : (Nat.log2 num : Int) - Nat.log2 den + 1 = guess + 54 := by omega
  rw [from_guess] at low
  rw [to_guess] at high
  obtain ⟨fits, fills⟩ := chosen_spec scaled_pos ratio low.le high
  have exponent : exponentFor num den =
      max leastExponent (if n / d < 2 ^ 53 then guess else guess + 1) := by
    unfold exponentFor
    rw [← guessed]
    simp only [scaling, Nat.pow_eq]
  -- the exponent is kept from falling below the least one
  rw [exponent]
  generalize (if n / d < 2 ^ 53 then guess else guess + 1) = e at fits fills
  refine ⟨le_max_left _ _, lt_of_lt_of_le fits (two_zpow_le (by omega)), ?_⟩
  rcases le_total e leastExponent with small | large
  · exact .inl (max_eq_left small)
  · right
    rw [max_eq_right large]
    exact fills

/-! ## The rounding interval of a float -/

/-- How far the interval reaches below a mantissa, in units of its last bit. -/
def reachBelow (m : Nat) (e : Int) : ℚ :=
  if m = 2 ^ 52 ∧ leastExponent < e then 1 / 4 else 1 / 2

/-- Fractions that round to a mantissa with an exponent. -/
structure Rounds (m : Nat) (e : Int) (q : ℚ) : Prop where
  lower : ((m : ℚ) - reachBelow m e) * 2 ^ e ≤ q
  upper : q ≤ ((m : ℚ) + 1 / 2) * 2 ^ e
  -- an odd mantissa does not own the ends
  above : m % 2 = 1 → ((m : ℚ) - reachBelow m e) * 2 ^ e < q
  below : m % 2 = 1 → q < ((m : ℚ) + 1 / 2) * 2 ^ e

theorem reachBelow_le (m : Nat) (e : Int) : reachBelow m e ≤ 1 / 2 := by
  unfold reachBelow
  split <;> norm_num

theorem reachBelow_pos (m : Nat) (e : Int) : 0 < reachBelow m e := by
  unfold reachBelow
  split <;> norm_num

section Interval

variable {m : Nat} {e e' : Int} {q : ℚ}

theorem Rounds.pos (rounds : Rounds m e q) (nonzero : 0 < m) : 0 < q := by
  have m_pos : (1 : ℚ) ≤ m := by exact_mod_cast nonzero
  have reach := reachBelow_le m e
  apply lt_of_lt_of_le (mul_pos _ (two_zpow_pos e)) rounds.lower
  linarith

/-- Scaled by the exponent of the float, a fraction rounds to the mantissa. -/
theorem Rounds.roundsTo (rounds : Rounds m e q) : RoundsTo m (q * 2 ^ (-e)) := by
  have half : (m : ℚ) - 1 / 2 ≤ m - reachBelow m e := by
    have := reachBelow_le m e
    linarith
  have scale := two_zpow_pos (-e)
  constructor
  · have low := mul_le_mul_of_nonneg_right rounds.lower scale.le
    rw [mul_zpow_neg] at low
    exact half.trans low
  · have high := mul_le_mul_of_nonneg_right rounds.upper scale.le
    rwa [mul_zpow_neg] at high
  · intro odd
    have low := mul_lt_mul_of_pos_right (rounds.above odd) scale
    rw [mul_zpow_neg] at low
    exact lt_of_le_of_lt half low
  · intro odd
    have high := mul_lt_mul_of_pos_right (rounds.below odd) scale
    rwa [mul_zpow_neg] at high

/-- The mantissa has too few bits for a fraction of a binade above. -/
theorem Rounds.exponent_le (rounds : Rounds m e q) (canonical : Canonical m e)
    (fills : e' = leastExponent ∨ (2 : ℚ) ^ (e' + 52) ≤ q) : e' ≤ e := by
  by_contra more
  have filled : (2 : ℚ) ^ (e' + 52) ≤ q := fills.resolve_left (by have := canonical.least; omega)
  have binade : (2 : ℚ) ^ 53 * 2 ^ e ≤ 2 ^ (e' + 52) := by
    rw [← zpow_natCast, ← zpow_add₀ (by norm_num)]
    exact two_zpow_le (by push_cast; omega)
  have mantissa : (m : ℚ) + 1 ≤ 2 ^ 53 := by exact_mod_cast canonical.mantissa
  have beyond : ((m : ℚ) + 1 / 2) * 2 ^ e < 2 ^ 53 * 2 ^ e := by
    apply mul_lt_mul_of_pos_right _ (two_zpow_pos e)
    linarith
  linarith [rounds.upper]

/-- A fraction of a binade below is just below a power of two. -/
theorem Rounds.power_of_lt (rounds : Rounds m e q) (canonical : Canonical m e)
    (least : leastExponent ≤ e') (less : e' < e) (fits : q < 2 ^ (e' + 53)) :
    m = 2 ^ 52 ∧ e' = e - 1 := by
  have large : 2 ^ 52 ≤ m := by
    rcases canonical.leading with normal | atLeast
    · exact normal
    · omega
  have scale := two_zpow_pos e
  have power : m = 2 ^ 52 := by
    by_contra other
    have next : ((2 ^ 52 + 1 : Nat) : ℚ) ≤ m := by exact_mod_cast (by omega : 2 ^ 52 + 1 ≤ m)
    have binade : q < 2 ^ 52 * 2 ^ e := by
      apply lt_of_lt_of_le fits
      rw [← zpow_natCast, ← zpow_add₀ (by norm_num)]
      exact two_zpow_le (by push_cast; omega)
    have beyond : ((2 : ℚ) ^ 52) * 2 ^ e < ((m : ℚ) - reachBelow m e) * 2 ^ e := by
      apply mul_lt_mul_of_pos_right _ scale
      have := reachBelow_le m e
      push_cast at next
      linarith
    linarith [rounds.lower]
  refine ⟨power, ?_⟩
  by_contra far
  have binade : q < 2 ^ 51 * 2 ^ e := by
    apply lt_of_lt_of_le fits
    rw [← zpow_natCast, ← zpow_add₀ (by norm_num)]
    exact two_zpow_le (by push_cast; omega)
  have lower := rounds.lower
  have reach := reachBelow_le m e
  rw [power] at lower reach
  push_cast at lower
  nlinarith

/-- Scaled by the exponent before, such a fraction rounds to the power of two above. -/
theorem Rounds.roundsTo_power (rounds : Rounds (2 ^ 52) e q) (normal : leastExponent < e)
    (fits : q < 2 ^ (e + 52)) : RoundsTo (2 ^ 53) (q * 2 ^ (-(e - 1))) := by
  have scale := two_zpow_pos (-e)
  have rescale : (2 : ℚ) ^ (-(e - 1)) = 2 * 2 ^ (-e) := by
    rw [neg_sub, sub_eq_add_neg, zpow_add₀ (by norm_num), zpow_one]
  have reach : reachBelow (2 ^ 52) e = 1 / 4 := if_pos ⟨rfl, normal⟩
  have low := mul_le_mul_of_nonneg_right rounds.lower scale.le
  rw [mul_zpow_neg, reach] at low
  push_cast at low
  have high : q * 2 ^ (-e) < 2 ^ 52 := by
    rw [zpow_add₀ (by norm_num), mul_comm] at fits
    have := mul_lt_mul_of_pos_right fits scale
    rwa [mul_zpow_neg] at this
  rw [rescale]
  constructor
  · push_cast
    linarith
  · push_cast
    linarith
  · intro odd
    omega
  · intro odd
    omega

end Interval

/-! ## The bits of a fraction -/

/-- The bits found with an exponent are those of the whole number that the scaled fraction is
rounded to. -/
theorem nearestBits_of_scaled {num den k : Nat} {e : Int} (some : 0 < num) (positive : 0 < den)
    (exponent : exponentFor num den = e) (near : RoundsTo k ((num : ℚ) / den * 2 ^ (-e))) :
    nearestBits num den = min ((e - leastExponent).toNat * 2 ^ 52 + k) (2047 * 2 ^ 52) := by
  obtain ⟨scaled_pos, scaled⟩ := scaleBinary_ratio num den positive e
  obtain ⟨n, d, scaling⟩ : ∃ n d, scaleBinary num den e = (n, d) := ⟨_, _, rfl⟩
  rw [scaling] at scaled_pos scaled
  simp only at scaled_pos scaled
  rw [← scaled] at near
  have rounded : roundQuotient n d = k := roundQuotient_eq scaled_pos near
  unfold nearestBits
  rw [exponent]
  simp only [beq_iff_eq, scaling, rounded, Nat.pow_eq]
  rw [if_neg (by omega)]

theorem Canonical.bitsOf_lt {m : Nat} {e : Int} (c : Canonical m e) : bitsOf m e < 2047 * 2 ^ 52 := by
  rcases c with ⟨mantissa, least, greatest, -⟩
  have field : (e - leastExponent).toNat ≤ 2045 := by
    unfold leastExponent at least ⊢
    omega
  have shifted := Nat.mul_le_mul_right (2 ^ 52) field
  unfold bitsOf
  omega

/-- The bits of a power of two are those of the binade below with a carry. -/
theorem bitsOf_power {e : Int} (normal : leastExponent < e) :
    bitsOf (2 ^ 52) e = (e - 1 - leastExponent).toNat * 2 ^ 52 + 2 ^ 53 := by
  unfold bitsOf
  have step : (e - leastExponent).toNat = (e - 1 - leastExponent).toNat + 1 := by omega
  rw [step]
  ring

theorem nearestBits_eq_of_rounds {num den m : Nat} {e : Int} (positive : 0 < den)
    (canonical : Canonical m e) (nonzero : 0 < m) (rounds : Rounds m e ((num : ℚ) / den)) :
    nearestBits num den = bitsOf m e := by
  have some : 0 < num := by
    have ratio_pos := rounds.pos nonzero
    by_contra none
    rw [Nat.eq_zero_of_not_pos none] at ratio_pos
    simp at ratio_pos
  obtain ⟨least, fits, fills⟩ := exponentFor_spec some positive
  obtain ⟨e', exponent⟩ : ∃ e', exponentFor num den = e' := ⟨_, rfl⟩
  rw [exponent] at least fits fills
  have ordinary : min (bitsOf m e) (2047 * 2 ^ 52) = bitsOf m e :=
    min_eq_left canonical.bitsOf_lt.le
  rcases (rounds.exponent_le canonical fills).lt_or_eq with less | rfl
  · -- a fraction just below a power of two, which rounds up to it
    rcases rounds.power_of_lt canonical least less fits with ⟨rfl, rfl⟩
    have before : e - 1 + 53 = e + 52 := by omega
    rw [before] at fits
    have near := rounds.roundsTo_power (by omega) fits
    rw [nearestBits_of_scaled some positive exponent near, ← bitsOf_power (by omega)]
    exact ordinary
  · rw [nearestBits_of_scaled some positive exponent rounds.roundsTo]
    exact ordinary

end Microbench.Binary64
