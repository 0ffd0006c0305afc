import Mathlib
import Microbench.Decimal.Layout
import Microbench.Decimal.Reading
import Microbench.Proofs.Decimal.Shortest

/-!
# Floats read back

A finite float in plain notation is read as the float that was written: `readFloat_plain`. The text
holds the shortest decimal number that lies in the rounding interval of the float, and every number
in there is rounded to that float.
-/

namespace Microbench.Decimal

open Binary64

/-! ## Decimal numbers in the interval of a float -/

/-- The value of a decimal number, without its sign. -/
def Literal.ratio (x : Literal) : ℚ := x.coefficient * 10 ^ x.exponent

theorem Literal.ratio_parts (x : Literal) :
    x.ratio = (if 0 ≤ x.exponent then
      ((x.coefficient * 10 ^ x.exponent.toNat : Nat) : ℚ) / ((1 : Nat) : ℚ)
      else (x.coefficient : ℚ) / ((10 ^ (-x.exponent).toNat : Nat) : ℚ)) := by
  unfold Literal.ratio
  split
  · rename_i whole
    push_cast
    rw [div_one, ← zpow_natCast, Int.toNat_of_nonneg whole]
  · rename_i part
    push_cast
    rw [← zpow_natCast, Int.toNat_of_nonneg (by omega), zpow_neg, div_inv_eq_mul]

/-- The places in front of the point say between which powers of ten a decimal number lies. -/
theorem Literal.places {x : Literal} (nonzero : 0 < x.coefficient) :
    x.ratio < 10 ^ (x.exponent + (digits x.coefficient).length) ∧
      (10 : ℚ) ^ (x.exponent + (digits x.coefficient).length - 1) ≤ x.ratio := by
  have scale_pos : (0 : ℚ) < 10 ^ x.exponent := zpow_pos (by norm_num) x.exponent
  have high : (x.coefficient : ℚ) < 10 ^ (digits x.coefficient).length := by
    exact_mod_cast lt_pow_length x.coefficient
  have low : (10 : ℚ) ^ ((digits x.coefficient).length - 1) ≤ x.coefficient := by
    exact_mod_cast pow_length_le nonzero
  have some : 0 < (digits x.coefficient).length := Nat.length_toDigits_pos
  unfold Literal.ratio
  constructor
  · rw [add_comm, zpow_add₀ (by norm_num), zpow_natCast]
    exact mul_lt_mul_of_pos_right high scale_pos
  · have places : x.exponent + (digits x.coefficient).length - 1 =
        ((digits x.coefficient).length - 1 : Nat) + x.exponent := by omega
    rw [places, zpow_add₀ (by norm_num), zpow_natCast]
    exact mul_le_mul_of_nonneg_right low scale_pos.le

theorem toFloat_eq_nearest {x : Literal} (nonzero : 0 < x.coefficient)
    (low : (1 : ℚ) / 10 ^ 400 ≤ x.ratio) (high : x.ratio < 10 ^ 400) :
    ∃ num den : Nat, 0 < den ∧ x.toFloat = nearest x.negative num den ∧
      (num : ℚ) / den = x.ratio := by
  obtain ⟨under, above⟩ := Literal.places nonzero
  have least : -400 < x.exponent + (digits x.coefficient).length := by
    have : (10 : ℚ) ^ (-400 : Int) < 10 ^ (x.exponent + (digits x.coefficient).length) := by
      refine lt_of_le_of_lt ?_ under
      rw [zpow_neg, ← one_div]
      exact_mod_cast low
    exact (zpow_lt_zpow_iff_right₀ (by norm_num)).mp this
  have greatest : x.exponent + (digits x.coefficient).length ≤ 400 := by
    have : (10 : ℚ) ^ (x.exponent + (digits x.coefficient).length - 1) < 10 ^ (400 : Int) := by
      apply lt_of_le_of_lt above
      exact_mod_cast high
    have := (zpow_lt_zpow_iff_right₀ (by norm_num)).mp this
    omega
  unfold Literal.toFloat
  rw [if_neg (by simp; omega), if_neg (by omega), Literal.ratio_parts]
  simp only [Nat.pow_eq]
  split
  · exact ⟨_, 1, by decide, rfl, rfl⟩
  · exact ⟨_, _, Nat.pow_pos (by decide), rfl, rfl⟩

/-- The interval of a float lies within the range in which powers of ten are computed. -/
theorem Rounds.bounds {m : Nat} {e : Int} {q : ℚ} (canonical : Canonical m e) (nonzero : 0 < m)
    (rounds : Rounds m e q) : (1 : ℚ) / 10 ^ 400 ≤ q ∧ q < 10 ^ 400 := by
  have scale_pos := two_zpow_pos e
  have m_pos : (1 : ℚ) ≤ m := by exact_mod_cast nonzero
  have m_lt : (m : ℚ) + 1 ≤ 2 ^ 53 := by exact_mod_cast canonical.mantissa
  have reach_le := reachBelow_le m e
  constructor
  · have half : (2 : ℚ) ^ (e - 1) = 1 / 2 * 2 ^ e := by
      rw [zpow_sub₀ (by norm_num), zpow_one]
      ring
    calc (1 : ℚ) / 10 ^ 400 ≤ 2 ^ (e - 1) := le_two_zpow (by linarith [canonical.least])
      _ = 1 / 2 * 2 ^ e := half
      _ ≤ ((m : ℚ) - reachBelow m e) * 2 ^ e := by
        apply mul_le_mul_of_nonneg_right _ scale_pos.le
        linarith
      _ ≤ q := rounds.lower
  · calc q ≤ ((m : ℚ) + 1 / 2) * 2 ^ e := rounds.upper
      _ < 2 ^ 53 * 2 ^ e := by
        apply mul_lt_mul_of_pos_right _ scale_pos
        linarith
      _ ≤ 2 ^ 53 * 2 ^ (971 : Int) := by
        apply mul_le_mul_of_nonneg_left _ (by positivity)
        exact two_zpow_le canonical.greatest
      _ = 2 ^ (53 + 971) := by rw [pow_add]; rfl
      _ ≤ 10 ^ 400 := two_pow_le (by decide)

/-- A decimal number in the interval of a float reads as the float. -/
theorem toFloat_eq_of_rounds {x : Float} {l : Literal} {m : Nat} {e : Int}
    (h : decode x = .finite l.negative m e) (nonzero : 0 < m) (rounds : Rounds m e l.ratio) :
    l.toFloat = x := by
  obtain ⟨canonical, -⟩ := decode_eq_finite h
  obtain ⟨low, high⟩ := Rounds.bounds canonical nonzero rounds
  have coefficient : 0 < l.coefficient := by
    by_contra none
    have zero : l.ratio = 0 := by
      unfold Literal.ratio
      rw [Nat.eq_zero_of_not_pos none, Nat.cast_zero, zero_mul]
    rw [zero] at low
    exact absurd low (not_le.mpr (by positivity))
  obtain ⟨num, den, den_pos, read, ratio⟩ := toFloat_eq_nearest coefficient low high
  rw [read]
  exact nearest_eq_of_bits h (nearestBits_eq_of_rounds den_pos canonical nonzero (ratio ▸ rounds))

theorem toFloat_zero {x : Float} {l : Literal} {e : Int}
    (h : decode x = .finite l.negative 0 e) (none : l.coefficient = 0) : l.toFloat = x := by
  obtain ⟨canonical, -⟩ := decode_eq_finite h
  have least : e = leastExponent := canonical.leading.resolve_left (by decide)
  have bits : nearestBits 0 1 = bitsOf 0 e := by
    rw [least]
    decide
  unfold Literal.toFloat
  rw [if_pos (by simp [none])]
  exact nearest_eq_of_bits h bits

/-! ## Texts of decimal numbers -/

theorem takeWhile_digits {ds : List Char} (rest : List Char) (digital : ds.all isDigit = true)
    (stops : ∀ c ∈ rest.head?, isDigit c = false) :
    (ds ++ rest).takeWhile isDigit = ds ∧ (ds ++ rest).dropWhile isDigit = rest := by
  have every : ∀ c ∈ ds, isDigit c = true := List.all_eq_true.mp digital
  rw [List.takeWhile_append_of_pos every, List.dropWhile_append_of_pos every]
  cases rest with
  | nil => simp
  | cons c rest =>
    have stop : isDigit c = false := stops c rfl
    simp [stop]

/-- Digits without a point. -/
theorem literal?_digits (negative : Bool) {ds : List Char} (digital : ds.all isDigit = true)
    (some : ds ≠ []) : literal? negative ds = Option.some ⟨negative, value ds, 0⟩ := by
  obtain ⟨taken, dropped⟩ := takeWhile_digits [] digital (by simp)
  rw [List.append_nil] at taken dropped
  unfold literal?
  simp [taken, dropped, some, exponent?]

/-- Digits before and after a point. -/
theorem literal?_point (negative : Bool) {ws ps : List Char} (whole : ws.all isDigit = true)
    (part : ps.all isDigit = true) (some : ws ≠ []) :
    literal? negative (ws ++ '.' :: ps) =
      Option.some ⟨negative, value (ws ++ ps), -(ps.length : Int)⟩ := by
  obtain ⟨taken, dropped⟩ := takeWhile_digits ('.' :: ps) whole (by
    intro c first
    cases first
    decide)
  obtain ⟨taken', dropped'⟩ := takeWhile_digits [] part (by simp)
  rw [List.append_nil] at taken' dropped'
  unfold literal?
  simp [taken, dropped, taken', dropped', some, exponent?]

/-- A text of a decimal number: it starts with a digit and reads as a literal of that ratio. -/
structure Spells (cs : List Char) (q : ℚ) : Prop where
  first : ∃ c rest, cs = c :: rest ∧ isDigit c = true
  reads (negative : Bool) : ∃ l, literal? negative cs = some l ∧ l.negative = negative ∧ l.ratio = q

theorem first_of_all {ds : List Char} (rest : List Char) (digital : ds.all isDigit = true)
    (some : ds ≠ []) : ∃ c more, ds ++ rest = c :: more ∧ isDigit c = true := by
  obtain ⟨c, cs, rfl⟩ := List.exists_cons_of_ne_nil some
  rw [List.all_cons, Bool.and_eq_true] at digital
  exact ⟨c, cs ++ rest, rfl, digital.1⟩

theorem spells_digits {ds : List Char} (digital : ds.all isDigit = true) (some : ds ≠ []) :
    Spells ds (value ds) := by
  obtain ⟨c, rest, first, digit⟩ := first_of_all [] digital some
  rw [List.append_nil] at first
  refine ⟨⟨c, rest, first, digit⟩, fun negative => ?_⟩
  refine ⟨_, literal?_digits negative digital some, rfl, ?_⟩
  unfold Literal.ratio
  simp only
  rw [zpow_zero, mul_one]

theorem spells_point {ws ps : List Char} (whole : ws.all isDigit = true)
    (part : ps.all isDigit = true) (some : ws ≠ []) :
    Spells (ws ++ '.' :: ps) (value (ws ++ ps) * 10 ^ (-(ps.length : Int))) := by
  refine ⟨first_of_all _ whole some, fun negative => ?_⟩
  exact ⟨_, literal?_point negative whole part some, rfl, rfl⟩

theorem all_isDigit_zeros (k : Nat) : (List.replicate k '0').all isDigit = true := by
  rw [List.all_replicate]
  split <;> decide

theorem spells_positional (x : Scientific) :
    Spells (positional false (digits x.coefficient)
      (x.exponent + (digits x.coefficient).length)) x.ratio := by
  rcases x with ⟨c, e⟩
  have digital := all_isDigit_digits c
  have some := digits_ne_nil c
  have whole := value_digits c
  unfold Scientific.ratio
  simp only
  generalize digits c = ds at *
  unfold positional
  split
  · -- all digits stand after the point
    rename_i after
    have part : (List.replicate (-(e + ds.length)).toNat '0' ++ ds).all isDigit = true := by
      rw [List.all_append, all_isDigit_zeros, digital]
      rfl
    have spelled := spells_point (show ['0'].all isDigit = true by decide) part (List.cons_ne_nil _ _)
    have read : value (['0'] ++ (List.replicate (-(e + ds.length)).toNat '0' ++ ds)) = c := by
      rw [value, accumulate_append, accumulate_append, show accumulate 0 ['0'] = 0 by decide,
        accumulate_zeros, Nat.zero_mul]
      exact whole
    have exponent : -((List.replicate (-(e + ds.length)).toNat '0' ++ ds).length : Int) = e := by
      rw [List.length_append, List.length_replicate]
      omega
    rw [read, exponent] at spelled
    exact spelled
  · simp only
    split
    · -- all digits stand before it
      have filled : (ds ++ List.replicate ((e + ds.length).toNat - ds.length) '0').all isDigit =
          true := by
        rw [List.all_append, digital, all_isDigit_zeros]
        rfl
      have spelled := spells_digits filled (List.append_ne_nil_of_left_ne_nil some _)
      have exponent : e = ((e + ds.length).toNat - ds.length : Nat) := by omega
      rw [value, accumulate_append, accumulate_zeros, show accumulate 0 ds = c from whole,
        Nat.cast_mul, Nat.cast_pow, ← zpow_natCast, ← exponent] at spelled
      rw [if_neg (by decide), List.append_nil]
      exact spelled
    · have taken : (ds.take (e + ds.length).toNat).all isDigit = true :=
        List.all_eq_true.mpr fun d mem => List.all_eq_true.mp digital d (List.mem_of_mem_take mem)
      have dropped : (ds.drop (e + ds.length).toNat).all isDigit = true :=
        List.all_eq_true.mpr fun d mem => List.all_eq_true.mp digital d (List.mem_of_mem_drop mem)
      have front : ds.take (e + ds.length).toNat ≠ [] := by
        rw [← List.length_pos_iff, List.length_take]
        omega
      have spelled := spells_point taken dropped front
      have exponent : -((ds.drop (e + ds.length).toNat).length : Int) = e := by
        rw [List.length_drop]
        omega
      rw [List.take_append_drop, whole, exponent] at spelled
      exact spelled

theorem spells_magnitude (x : Scientific) : Spells (Layout.plain.magnitude x) x.ratio := by
  unfold Layout.magnitude
  simp only [beq_iff_eq]
  split
  · rename_i none
    have spelled := spells_digits (show ['0'].all isDigit = true by decide) (List.cons_ne_nil _ _)
    have zero : x.ratio = value ['0'] := by
      unfold Scientific.ratio
      rw [none, Nat.cast_zero, zero_mul, show value ['0'] = 0 by decide, Nat.cast_zero]
    rw [if_neg (by decide), zero]
    exact spelled
  · exact spells_positional x

/-! ## Reading -/

theorem asciiLower_of_isDigit {c : Char} (h : isDigit c = true) : Text.asciiLower c = c := by
  unfold Text.asciiLower
  rw [if_neg]
  rintro ⟨upper, -⟩
  unfold isDigit digit? at h
  split at h
  · rename_i digit
    exact absurd (le_trans upper digit.2) (by decide)
  · cases h

theorem not_word {c d : Char} {rest : List Char} (more : List Char) (digit : isDigit c = true)
    (letter : isDigit d = false) :
    (String.ofList ((c :: rest).map Text.asciiLower) == String.ofList (d :: more)) = false := by
  rw [beq_eq_false_iff_ne]
  intro same
  have lists := String.ofList_injective same
  rw [List.map_cons, asciiLower_of_isDigit digit] at lists
  rw [(List.cons.inj lists).1, letter] at digit
  cases digit

/-- A text that starts with a digit is read as a decimal number, whatever its sign. -/
theorem readFloat_signed {c : Char} {rest : List Char} (h : isDigit c = true) (negative : Bool) :
    readFloat (if negative then "-" ++ String.ofList (c :: rest) else String.ofList (c :: rest)) =
      (literal? negative (c :: rest)).map (·.toFloat) := by
  have signed : splitSign (if negative then "-" ++ String.ofList (c :: rest)
      else String.ofList (c :: rest)).toList = (negative, c :: rest) := by
    obtain ⟨plus, minus⟩ := not_sign_of_isDigit h
    cases negative
    · rw [if_neg (by decide), String.toList_ofList]
      unfold splitSign
      split
      · rename_i eq
        exact absurd (List.cons.inj eq).1 plus
      · rename_i eq
        exact absurd (List.cons.inj eq).1 minus
      · rfl
    · rw [if_pos rfl, String.toList_append, String.toList_ofList, String.toList_ofList]
      rfl
  have infinity : isInfinityWord (c :: rest) = false :=
    Bool.or_eq_false_iff.mpr
      ⟨not_word ['n', 'f'] h (by decide), not_word ['n', 'f', 'i', 'n', 'i', 't', 'y'] h (by decide)⟩
  have nan : isNanWord (c :: rest) = false := not_word ['a', 'n'] h (by decide)
  unfold readFloat
  rw [signed]
  simp [infinity, nan]

/-- A finite float in plain notation is read as the float that was written. -/
theorem readFloat_plain {x : Float} {negative : Bool} {m : Nat} {e : Int}
    (h : decode x = .finite negative m e) : readFloat (plain x) = some x := by
  obtain ⟨⟨c, rest, shape, digit⟩, reads⟩ := spells_magnitude (shortest m e)
  obtain ⟨l, read, rfl, ratio⟩ := reads negative
  have written : plain x = (if l.negative then "-" ++ String.ofList (c :: rest)
      else String.ofList (c :: rest)) := by
    unfold plain Layout.write
    simp only [h, shape]
  rw [written, readFloat_signed digit, ← shape, read, Option.map_some]
  congr 1
  rcases Nat.eq_zero_or_pos m with rfl | nonzero
  · apply toFloat_zero h
    have zero : l.ratio = 0 := by
      rw [ratio]
      simp [Scientific.ratio, shortest]
    unfold Literal.ratio at zero
    rcases mul_eq_zero.mp zero with none | scale
    · exact_mod_cast none
    · exact absurd scale (zpow_ne_zero _ (by norm_num))
  · obtain ⟨canonical, -⟩ := decode_eq_finite h
    exact toFloat_eq_of_rounds h nonzero (ratio ▸ shortest_rounds canonical nonzero)

end Microbench.Decimal
