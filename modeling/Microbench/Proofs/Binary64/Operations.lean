import Mathlib
import Microbench.Proofs.Binary64.Bits

/-!
# Floats computed from floats

Products, quotients and sums of small positive floats are finite and not negative. A float is
followed through its unpacked form: `Within` bounds its exponent from above, which an operation
raises by a known amount, and `Normal` says that it fills its mantissa, which a divisor has to.
-/

namespace Microbench.Binary64

open Float.Model Float.Model.UnpackedFloat

/-! ## Rounding -/

theorem mantissa_shiftRight (x : ExtendedMantissa) (k : Nat) :
    (x >>> k).mantissa = x.mantissa / 2 ^ k := by
  induction k with
  | zero =>
    rw [pow_zero, Nat.div_one]
    rfl
  | succ k ih =>
    have step : (x >>> (k + 1)).mantissa = (x >>> k).mantissa / 2 := rfl
    rw [step, ih, Nat.div_div_eq_div_mul, pow_succ]

theorem mantissa_ofMantissaAndAccuracy (m : Nat) (a : Accuracy) :
    (ExtendedMantissa.ofMantissaAndAccuracy m a).mantissa = m := by
  rcases a with _ | ⟨_ | _ | _⟩ <;> rfl

theorem roundedMantissa_bounds (x : ExtendedMantissa) :
    x.mantissa ≤ x.roundedMantissa ∧ x.roundedMantissa ≤ x.mantissa + 1 := by
  rcases x with ⟨m, roundBit, stickyBit⟩
  unfold ExtendedMantissa.roundedMantissa
  cases roundBit <;> cases stickyBit <;>
    simp [ExtendedMantissa.accuracy, Accuracy.roundToNearestEven]
  omega

/-- Where the last bit of a mantissa comes to stand. -/
def lastBit (m : Nat) (e : Int) : Int := max ((Nat.log2 m : Int) + e - 52) (-1074)

theorem targetExponent_eq (m : Nat) (e : Int) :
    Format.binary64.targetExponent (totalExponent m e) = lastBit m e := by
  have bits : Format.binary64.mantissaBits = 53 := rfl
  have least : Format.binary64.minExponent = -1074 := rfl
  unfold Format.targetExponent totalExponent lastBit
  rw [bits, least]
  omega

/-- Shifting to the last bit keeps the mantissa but for the bits that are dropped. -/
theorem shiftToTargetExponent_eq (m : Nat) (e : Int) (a : Accuracy) :
    (shiftToTargetExponent Format.binary64 m e a).1.mantissa = m / 2 ^ (lastBit m e - e).toNat ∧
      (shiftToTargetExponent Format.binary64 m e a).2 = max e (lastBit m e) := by
  unfold shiftToTargetExponent shiftToExponent
  simp only [targetExponent_eq, mantissa_shiftRight, mantissa_ofMantissaAndAccuracy, true_and]
  omega

theorem div_lastBit_lt (m : Nat) (e : Int) : m / 2 ^ (lastBit m e - e).toNat < 2 ^ 53 := by
  have shift : Nat.log2 m + 1 ≤ 53 + (lastBit m e - e).toNat := by
    unfold lastBit
    omega
  rw [Nat.div_lt_iff_lt_mul (Nat.pow_pos (by decide)), ← pow_add]
  exact lt_of_lt_of_le Nat.lt_log2_self (Nat.pow_le_pow_right (by decide) shift)

theorem log2_le_of_lt {m : Nat} (h : m < 2 ^ 53) : Nat.log2 m ≤ 52 := by
  rcases Nat.eq_zero_or_pos m with rfl | positive
  · decide
  · have := (Nat.log2_lt (by omega)).mpr h
    omega

/-- What rounding does: bits are dropped, the rest is rounded up at most once, and a carry out of
the mantissa drops one more bit. -/
theorem roundWithAccuracy_eq (sign : Sign) (m : Nat) (e : Int) (a : Accuracy) :
    ∃ r : Nat, m / 2 ^ (lastBit m e - e).toNat ≤ r ∧ r ≤ 2 ^ 53 ∧
      r = (ExtendedMantissa.ofMantissaAndAccuracy m a >>>
        (lastBit m e - e).toNat).roundedMantissa ∧
      roundWithAccuracy Format.binary64 sign m e a =
        if h : r = 0 then .zero sign
        else if r < 2 ^ 53 then .finite sign r (max e (lastBit m e)) (Nat.pos_of_ne_zero h)
        else .finite sign (2 ^ 52) (max e (lastBit m e) + 1) (by decide) := by
  obtain ⟨mantissa, exponent⟩ := shiftToTargetExponent_eq m e a
  obtain ⟨x, e₁, shifted⟩ : ∃ x e₁, shiftToTargetExponent Format.binary64 m e a = (x, e₁) :=
    ⟨_, _, rfl⟩
  have kept : x = ExtendedMantissa.ofMantissaAndAccuracy m a >>> (lastBit m e - e).toNat := by
    rw [← targetExponent_eq]
    exact (congrArg Prod.fst shifted).symm
  rw [shifted] at mantissa exponent
  simp only at mantissa exponent
  obtain ⟨low, high⟩ := roundedMantissa_bounds x
  have fits := div_lastBit_lt m e
  have least : -1074 ≤ e₁ := by
    rw [exponent]
    unfold lastBit
    omega
  refine ⟨x.roundedMantissa, by omega, by omega, congrArg _ kept, ?_⟩
  unfold roundWithAccuracy
  rw [shifted, ← exponent]
  simp only
  generalize x.roundedMantissa = r at *
  obtain ⟨mantissa', exponent'⟩ := shiftToTargetExponent_eq r e₁ .exact
  by_cases small : r < 2 ^ 53
  · have kept : lastBit r e₁ ≤ e₁ := by
      have := log2_le_of_lt small
      unfold lastBit
      omega
    rw [show (lastBit r e₁ - e₁).toNat = 0 by omega, pow_zero, Nat.div_one] at mantissa'
    rw [max_eq_left kept] at exponent'
    simp only [mantissa', exponent', small, if_true]
  · obtain rfl : r = 2 ^ 53 := by omega
    have next : lastBit (2 ^ 53) e₁ = e₁ + 1 := by
      unfold lastBit
      rw [Nat.log2_two_pow]
      omega
    have halved : 2 ^ 53 / 2 ^ 1 = 2 ^ 52 := by decide
    rw [next, show (e₁ + 1 - e₁).toNat = 1 by omega, halved] at mantissa'
    rw [next, max_eq_right (by omega)] at exponent'
    simp only [mantissa', exponent']
    rfl

/-! ## Packing -/

/-- Neither negative nor too large for a bound on the exponent. -/
def Below (greatest : Int) : UnpackedFloat → Prop
  | .zero sign => sign = .positive
  | .finite sign m e _ => sign = .positive ∧ m < 2 ^ 53 ∧ e ≤ greatest
  | _ => False

/-- Positive, with a full mantissa and an exponent within bounds. -/
def Normal (least greatest : Int) : UnpackedFloat → Prop
  | .finite sign m e _ => sign = .positive ∧ 2 ^ 52 ≤ m ∧ m < 2 ^ 53 ∧ least ≤ e ∧ e ≤ greatest
  | _ => False

theorem Normal.below {least greatest : Int} {u : UnpackedFloat} (h : Normal least greatest u) :
    Below greatest u := by
  cases u with
  | finite sign m e positive =>
    rcases h with ⟨sign, -, mantissa, -, exponent⟩
    exact ⟨sign, mantissa, exponent⟩
  | _ => cases h

theorem Normal.mono {a b c d : Int} {u : UnpackedFloat} (h : Normal a b u) (low : c ≤ a)
    (high : b ≤ d) : Normal c d u := by
  cases u with
  | finite sign m e positive =>
    rcases h with ⟨sign, full, mantissa, least, greatest⟩
    exact ⟨sign, full, mantissa, low.trans least, greatest.trans high⟩
  | _ => cases h

theorem Below.mono {a b : Int} {u : UnpackedFloat} (h : Below a u) (le : a ≤ b) : Below b u := by
  cases u with
  | zero sign => exact h
  | finite sign m e positive =>
    rcases h with ⟨sign, mantissa, exponent⟩
    exact ⟨sign, mantissa, exponent.trans le⟩
  | _ => cases h

theorem toNat_implicit (v : BitVec 52) : (1#1 ++ v).toNat = 2 ^ 52 + v.toNat := by
  rw [BitVec.toNat_append, ← Nat.shiftLeft_add_eq_or_of_lt v.isLt]
  rfl

theorem below_unpack_components {field : BitVec 11} {v : BitVec 52} (finite : field ≠ -1#11) :
    Below (max ((field.toNat : Int) - 1075) (-1074))
      (UnpackedFloat.unpack Format.binary64
        (packComponents Format.binary64 .positive field v)) := by
  unfold UnpackedFloat.unpack
  simp only [unpackMantissa_packComponents, unpackExponent_packComponents,
    unpackSign_packComponents, Sign.ofBitVec_toBitVec]
  rw [if_neg finite]
  have small : v.toNat < 2 ^ 52 := v.isLt
  split
  · rename_i none
    split
    · rfl
    · refine ⟨rfl, by omega, ?_⟩
      rw [none]
      exact le_max_right _ _
  · refine ⟨rfl, ?_, le_max_left _ _⟩
    rw [toNat_implicit]
    omega

theorem normal_unpack_components {field : BitVec 11} {v : BitVec 52} (finite : field ≠ -1#11)
    (some : field ≠ 0#11) :
    Normal ((field.toNat : Int) - 1075) ((field.toNat : Int) - 1075)
      (UnpackedFloat.unpack Format.binary64
        (packComponents Format.binary64 .positive field v)) := by
  unfold UnpackedFloat.unpack
  simp only [unpackMantissa_packComponents, unpackExponent_packComponents,
    unpackSign_packComponents, Sign.ofBitVec_toBitVec]
  rw [if_neg finite, if_neg some]
  have small : v.toNat < 2 ^ 52 := v.isLt
  refine ⟨rfl, ?_, ?_, le_refl _, le_refl _⟩
  · rw [toNat_implicit]
    omega
  · rw [toNat_implicit]
    omega

theorem toNat_field {e : Int} (fits : e ≤ 971) :
    (BitVec.ofNat 11 (e + 1075).toNat).toNat = (e + 1075).toNat := by
  rw [BitVec.toNat_ofNat, Nat.mod_eq_of_lt]
  omega

theorem field_ne {e : Int} (fits : e ≤ 971) : BitVec.ofNat 11 (e + 1075).toNat ≠ -1#11 := by
  intro all
  have := congrArg BitVec.toNat all
  rw [toNat_field fits] at this
  have ones : (-1#11).toNat = 2047 := by decide
  omega

/-- A finite number whose exponent fits is packed into its parts. -/
theorem pack_finite {m : Nat} {e : Int} (positive : 0 < m) (fits : e ≤ 971) :
    UnpackedFloat.pack Format.binary64 (.finite .positive m e positive) =
      packComponents Format.binary64 .positive
        (if Nat.log2 m + 1 = 53 then BitVec.ofNat 11 (e + 1075).toNat else 0#11)
        (BitVec.ofNat 52 m) := by
  have bias : (e + Format.binary64.exponentBias + Format.binary64.mantissaBitsWithoutImplicit) =
      e + 1075 := by
    have : Format.binary64.exponentBias = 1023 := rfl
    rw [this]
    show e + 1023 + 52 = e + 1075
    omega
  unfold UnpackedFloat.pack
  simp only [bias]
  rw [if_neg (by show ¬2 ^ 11 ≤ (e + 1075).toNat + 1; omega)]
  have bits : Format.binary64.mantissaBits = 53 := rfl
  rw [bits]
  split
  · rfl
  · rfl

theorem below_unpack_pack {greatest : Int} {u : UnpackedFloat} (h : Below greatest u)
    (least : -1074 ≤ greatest) (fits : greatest ≤ 971) :
    Below greatest (Float.Model.pack u).unpack := by
  cases u with
  | zero sign =>
    have plus : sign = .positive := h
    have packed : (Float.Model.pack (.zero sign)).unpack = .zero .positive := by
      rw [plus]
      exact unpack_packedZero
    rw [packed]
    rfl
  | finite sign m e positive =>
    rcases h with ⟨rfl, -, exponent⟩
    have packed : (Float.Model.pack (.finite .positive m e positive)).unpack =
        UnpackedFloat.unpack Format.binary64
          (UnpackedFloat.pack Format.binary64 (.finite .positive m e positive)) := rfl
    rw [packed, pack_finite positive (by omega)]
    split
    · apply (below_unpack_components (field_ne (by omega))).mono
      rw [toNat_field (by omega)]
      omega
    · apply (below_unpack_components (by decide)).mono
      exact max_le (by simp; omega) least
  | _ => cases h

theorem normal_unpack_pack {least greatest : Int} {u : UnpackedFloat}
    (h : Normal least greatest u) (low : -1074 ≤ least) (fits : greatest ≤ 971) :
    Normal least greatest (Float.Model.pack u).unpack := by
  cases u with
  | finite sign m e positive =>
    rcases h with ⟨rfl, full, mantissa, from_least, to_greatest⟩
    have packed : (Float.Model.pack (.finite .positive m e positive)).unpack =
        UnpackedFloat.unpack Format.binary64
          (UnpackedFloat.pack Format.binary64 (.finite .positive m e positive)) := rfl
    have leading : Nat.log2 m + 1 = 53 := by
      have high := log2_le_of_lt mantissa
      have := (Nat.le_log2 (by omega)).mpr full
      omega
    rw [packed, pack_finite positive (by omega), if_pos leading]
    have some : BitVec.ofNat 11 (e + 1075).toNat ≠ 0#11 := by
      intro none
      have := congrArg BitVec.toNat none
      rw [toNat_field (by omega)] at this
      have zero : (0#11).toNat = 0 := rfl
      omega
    have parts := normal_unpack_components (v := BitVec.ofNat 52 m) (field_ne (by omega)) some
    have exponent : ((e + 1075).toNat : Int) - 1075 = e := by omega
    rw [toNat_field (by omega), exponent] at parts
    generalize UnpackedFloat.unpack Format.binary64 _ = u at parts
    cases u with
    | finite sign m' e' positive' =>
      rcases parts with ⟨plus, full', mantissa', low', high'⟩
      exact ⟨plus, full', mantissa', by omega, by omega⟩
    | _ => cases parts
  | _ => cases h

/-! ## Bounds on results -/

theorem below_round (m : Nat) (e : Int) (a : Accuracy) :
    Below (max e (lastBit m e) + 1) (roundWithAccuracy Format.binary64 .positive m e a) := by
  obtain ⟨r, -, -, -, rounded⟩ := roundWithAccuracy_eq .positive m e a
  rw [rounded]
  split
  · rfl
  · split
    · rename_i small
      exact ⟨rfl, small, by omega⟩
    · exact ⟨rfl, by decide, le_refl _⟩

theorem normal_round {m : Nat} {e : Int} (a : Accuracy) (full : 52 ≤ Nat.log2 m)
    (large : -1074 ≤ (Nat.log2 m : Int) + e - 52) :
    Normal ((Nat.log2 m : Int) + e - 52) ((Nat.log2 m : Int) + e - 51)
      (roundWithAccuracy Format.binary64 .positive m e a) := by
  have some : m ≠ 0 := by
    rintro rfl
    exact absurd full (by decide)
  have last : lastBit m e = (Nat.log2 m : Int) + e - 52 := max_eq_left large
  obtain ⟨r, low, -, -, rounded⟩ := roundWithAccuracy_eq .positive m e a
  have shift : (lastBit m e - e).toNat = Nat.log2 m - 52 := by omega
  have leading : 2 ^ 52 ≤ m / 2 ^ (lastBit m e - e).toNat := by
    rw [shift, Nat.le_div_iff_mul_le (Nat.pow_pos (by decide)), ← pow_add,
      show 52 + (Nat.log2 m - 52) = Nat.log2 m by omega]
    exact Nat.log2_self_le some
  have above : max e (lastBit m e) = (Nat.log2 m : Int) + e - 52 := by
    rw [last]
    omega
  rw [rounded, dif_neg (by omega), above]
  split
  · rename_i small
    exact ⟨rfl, by omega, small, le_refl _, by omega⟩
  · exact ⟨rfl, le_refl _, by decide, by omega, by omega⟩

/-! ## Operations -/

theorem below_mul {a b : Int} {x y : Float} (hx : Below a x.toModel.unpack)
    (hy : Below b y.toModel.unpack) (fits : a + b + 54 ≤ 971) :
    Below (max (a + b + 54) (-1073)) (x * y).toModel.unpack := by
  have product : (x * y).toModel.unpack = (Float.Model.pack
      (UnpackedFloat.mul Format.binary64 x.toModel.unpack y.toModel.unpack)).unpack := rfl
  rw [product]
  refine below_unpack_pack ?_ (by omega) (by omega)
  generalize x.toModel.unpack = u at hx
  generalize y.toModel.unpack = v at hy
  cases u with
  | zero sign =>
    obtain rfl : sign = .positive := hx
    cases v with
    | zero sign' =>
      obtain rfl : sign' = .positive := hy
      rfl
    | finite sign' m' e' positive' =>
      rcases hy with ⟨rfl, -, -⟩
      rfl
    | _ => cases hy
  | finite sign m e positive =>
    rcases hx with ⟨rfl, mantissa, exponent⟩
    cases v with
    | zero sign' =>
      obtain rfl : sign' = .positive := hy
      rfl
    | finite sign' m' e' positive' =>
      rcases hy with ⟨rfl, mantissa', exponent'⟩
      have bits : Nat.log2 (m * m') < 106 := by
        have small : m * m' < 2 ^ 53 * 2 ^ 53 := Nat.mul_lt_mul'' mantissa mantissa'
        rw [Nat.log2_lt (Nat.mul_pos positive positive').ne']
        rwa [← pow_add] at small
      apply (below_round (m * m') (e + e') .exact).mono
      unfold lastBit
      omega
    | _ => cases hy
  | _ => cases hx

/-- The divisor takes as many bits away as the dividend has. -/
theorem log2_quotient_le {m m' : Nat} (mantissa : m < 2 ^ 53) (full : 2 ^ 52 ≤ m') (k : Nat) :
    Nat.log2 (m <<< k / m') ≤ k := by
  have small : m <<< k / m' < 2 ^ (k + 1) := by
    apply Nat.div_lt_of_lt_mul
    calc m <<< k = m * 2 ^ k := Nat.shiftLeft_eq m k
      _ < 2 ^ 53 * 2 ^ k := Nat.mul_lt_mul_of_pos_right mantissa (Nat.pow_pos (by decide))
      _ = 2 ^ 52 * 2 ^ (k + 1) := by ring
      _ ≤ m' * 2 ^ (k + 1) := Nat.mul_le_mul_right _ full
  rcases Nat.eq_zero_or_pos (m <<< k / m') with none | some
  · rw [none]
    exact Nat.zero_le k
  · have := (Nat.log2_lt (by omega)).mpr small
    omega

theorem below_div {a least greatest : Int} {x y : Float} (hx : Below a x.toModel.unpack)
    (hy : Normal least greatest y.toModel.unpack) (fits : a - least + 1 ≤ 971) :
    Below (max (a - least + 1) (-1073)) (x / y).toModel.unpack := by
  have quotient : (x / y).toModel.unpack = (Float.Model.pack
      (UnpackedFloat.div Format.binary64 x.toModel.unpack y.toModel.unpack)).unpack := rfl
  rw [quotient]
  refine below_unpack_pack ?_ (by omega) (by omega)
  generalize x.toModel.unpack = u at hx
  generalize y.toModel.unpack = v at hy
  cases v with
  | finite sign' m' e' positive' =>
    rcases hy with ⟨rfl, full, -, low, -⟩
    cases u with
    | zero sign =>
      obtain rfl : sign = .positive := hx
      rfl
    | finite sign m e positive =>
      rcases hx with ⟨rfl, mantissa, exponent⟩
      obtain ⟨t, target, shift⟩ : ∃ t : Int, divCore Format.binary64 m e m' e' =
          (m <<< (e - e' - t).toNat / m', t, accuracyOfFraction (m <<< (e - e' - t).toNat % m') m') ∧
          t ≤ e - e' := ⟨_, rfl, min_le_left _ _⟩
      have divided : UnpackedFloat.div Format.binary64 (.finite .positive m e positive)
          (.finite .positive m' e' positive') =
          roundWithAccuracy Format.binary64 .positive (m <<< (e - e' - t).toNat / m') t
            (accuracyOfFraction (m <<< (e - e' - t).toNat % m') m') := by
        unfold UnpackedFloat.div
        simp only [target]
        rfl
      rw [divided]
      have bits := log2_quotient_le mantissa full (e - e' - t).toNat
      apply (below_round _ t _).mono
      unfold lastBit
      omega
    | _ => cases hx
  | _ => cases hy

theorem below_add_zero {a : Int} {x y : Float} (hx : x.toModel.unpack = .zero .positive)
    (hy : Below a y.toModel.unpack) (least : -1074 ≤ a) (fits : a ≤ 971) :
    Below a (x + y).toModel.unpack := by
  have sum : (x + y).toModel.unpack = (Float.Model.pack
      (UnpackedFloat.add Format.binary64 x.toModel.unpack y.toModel.unpack)).unpack := rfl
  rw [sum, hx]
  refine below_unpack_pack ?_ least fits
  generalize y.toModel.unpack = v at hy
  cases v with
  | zero sign =>
    obtain rfl : sign = .positive := hy
    rfl
  | finite sign m e positive => exact hy
  | _ => cases hy

/-! ## Whole numbers -/

theorem log2_shiftLeft {n : Nat} (some : 0 < n) (k : Nat) :
    Nat.log2 (n <<< k) = Nat.log2 n + k := by
  rw [Nat.shiftLeft_eq, Nat.log2_eq_iff (Nat.mul_pos some (Nat.pow_pos (by decide))).ne']
  constructor
  · rw [pow_add]
    exact Nat.mul_le_mul_right _ (Nat.log2_self_le (by omega))
  · rw [show Nat.log2 n + k + 1 = Nat.log2 n + 1 + k by omega, pow_add]
    exact Nat.mul_lt_mul_of_pos_right Nat.lt_log2_self (Nat.pow_pos (by decide))

/-- A whole number of up to 53 bits is shifted until it fills the mantissa. -/
theorem normal_unpacked_ofNat {n : Nat} (some : 0 < n) (small : n < 2 ^ 53) :
    Normal ((Nat.log2 n : Int) - 52) ((Nat.log2 n : Int) - 51)
      (UnpackedFloat.ofNat Format.binary64 n) := by
  have bits := log2_le_of_lt small
  have target : lastBit n 0 = (Nat.log2 n : Int) - 52 := by
    unfold lastBit
    omega
  have positive : compare (n : Int) 0 = .gt := by
    rw [Int.compare_eq_gt]
    omega
  have rounded : UnpackedFloat.ofNat Format.binary64 n = roundWithAccuracy Format.binary64 .positive
      (n <<< (52 - Nat.log2 n)) ((Nat.log2 n : Int) - 52) .exact := by
    unfold UnpackedFloat.ofNat UnpackedFloat.ofInt UnpackedFloat.normalize
    rw [positive]
    simp only [UnpackedFloat.round, decreaseExponent, targetExponent_eq, Int.toNat_natCast, target]
    rw [show (0 - ((Nat.log2 n : Int) - 52)).toNat = 52 - Nat.log2 n by omega,
      show 0 - ((52 - Nat.log2 n : Nat) : Int) = (Nat.log2 n : Int) - 52 by omega]
  have full : Nat.log2 (n <<< (52 - Nat.log2 n)) = 52 := by
    rw [log2_shiftLeft some]
    omega
  have normal := normal_round (m := n <<< (52 - Nat.log2 n)) (e := (Nat.log2 n : Int) - 52) .exact
    (by omega) (by omega)
  rw [full] at normal
  rw [rounded]
  convert normal using 1
  · omega
  · omega

theorem normal_mul_one {least greatest : Int} {x one : Float}
    (h : Normal least greatest x.toModel.unpack)
    (unit : one.toModel.unpack = .finite .positive (2 ^ 52) (-52) (by decide))
    (low : -1074 ≤ least) (fits : greatest + 1 ≤ 971) :
    Normal least (greatest + 1) (x * one).toModel.unpack := by
  have product : (x * one).toModel.unpack = (Float.Model.pack
      (UnpackedFloat.mul Format.binary64 x.toModel.unpack one.toModel.unpack)).unpack := rfl
  rw [product, unit]
  refine normal_unpack_pack ?_ low fits
  generalize x.toModel.unpack = u at h
  cases u with
  | finite sign m e positive =>
    rcases h with ⟨rfl, full, mantissa, from_least, to_greatest⟩
    have leading : Nat.log2 m = 52 := (Nat.log2_eq_iff (by omega)).mpr ⟨full, mantissa⟩
    have bits : Nat.log2 (m * 2 ^ 52) = 104 := by
      rw [← Nat.shiftLeft_eq, log2_shiftLeft positive, leading]
    have rounded := normal_round (m := m * 2 ^ 52) (e := e + -52) .exact (by omega) (by omega)
    rw [bits] at rounded
    have multiplied : UnpackedFloat.mul Format.binary64 (.finite .positive m e positive)
        (.finite .positive (2 ^ 52) (-52) (by decide)) =
        roundWithAccuracy Format.binary64 .positive (m * 2 ^ 52) (e + -52) .exact := rfl
    rw [multiplied]
    exact rounded.mono (by omega) (by omega)
  | _ => cases h

/-- A number of up to 53 bits is converted as a word and multiplied with one. -/
theorem normal_ofNat_small {n : Nat} (some : 0 < n) (small : n < 2 ^ 53) :
    Normal (-52) 14 (Float.ofNat n).toModel.unpack := by
  have bits := log2_le_of_lt small
  have scaled : Float.ofNat n = n.toUInt64.toFloat * Float.ofBits 0x3FF0000000000000 := by
    show Float.ofScientific n false 0 = _
    unfold Float.ofScientific
    rw [dif_pos (by omega)]
    rfl
  have converted : n.toUInt64.toFloat.toModel.unpack =
      (Float.Model.pack (UnpackedFloat.ofNat Format.binary64 n)).unpack := by
    show (Float.Model.pack (UnpackedFloat.ofNat Format.binary64 n.toUInt64.toNat)).unpack = _
    rw [show n.toUInt64.toNat = n from Nat.mod_eq_of_lt (by omega)]
  have normal := normal_unpack_pack (normal_unpacked_ofNat some small) (by omega) (by omega)
  rw [← converted] at normal
  rw [scaled]
  exact (normal_mul_one normal rfl (by omega) (by omega)).mono (by omega) (by omega)

/-- A number of more bits is rounded. -/
theorem unpack_ofNat_large {n : Nat} (large : 2 ^ 53 ≤ n) :
    (Float.ofNat n).toModel.unpack = (Float.Model.pack
      (roundWithAccuracy Format.binary64 .positive (n <<< 53 * 10 ^ 0) (-53 + 0) .exact)).unpack := by
  have leading : 53 ≤ Nat.log2 n := (Nat.le_log2 (by omega)).mpr large
  have whole : Float.ofNat n = Float.ofModel (Float.Model.ofScientific n 0) := by
    show Float.ofScientific n false 0 = _
    unfold Float.ofScientific
    rw [dif_neg (by omega)]
    rfl
  have scaled : UnpackedFloat.ofScientific Format.binary64 n 0 =
      roundWithAccuracy Format.binary64 .positive (n <<< 53 * 10 ^ 0) (-53 + 0) .exact := by
    have exponents : (2 : Int) ^ Format.binary64.exponentBits = 2048 := rfl
    unfold UnpackedFloat.ofScientific
    rw [exponents, dif_neg (by omega), if_neg (by decide), if_neg (by omega),
      if_pos (le_refl _)]
    rfl
  have packed : (Float.ofNat n).toModel.unpack = (Float.Model.pack
      (UnpackedFloat.ofScientific Format.binary64 n 0)).unpack := by
    rw [whole]
    rfl
  rw [packed, scaled]

theorem normal_ofNat_large {n : Nat} (large : 2 ^ 53 ≤ n) (word : n < 2 ^ 64) :
    Normal (-52) 14 (Float.ofNat n).toModel.unpack := by
  have bits : Nat.log2 n < 64 := (Nat.log2_lt (by omega)).mpr word
  have leading : 53 ≤ Nat.log2 n := (Nat.le_log2 (by omega)).mpr large
  have full : Nat.log2 (n <<< 53 * 10 ^ 0) = Nat.log2 n + 53 := by
    rw [pow_zero, Nat.mul_one, log2_shiftLeft (by omega)]
  rw [unpack_ofNat_large large]
  generalize n <<< 53 * 10 ^ 0 = m at full
  have rounded : Normal (-52) 14
      (roundWithAccuracy Format.binary64 .positive m (-53 + 0) .exact) :=
    (normal_round .exact (by omega) (by omega)).mono (by omega) (by omega)
  exact normal_unpack_pack rounded (by omega) (by omega)

/-- A positive word becomes a float that fills its mantissa. -/
theorem normal_ofNat {n : Nat} (some : 0 < n) (word : n < 2 ^ 64) :
    Normal (-52) 14 (Float.ofNat n).toModel.unpack := by
  rcases Nat.lt_or_ge n (2 ^ 53) with small | large
  · exact normal_ofNat_small some small
  · exact normal_ofNat_large large word

/-! ## Back to the bits -/

theorem toNat_unpackExponent (b : BitVec 64) :
    (@unpackExponent Format.binary64 b).toNat = b.toNat / 2 ^ 52 % 2048 := by
  rw [unpackExponent_def, BitVec.extractLsb'_toNat, Nat.shiftRight_eq_div_pow]
  rfl

theorem toNat_unpackSign (b : BitVec 64) :
    (@unpackSign Format.binary64 b).toNat = b.toNat / 2 ^ 63 % 2 := by
  rw [unpackSign_def, BitVec.extractLsb'_toNat, Nat.shiftRight_eq_div_pow]
  rfl

theorem sign_of_below {a : Int} {b : BitVec 64}
    (h : Below a (UnpackedFloat.unpack Format.binary64 b)) :
    Sign.ofBitVec (@unpackSign Format.binary64 b) = .positive ∧
      @unpackExponent Format.binary64 b ≠ -1#11 := by
  unfold UnpackedFloat.unpack at h
  simp only at h
  split at h
  · split at h <;> cases h
  · rename_i finite
    refine ⟨?_, finite⟩
    split at h
    · split at h
      · exact h
      · exact h.1
    · exact h.1

/-- A float that is not negative and not too large is finite. -/
theorem decode_of_below {a : Int} {x : Float} (h : Below a x.toModel.unpack) :
    ∃ m e, decode x = .finite false m e := by
  have parts : x.toModel.unpack = UnpackedFloat.unpack Format.binary64 x.toBits.toBitVec := rfl
  rw [parts] at h
  obtain ⟨sign, exponent⟩ := sign_of_below h
  have plus : x.toBits.toNat / 2 ^ 63 % 2 = 0 := by
    rw [← UInt64.toNat_toBitVec, ← toNat_unpackSign]
    by_contra other
    unfold Sign.ofBitVec at sign
    rw [if_neg] at sign
    · cases sign
    · rintro none
      rw [none] at other
      exact other rfl
  have field : x.toBits.toNat / 2 ^ 52 % 2048 ≠ 2047 := by
    rw [← UInt64.toNat_toBitVec, ← toNat_unpackExponent]
    intro all
    exact exponent (BitVec.eq_of_toNat_eq all)
  unfold decode ofBits
  simp only [Nat.pow_eq, beq_iff_eq]
  rw [if_neg field, plus]
  split
  · exact ⟨_, _, rfl⟩
  · exact ⟨_, _, rfl⟩

end Microbench.Binary64
