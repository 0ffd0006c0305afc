import Microbench.Proofs.Binary64.Rounding
import Microbench.Proofs.Binary64.Signs

/-!
# Products of floats

The product of two floats is the float nearest to the product of their values: `decode_mul`. An
unpacked float is what its bits stand for (`ofBits_eq_valueOf`), and shifting a mantissa to the right
keeps enough of the bits that are dropped to round to the nearest whole number (`Approximates`).
-/

namespace Microbench.Binary64

open Float.Model Float.Model.UnpackedFloat

/-! ## Unpacked floats -/

/-- Whether a sign is a minus. -/
def isMinus : Sign → Bool
  | .positive => false
  | .negative => true

/-- What an unpacked float stands for. -/
def valueOf : UnpackedFloat → Value
  | .notANumber => .nan
  | .infinity sign => .infinite (isMinus sign)
  | .zero sign => .finite (isMinus sign) 0 leastExponent
  | .finite sign m e _ => .finite (isMinus sign) m e

theorem isMinus_ofBitVec (b : BitVec 1) : isMinus (Sign.ofBitVec b) = (b.toNat == 1) := by
  revert b
  decide

theorem eq_zero_iff {n : Nat} {v : BitVec n} : v = 0#n ↔ v.toNat = 0 :=
  ⟨fun none => none ▸ BitVec.toNat_zero, fun none => BitVec.eq_of_toNat_eq none⟩

theorem eq_ones_iff {field : BitVec 11} : field = -1#11 ↔ field.toNat = 2047 :=
  ⟨fun all => all ▸ rfl, fun all => BitVec.eq_of_toNat_eq all⟩

/-- Bits are unpacked to what they stand for. -/
theorem ofBits_eq_valueOf (b : BitVec 64) :
    ofBits b.toNat = valueOf (UnpackedFloat.unpack Format.binary64 b) := by
  have bias : ((Format.binary64.exponentBias : Int) + (52 : Nat)) = 1075 := rfl
  have least : leastExponent = -1074 := rfl
  unfold ofBits UnpackedFloat.unpack
  simp only [Nat.pow_eq, beq_iff_eq, ← toNat_unpackExponent, ← toNat_unpackSign,
    ← toNat_unpackMantissa, bias, least]
  by_cases ones : (@unpackExponent Format.binary64 b).toNat = 2047
  · rw [if_pos ones, if_pos (eq_ones_iff.mpr ones)]
    by_cases none : (@unpackMantissa Format.binary64 b).toNat = 0
    · rw [if_pos none, if_pos (eq_zero_iff.mpr none), valueOf, isMinus_ofBitVec]
    · rw [if_neg none, if_neg (mt eq_zero_iff.mp none), valueOf]
  · rw [if_neg ones, if_neg (mt eq_ones_iff.mp ones)]
    by_cases low : (@unpackExponent Format.binary64 b).toNat = 0
    · rw [if_pos low, if_pos (eq_zero_iff.mpr low)]
      by_cases none : (@unpackMantissa Format.binary64 b).toNat = 0
      · rw [dif_pos (eq_zero_iff.mpr none), valueOf, isMinus_ofBitVec, none, least]
      · rw [dif_neg (mt eq_zero_iff.mp none), valueOf, isMinus_ofBitVec, low]
        rfl
    · rw [if_neg low, if_neg (mt eq_zero_iff.mp low), valueOf, isMinus_ofBitVec, toNat_implicit]
      congr 1
      omega

theorem decode_eq_valueOf (x : Float) : decode x = valueOf x.toModel.unpack :=
  ofBits_eq_valueOf x.toBits.toBitVec

/-- A positive float is unpacked to its mantissa and exponent. -/
theorem unpack_of_decode {x : Float} {m : Nat} {e : Int} (h : decode x = .finite false m e)
    (some : 0 < m) : x.toModel.unpack = .finite .positive m e some := by
  rw [decode_eq_valueOf] at h
  cases unpacked : x.toModel.unpack with
  | finite sign m' e' positive =>
    rw [unpacked] at h
    cases sign with
    | positive =>
      cases h
      rfl
    | negative => cases h
  | zero sign =>
    rw [unpacked] at h
    injection h with _ none _
    omega
  | infinity sign =>
    rw [unpacked] at h
    cases h
  | notANumber =>
    rw [unpacked] at h
    cases h

theorem lt_iff (x y : Float) :
    x < y ↔ UnpackedFloat.lt x.toModel.unpack y.toModel.unpack = true := by
  have comparison : x < y ↔ decide (x.toModel < y.toModel) = true := Iff.rfl
  rw [comparison, decide_eq_true_iff]
  exact Iff.rfl

theorem not_lt_zero {x : Float} {m : Nat} {e : Int} (h : decode x = .finite false m e)
    (some : 0 < m) : ¬x < 0.0 := by
  have zero : (0.0 : Float).toModel.unpack = .zero .positive := rfl
  rw [lt_iff, unpack_of_decode h some, zero]
  exact Bool.false_ne_true

theorem valueOf_unpack_components {field : BitVec 11} {part : BitVec 52} (finite : field ≠ -1#11) :
    valueOf (UnpackedFloat.unpack Format.binary64
      (packComponents Format.binary64 .positive field part)) =
      if field.toNat = 0 then .finite false part.toNat leastExponent
      else .finite false (2 ^ 52 + part.toNat) ((field.toNat : Int) - 1075) := by
  unfold UnpackedFloat.unpack
  simp only [unpackMantissa_packComponents, unpackExponent_packComponents,
    unpackSign_packComponents, Sign.ofBitVec_toBitVec]
  rw [if_neg finite]
  by_cases low : field.toNat = 0
  · rw [if_pos (eq_zero_iff.mpr low), if_pos low]
    by_cases none : part.toNat = 0
    · rw [dif_pos (eq_zero_iff.mpr none), none]
      rfl
    · rw [dif_neg (mt eq_zero_iff.mp none), valueOf, low]
      rfl
  · rw [if_neg (mt eq_zero_iff.mp low), if_neg low, valueOf, toNat_implicit]
    rfl

/-- A positive float that is canonical is packed without loss. -/
theorem decode_pack {m : Nat} {e : Int} (canonical : Canonical m e) (some : 0 < m) :
    decode (Float.ofModel (Float.Model.pack (.finite .positive m e some))) = .finite false m e := by
  have packed : decode (Float.ofModel (Float.Model.pack (.finite .positive m e some))) =
      valueOf (UnpackedFloat.unpack Format.binary64
        (UnpackedFloat.pack Format.binary64 (.finite .positive m e some))) :=
    ofBits_eq_valueOf _
  obtain ⟨mantissa, least, greatest, leading⟩ := canonical
  have least_eq : leastExponent = -1074 := rfl
  rw [packed, pack_finite some greatest]
  rcases Nat.lt_or_ge m (2 ^ 52) with part | full
  · have tiny := leading.resolve_left (by omega)
    have bits : Nat.log2 m + 1 ≠ 53 := by
      have := (Nat.log2_lt (by omega)).mpr part
      omega
    have kept : (BitVec.ofNat 52 m).toNat = m := by
      rw [BitVec.toNat_ofNat, Nat.mod_eq_of_lt part]
    rw [if_neg bits, valueOf_unpack_components (by decide), if_pos BitVec.toNat_zero, kept,
      tiny]
  · have bits : Nat.log2 m + 1 = 53 := by
      rw [(Nat.log2_eq_iff (by omega)).mpr ⟨full, mantissa⟩]
    have kept : (BitVec.ofNat 52 m).toNat = m - 2 ^ 52 := by
      rw [BitVec.toNat_ofNat]
      omega
    have whole : 2 ^ 52 + (m - 2 ^ 52) = m := Nat.add_sub_cancel' full
    have exponent : ((e + 1075).toNat : Int) - 1075 = e := by omega
    rw [if_pos bits, valueOf_unpack_components (field_ne greatest), toNat_field greatest,
      if_neg (by omega), kept, whole, exponent]

/-! ## Mantissas shifted to the right -/

/-- A whole part with two further bits: whether a fraction is half way to the next whole number or
farther, and whether it is neither at the whole part nor half way. -/
structure Approximates (x : ExtendedMantissa) (y : ℚ) : Prop where
  low : (x.mantissa : ℚ) ≤ y
  high : y < x.mantissa + 1
  round : x.roundBit = true ↔ x.mantissa + 1 / 2 ≤ y
  sticky : x.stickyBit = true ↔ y ≠ x.mantissa ∧ y ≠ x.mantissa + 1 / 2

theorem approximates_exact (m : Nat) :
    Approximates (ExtendedMantissa.ofMantissaAndAccuracy m .exact) m := by
  refine ⟨le_refl _, lt_add_one _, ?_, ?_⟩
  · simp [ExtendedMantissa.ofMantissaAndAccuracy]
  · simp [ExtendedMantissa.ofMantissaAndAccuracy]

/-- One of the two bits is set unless nothing is left behind the whole part. -/
theorem Approximates.rest {x : ExtendedMantissa} {y : ℚ} (h : Approximates x y) :
    (x.roundBit || x.stickyBit) = true ↔ y ≠ x.mantissa := by
  rw [Bool.or_eq_true, h.round, h.sticky]
  constructor
  · rintro (half | ⟨other, -⟩)
    · exact fun same => by linarith
    · exact other
  · intro other
    rcases le_or_gt ((x.mantissa : ℚ) + 1 / 2) y with half | less
    · exact .inl half
    · exact .inr ⟨other, less.ne⟩

theorem Approximates.shiftRightOne {x : ExtendedMantissa} {y : ℚ} (h : Approximates x y) :
    Approximates x.shiftRightOne (y / 2) := by
  have rest := h.rest
  rcases h with ⟨low, high, -, -⟩
  have parts : (x.mantissa : ℚ) = 2 * (x.mantissa / 2 : Nat) + (x.mantissa % 2 : Nat) := by
    exact_mod_cast (Nat.div_add_mod x.mantissa 2).symm
  have half : x.shiftRightOne.mantissa = x.mantissa / 2 := rfl
  have round : x.shiftRightOne.roundBit = true ↔ x.mantissa % 2 ≠ 0 := bne_iff_ne
  have sticky : x.shiftRightOne.stickyBit = true ↔ y ≠ x.mantissa := rest
  rcases Nat.mod_two_eq_zero_or_one x.mantissa with even | odd
  · rw [even, Nat.cast_zero, add_zero] at parts
    refine ⟨?_, ?_, ?_, ?_⟩ <;> rw [half]
    · linarith
    · linarith
    · rw [round, even]
      exact ⟨fun some => absurd rfl some, fun some => by linarith⟩
    · rw [sticky, parts]
      refine ⟨fun other => ⟨fun same => other ?_, fun same => ?_⟩, fun other same => other.1 ?_⟩
      all_goals linarith
  · rw [odd, Nat.cast_one] at parts
    refine ⟨?_, ?_, ?_, ?_⟩ <;> rw [half]
    · linarith
    · linarith
    · rw [round, odd]
      exact ⟨fun _ => by linarith, fun _ => one_ne_zero⟩
    · rw [sticky, parts]
      refine ⟨fun other => ⟨fun same => ?_, fun same => other ?_⟩, fun other same => other.2 ?_⟩
      all_goals linarith

theorem Approximates.shiftRight {x : ExtendedMantissa} {y : ℚ} (h : Approximates x y) (k : Nat) :
    Approximates (x >>> k) (y / 2 ^ k) := by
  induction k with
  | zero =>
    rw [pow_zero, div_one]
    exact h
  | succ k ih =>
    rw [pow_succ, ← div_div]
    exact ih.shiftRightOne

/-- The bits are enough to round to the nearest whole number. -/
theorem Approximates.roundsTo {x : ExtendedMantissa} {y : ℚ} (h : Approximates x y) :
    RoundsTo x.roundedMantissa y := by
  rcases x with ⟨m, roundBit, stickyBit⟩
  rcases h with ⟨low, high, round, sticky⟩
  simp only at low high round sticky
  unfold ExtendedMantissa.roundedMantissa
  cases roundBit with
  | false =>
    have below : y < m + 1 / 2 := by
      rw [← not_le, ← round]
      exact Bool.false_ne_true
    have kept : (ExtendedMantissa.mk m false stickyBit).accuracy.roundToNearestEven m = m := by
      cases stickyBit <;> rfl
    rw [kept]
    exact ⟨by linarith, by linarith, fun _ => by linarith, fun _ => by linarith⟩
  | true =>
    have half := round.mp rfl
    cases stickyBit with
    | false =>
      have tie : y = m + 1 / 2 := by
        by_contra other
        exact Bool.false_ne_true (sticky.mpr ⟨fun same => by linarith, other⟩)
      have rounded : (ExtendedMantissa.mk m true false).accuracy.roundToNearestEven m =
        m + m % 2 := rfl
      rw [rounded, tie]
      rcases Nat.mod_two_eq_zero_or_one m with even | odd
      · rw [even, add_zero]
        exact ⟨by linarith, le_refl _, fun odd => by omega, fun odd => by omega⟩
      · rw [odd]
        refine ⟨?_, ?_, fun odd' => by omega, fun odd' => by omega⟩ <;> push_cast <;> linarith
    | true =>
      have beyond : (m : ℚ) + 1 / 2 < y := lt_of_le_of_ne half (Ne.symm (sticky.mp rfl).2)
      have rounded : (ExtendedMantissa.mk m true true).accuracy.roundToNearestEven m = m + 1 := rfl
      rw [rounded]
      refine ⟨?_, ?_, fun _ => ?_, fun _ => ?_⟩ <;> push_cast <;> linarith

/-! ## Products -/

/-- A whole number of more than 52 bits is rounded to the nearest float, at any scale within range. -/
theorem rounds_roundWithAccuracy {m : Nat} {e : Int} (bits : 52 ≤ Nat.log2 m)
    (least : leastExponent ≤ (Nat.log2 m : Int) + e - 52)
    (greatest : (Nat.log2 m : Int) + e - 52 < 971) :
    ∃ r f, ∃ positive : 0 < r, roundWithAccuracy Format.binary64 .positive m e .exact =
      .finite .positive r f positive ∧ Canonical r f ∧ Rounds r f (m * 2 ^ e) ∧ 2 ^ 52 ≤ r := by
  have some : m ≠ 0 := by
    rintro rfl
    exact absurd bits (by decide)
  obtain ⟨k, split⟩ : ∃ k, Nat.log2 m = 52 + k := ⟨Nat.log2 m - 52, by omega⟩
  have last : lastBit m e = e + k := by
    unfold lastBit
    unfold leastExponent at least
    omega
  have dropped : (lastBit m e - e).toNat = k := by omega
  obtain ⟨r, -, -, rounded, result⟩ := roundWithAccuracy_eq .positive m e .exact
  rw [dropped] at rounded
  have scaled : (m : ℚ) * 2 ^ e * 2 ^ (-(e + k)) = m / 2 ^ k := by
    rw [neg_add, zpow_add₀ (by norm_num), ← mul_assoc, mul_zpow_neg, zpow_neg, zpow_natCast,
      div_eq_mul_inv]
  have near : RoundsTo r ((m : ℚ) * 2 ^ e * 2 ^ (-(e + k))) := by
    rw [scaled, rounded]
    exact ((approximates_exact m).shiftRight k).roundsTo
  have fills : (2 : ℚ) ^ 52 ≤ (m : ℚ) * 2 ^ e * 2 ^ (-(e + k)) := by
    rw [scaled, le_div_iff₀ (by positivity), ← pow_add, ← split]
    exact_mod_cast Nat.log2_self_le some
  have fits : (m : ℚ) * 2 ^ e * 2 ^ (-(e + k)) < 2 ^ 53 := by
    have high : m < 2 ^ (53 + k) := by
      rw [show 53 + k = Nat.log2 m + 1 by omega]
      exact Nat.lt_log2_self
    rw [scaled, div_lt_iff₀ (by positivity), ← pow_add]
    exact_mod_cast high
  rw [result, last, max_eq_right (by omega)]
  rcases rounds_of_roundsTo (by omega) near fills fits with ⟨full, small, rounds⟩ | ⟨carry, rounds⟩
  · rw [dif_neg (by omega), if_pos small]
    exact ⟨r, e + k, by omega, rfl, ⟨small, by omega, by omega, .inl full⟩, rounds, full⟩
  · rw [dif_neg (by omega), if_neg (by omega)]
    exact ⟨2 ^ 52, e + k + 1, by decide, rfl, ⟨by decide, by omega, by omega, .inl (le_refl _)⟩,
      rounds, le_refl _⟩

/-- The product of two floats that fill their mantissas is the float nearest to the product of their
values. -/
theorem decode_mul {x y : Float} {m m' : Nat} {e e' : Int} (hx : decode x = .finite false m e)
    (hy : decode y = .finite false m' e') (full : 2 ^ 52 ≤ m) (full' : 2 ^ 52 ≤ m')
    (least : leastExponent ≤ e + e' + 52) (greatest : e + e' + 54 ≤ 971) :
    ∃ r f, decode (x * y) = .finite false r f ∧
      NearestValue ((m : ℚ) * 2 ^ e * (m' * 2 ^ e')) (r * 2 ^ f) := by
  obtain ⟨⟨mantissa, -⟩, -⟩ := decode_eq_finite hx
  obtain ⟨⟨mantissa', -⟩, -⟩ := decode_eq_finite hy
  have low : 2 ^ 52 * 2 ^ 52 ≤ m * m' := Nat.mul_le_mul full full'
  have high : m * m' < 2 ^ 53 * 2 ^ 53 := Nat.mul_lt_mul'' mantissa mantissa'
  have bits : 104 ≤ Nat.log2 (m * m') := (Nat.le_log2 (by omega)).mpr low
  have bits' : Nat.log2 (m * m') < 106 := (Nat.log2_lt (by omega)).mpr high
  obtain ⟨r, f, positive, rounded, canonical, rounds, -⟩ :=
    rounds_roundWithAccuracy (m := m * m') (e := e + e') (by omega) (by omega) (by omega)
  have product : x * y = Float.ofModel (Float.Model.pack (.finite .positive r f positive)) := by
    have multiplied : x * y = Float.ofModel (Float.Model.pack
      (UnpackedFloat.mul Format.binary64 x.toModel.unpack y.toModel.unpack)) := rfl
    rw [multiplied, unpack_of_decode hx (by omega), unpack_of_decode hy (by omega), ← rounded]
    rfl
  have values : (m : ℚ) * 2 ^ e * (m' * 2 ^ e') = (m * m' : Nat) * 2 ^ (e + e') := by
    rw [zpow_add₀ (by norm_num)]
    push_cast
    ring
  rw [values, product]
  exact ⟨r, f, decode_pack canonical positive, r, f, canonical, rounds, rfl⟩

/-! ## Fractions -/

/-- The float that a fraction is read as is the nearest one, and fills its mantissa unless the fraction
is tiny. -/
theorem decode_nearest {num den : Nat} {a b : Int} (positive : 0 < den)
    (low : (2 : ℚ) ^ a ≤ (num : ℚ) / den) (high : (num : ℚ) / den < 2 ^ b)
    (least : leastExponent + 52 ≤ a) (greatest : b ≤ 1023) :
    ∃ m e, decode (nearest false num den) = .finite false m e ∧
      NearestValue ((num : ℚ) / den) (m * 2 ^ e) ∧ 2 ^ 52 ≤ m ∧ a - 52 ≤ e ∧ e ≤ b - 52 := by
  have some : 0 < num := by
    by_contra none
    rw [Nat.eq_zero_of_not_pos none, Nat.cast_zero, zero_div] at low
    exact absurd low (not_le.mpr (two_zpow_pos a))
  obtain ⟨least', fits, fills⟩ := exponentFor_spec some positive
  generalize exponentFor num den = e at least' fits fills
  have fills : (2 : ℚ) ^ (e + 52) ≤ (num : ℚ) / den := by
    rcases fills with tiny | fills
    · exact (two_zpow_le (by omega)).trans low
    · exact fills
  have above : a < e + 53 := (zpow_lt_zpow_iff_right₀ (by norm_num)).mp (low.trans_lt fits)
  have below : e + 52 < b := (zpow_lt_zpow_iff_right₀ (by norm_num)).mp (fills.trans_lt high)
  have scale := two_zpow_pos (-e)
  have scaled (k : Nat) : (2 : ℚ) ^ (e + k) * 2 ^ (-e) = 2 ^ k := by
    rw [← zpow_add₀ (by norm_num), show e + k + -e = (k : Int) by omega, zpow_natCast]
  obtain ⟨m, e', canonical, rounds, full, from_e, to_next⟩ := exists_rounds least' (by omega)
    ((scaled 52).ge.trans (mul_le_mul_of_nonneg_right fills scale.le))
    ((mul_lt_mul_of_pos_right fits scale).trans_eq (scaled 53))
  have found := decode_pack canonical (by omega)
  have same := nearest_eq_of_bits found
    (nearestBits_eq_of_rounds positive canonical (by omega) rounds)
  rw [same]
  exact ⟨m, e', found, ⟨m, e', canonical, rounds, rfl⟩, full, by omega, by omega⟩

/-! ## Whole parts -/

theorem clampWhole_le {lo hi : Int} (room : lo ≤ hi) (x : Float) : clampWhole lo hi x ≤ hi := by
  unfold clampWhole
  split
  · omega
  · split <;> omega
  · omega

/-- The whole part of a float is that of its value. -/
theorem truncate?_of_decode {x : Float} {m : Nat} {e : Int} (h : decode x = .finite false m e) :
    truncate? x = some ((⌊(m : ℚ) * 2 ^ e⌋₊ : Nat) : Int) := by
  have whole : (if 0 ≤ e then m * Nat.pow 2 e.toNat else m / Nat.pow 2 (-e).toNat) =
      ⌊(m : ℚ) * 2 ^ e⌋₊ := by
    split
    · rename_i up
      have power : (m : ℚ) * 2 ^ e = (m * 2 ^ e.toNat : Nat) := by
        push_cast
        rw [← zpow_natCast, Int.toNat_of_nonneg up]
      rw [power, Nat.floor_natCast, Nat.pow_eq]
    · rename_i down
      have power : (m : ℚ) * 2 ^ e = (m : ℚ) / (2 ^ (-e).toNat : Nat) := by
        push_cast
        rw [← zpow_natCast, Int.toNat_of_nonneg (by omega), zpow_neg, div_inv_eq_mul]
      rw [power, Nat.floor_div_eq_div, Nat.pow_eq]
  unfold truncate?
  rw [h]
  simp only [whole, Bool.false_eq_true, if_false]

theorem clampWhole_of_decode {x : Float} {m limit : Nat} {e : Int}
    (h : decode x = .finite false m e) (fits : ⌊(m : ℚ) * 2 ^ e⌋₊ ≤ limit) :
    (clampWhole 0 limit x).toNat = ⌊(m : ℚ) * 2 ^ e⌋₊ := by
  unfold clampWhole
  rw [truncate?_of_decode h, h]
  simp only [Option.getD_some]
  omega

end Microbench.Binary64
