import Microbench.Proofs.Binary64.Operations
import Microbench.Statistics

/-!
# Signs of floats

Whole numbers are not negative as floats, whatever their size, and neither are sums and quotients of
floats that are not negative: an operation on two of them may overflow or give no number, but its
sign is plus. So the mean of whole numbers has a whole part that is not negative
(`clampWhole_mean_nonneg`).
-/

namespace Microbench.Binary64

open Float.Model Float.Model.UnpackedFloat

/-- No number, or one with the sign plus. -/
def NotNegative : UnpackedFloat → Prop
  | .notANumber => True
  | .infinity sign => sign = .positive
  | .zero sign => sign = .positive
  | .finite sign _ _ _ => sign = .positive

theorem Below.notNegative {a : Int} {u : UnpackedFloat} (h : Below a u) : NotNegative u := by
  cases u with
  | zero sign => exact h
  | finite sign m e positive => exact h.1
  | _ => cases h

/-! ## Rounding and packing -/

theorem notNegative_round (m : Nat) (e : Int) (a : Accuracy) :
    NotNegative (roundWithAccuracy Format.binary64 .positive m e a) := by
  unfold roundWithAccuracy
  simp only
  split <;> rfl

theorem notNegative_unpack_components (field : BitVec 11) (v : BitVec 52) :
    NotNegative (UnpackedFloat.unpack Format.binary64
      (packComponents Format.binary64 .positive field v)) := by
  have plus : Sign.ofBitVec (@unpackSign Format.binary64
      (packComponents Format.binary64 .positive field v)) = .positive := by
    rw [unpackSign_packComponents, Sign.ofBitVec_toBitVec]
  unfold UnpackedFloat.unpack
  simp only [plus]
  split
  · split
    · rfl
    · trivial
  · split
    · split <;> rfl
    · rfl

/-- Packing keeps the sign. -/
theorem notNegative_unpack_pack {u : UnpackedFloat} (h : NotNegative u) :
    NotNegative (Float.Model.pack u).unpack := by
  have unpacked : (Float.Model.pack u).unpack =
      UnpackedFloat.unpack Format.binary64 (UnpackedFloat.pack Format.binary64 u) := rfl
  rw [unpacked]
  cases u with
  | notANumber => exact notNegative_unpack_components _ _
  | infinity sign =>
    obtain rfl : sign = .positive := h
    exact notNegative_unpack_components _ _
  | zero sign =>
    obtain rfl : sign = .positive := h
    exact notNegative_unpack_components _ _
  | finite sign m e positive =>
    obtain rfl : sign = .positive := h
    unfold UnpackedFloat.pack
    simp only
    split
    · exact notNegative_unpack_components _ _
    · split <;> exact notNegative_unpack_components _ _

/-! ## Operations -/

theorem notNegative_div {u v : UnpackedFloat} (hu : NotNegative u) (hv : NotNegative v) :
    NotNegative (UnpackedFloat.div Format.binary64 u v) := by
  cases u <;> cases v <;> unfold UnpackedFloat.div <;> simp only [NotNegative] at hu hv ⊢ <;>
    subst_vars <;> first | exact notNegative_round _ _ _ | rfl

theorem notNegative_add {u v : UnpackedFloat} (hu : NotNegative u) (hv : NotNegative v) :
    NotNegative (UnpackedFloat.add Format.binary64 u v) := by
  cases u with
  | finite sign m e positive =>
    cases v with
    | finite sign' m' e' positive' =>
      obtain rfl : sign = .positive := hu
      obtain rfl : sign' = .positive := hv
      unfold UnpackedFloat.add UnpackedFloat.normalize
      simp only [Sign.apply]
      split
      · rename_i below
        rw [Int.compare_eq_lt] at below
        omega
      · rfl
      · exact notNegative_round _ _ _
    | _ => first | exact hu | exact hv
  | _ =>
    cases v <;> unfold UnpackedFloat.add <;> simp only [NotNegative] at hu hv ⊢ <;> subst_vars <;>
      rfl

/-! ## Floats -/

theorem notNegative_float_add {x y : Float} (hx : NotNegative x.toModel.unpack)
    (hy : NotNegative y.toModel.unpack) : NotNegative (x + y).toModel.unpack :=
  notNegative_unpack_pack (notNegative_add hx hy)

theorem notNegative_float_div {x y : Float} (hx : NotNegative x.toModel.unpack)
    (hy : NotNegative y.toModel.unpack) : NotNegative (x / y).toModel.unpack :=
  notNegative_unpack_pack (notNegative_div hx hy)

/-- A whole number of any size is not negative as a float. -/
theorem notNegative_ofNat (n : Nat) : NotNegative (Float.ofNat n).toModel.unpack := by
  rcases Nat.lt_or_ge n (2 ^ 53) with small | large
  · rcases Nat.eq_zero_or_pos n with rfl | some
    · have none : (Float.ofNat 0).toModel.unpack = .zero .positive := by rfl
      rw [none]
      rfl
    · exact (normal_ofNat_small some small).below.notNegative
  · rw [unpack_ofNat_large large]
    generalize n <<< 53 * 10 ^ 0 = m
    exact notNegative_unpack_pack (notNegative_round _ _ _)

/-! ## Whole parts -/

theorem toNat_unpackMantissa (b : BitVec 64) :
    (@unpackMantissa Format.binary64 b).toNat = b.toNat % 2 ^ 52 := by
  rw [unpackMantissa_def, BitVec.extractLsb'_toNat, Nat.shiftRight_eq_div_pow, pow_zero, Nat.div_one]

/-- The bits of a float that is not negative have no sign, or they are those of no number. -/
theorem sign_of_notNegative {b : BitVec 64}
    (h : NotNegative (UnpackedFloat.unpack Format.binary64 b)) :
    b.toNat / 2 ^ 63 % 2 = 0 ∨ b.toNat / 2 ^ 52 % 2048 = 2047 ∧ b.toNat % 2 ^ 52 ≠ 0 := by
  have zero_of : Sign.ofBitVec (@unpackSign Format.binary64 b) = .positive →
      b.toNat / 2 ^ 63 % 2 = 0 := by
    intro plus
    rw [← toNat_unpackSign]
    by_contra other
    unfold Sign.ofBitVec at plus
    rw [if_neg fun none => other (by rw [none]; rfl)] at plus
    cases plus
  unfold UnpackedFloat.unpack at h
  simp only at h
  split at h
  · rename_i all
    split at h
    · exact .inl (zero_of h)
    · rename_i some
      refine .inr ⟨?_, ?_⟩
      · rw [← toNat_unpackExponent, all]
        rfl
      · rw [← toNat_unpackMantissa]
        exact fun none => some (BitVec.eq_of_toNat_eq none)
  · split at h
    · split at h <;> exact .inl (zero_of h)
    · exact .inl (zero_of h)

/-- A float that is not negative has no negative value. -/
theorem decode_of_notNegative {x : Float} (h : NotNegative x.toModel.unpack) :
    (∀ m e, decode x ≠ .finite true m e) ∧ decode x ≠ .infinite true := by
  have parts : x.toModel.unpack = UnpackedFloat.unpack Format.binary64 x.toBits.toBitVec := rfl
  rw [parts] at h
  have signs := sign_of_notNegative h
  rw [UInt64.toNat_toBitVec] at signs
  have p63 : Nat.pow 2 63 = 2 ^ 63 := rfl
  have p52 : Nat.pow 2 52 = 2 ^ 52 := rfl
  unfold decode ofBits
  simp only [p63, p52, beq_iff_eq]
  rcases signs with plus | ⟨all, some⟩
  · rw [plus]
    split
    · split <;> exact ⟨nofun, nofun⟩
    · split <;> exact ⟨nofun, nofun⟩
  · rw [if_pos all, if_neg some]
    exact ⟨nofun, nofun⟩

/-- The whole part of a float that is not negative is not negative either. -/
theorem clampWhole_nonneg {x : Float} {lo hi : Int} (h : NotNegative x.toModel.unpack)
    (room : 0 ≤ hi) : 0 ≤ clampWhole lo hi x := by
  obtain ⟨finite, infinite⟩ := decode_of_notNegative h
  unfold clampWhole
  cases decoded : decode x with
  | nan => simp only; omega
  | infinite negative =>
    cases negative with
    | true => exact absurd decoded infinite
    | false => simpa using room
  | finite negative m e =>
    cases negative with
    | true => exact absurd decoded (finite m e)
    | false =>
      have whole : 0 ≤ (truncate? x).getD 0 := by
        unfold truncate?
        rw [decoded]
        simp only [Bool.false_eq_true, if_false, Option.getD_some]
        exact Int.natCast_nonneg _
      simp only
      omega

/-! ## Means -/

theorem notNegative_foldl {x : Float} {ys : List Float} (hx : NotNegative x.toModel.unpack)
    (hys : ∀ y ∈ ys, NotNegative y.toModel.unpack) :
    NotNegative (ys.foldl (· + ·) x).toModel.unpack := by
  induction ys generalizing x with
  | nil => exact hx
  | cons y ys ih =>
    obtain ⟨hy, hys⟩ := List.forall_mem_cons.mp hys
    exact ih (notNegative_float_add hx hy) hys

theorem notNegative_mean {xs : List Float} (h : ∀ x ∈ xs, NotNegative x.toModel.unpack) :
    NotNegative (mean xs).toModel.unpack := by
  unfold mean
  cases xs with
  | nil => exact notNegative_ofNat 0
  | cons x xs =>
    obtain ⟨hx, hxs⟩ := List.forall_mem_cons.mp h
    exact notNegative_float_div (notNegative_foldl hx hxs) (notNegative_ofNat _)

end Microbench.Binary64

namespace Microbench.RunStatistics

theorem clampDuration_nonneg (n : Nat) : 0 ≤ clampDuration n := by
  have room : 0 ≤ greatestSigned := by decide
  unfold clampDuration
  omega

/-- Of measurements there are a duration and an average, and neither is negative. -/
theorem ofMeasurements_nonneg {ms : List Measurement} (some : ms ≠ []) :
    0 ≤ (ofMeasurements ms : RunStatistics Float).duration ∧
      0 ≤ (ofMeasurements ms : RunStatistics Float).average := by
  match ms with
  | [] => exact absurd rfl some
  | [m] => exact ⟨clampDuration_nonneg _, clampDuration_nonneg _⟩
  | m :: m' :: ms =>
    refine ⟨clampDuration_nonneg _, Binary64.clampWhole_nonneg ?_ (by decide)⟩
    refine Binary64.notNegative_mean fun x mem => ?_
    obtain ⟨m, -, rfl⟩ := List.mem_map.mp mem
    exact Binary64.notNegative_ofNat _

end Microbench.RunStatistics
