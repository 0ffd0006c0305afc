import Mathlib
import Microbench.Binary64

/-!
# The bits of a float

A finite float stands for `± mantissa · 2 ^ exponent`, and its bits follow from the mantissa and the
exponent: `decode_eq_finite`. A float is found again from its bits, so whoever finds the bits of a
fraction finds the float: `nearest_eq_of_bits`.
-/

namespace Microbench.Binary64

/-- The mantissas and exponents that bits stand for. -/
structure Canonical (m : Nat) (e : Int) : Prop where
  mantissa : m < 2 ^ 53
  least : leastExponent ≤ e
  greatest : e ≤ 971
  leading : 2 ^ 52 ≤ m ∨ e = leastExponent

/-- The bits for a mantissa and an exponent, without the sign. -/
def bitsOf (m : Nat) (e : Int) : Nat := (e - leastExponent).toNat * 2 ^ 52 + m

theorem ofBits_eq_finite {bits m : Nat} {e : Int} {negative : Bool} (word : bits < 2 ^ 64)
    (h : ofBits bits = .finite negative m e) :
    Canonical m e ∧ bits = (if negative then 2 ^ 63 else 0) + bitsOf m e := by
  have p63 : Nat.pow 2 63 = 2 ^ 63 := rfl
  have p52 : Nat.pow 2 52 = 2 ^ 52 := rfl
  unfold ofBits at h
  rw [p63, p52] at h
  simp only [beq_iff_eq] at h
  have sign : bits / 2 ^ 63 % 2 = 1 ↔ 2 ^ 63 ≤ bits := by omega
  have negative_iff : negative = true ↔ 2 ^ 63 ≤ bits := by
    split at h
    · split at h <;> cases h
    · split at h
      · cases h
        simpa using sign
      · cases h
        simpa using sign
  have parts : bits = (if negative then 2 ^ 63 else 0) +
      (bits / 2 ^ 52 % 2048 * 2 ^ 52 + bits % 2 ^ 52) := by
    by_cases high : 2 ^ 63 ≤ bits
    · rw [if_pos (negative_iff.mpr high)]
      omega
    · rw [if_neg (fun n => high (negative_iff.mp n))]
      omega
  have small : bits / 2 ^ 52 % 2048 < 2048 := Nat.mod_lt _ (by decide)
  have fraction : bits % 2 ^ 52 < 2 ^ 52 := Nat.mod_lt _ (by decide)
  generalize bits / 2 ^ 52 % 2048 = field at *
  generalize bits % 2 ^ 52 = part at *
  generalize (if negative then 2 ^ 63 else 0) = signed at *
  split at h
  · split at h <;> cases h
  · rename_i ordinary
    split at h
    · rename_i none
      cases h
      refine ⟨⟨by omega, le_refl _, by decide, .inr rfl⟩, ?_⟩
      rw [none] at parts
      simpa [bitsOf] using parts
    · rename_i some
      cases h
      have least : leastExponent = -1074 := rfl
      refine ⟨⟨by omega, by omega, by omega, .inl (by omega)⟩, ?_⟩
      have shift : (leastExponent + ((field - 1 : Nat) : Int) - leastExponent).toNat = field - 1 := by
        omega
      rw [parts, bitsOf, shift]
      omega

theorem decode_eq_finite {x : Float} {negative : Bool} {m : Nat} {e : Int}
    (h : decode x = .finite negative m e) :
    Canonical m e ∧ x.toBits.toNat = (if negative then 2 ^ 63 else 0) + bitsOf m e :=
  ofBits_eq_finite x.toBits.toNat_lt h

/-- Whoever finds the bits of a finite float for a fraction finds the float. -/
theorem nearest_eq_of_bits {x : Float} {negative : Bool} {m : Nat} {e : Int} {num den : Nat}
    (h : decode x = .finite negative m e) (bits : nearestBits num den = bitsOf m e) :
    nearest negative num den = x := by
  obtain ⟨-, whole⟩ := decode_eq_finite h
  have p63 : Nat.pow 2 63 = 2 ^ 63 := rfl
  have same : (if negative then Nat.pow 2 63 + nearestBits num den else nearestBits num den) =
      x.toBits.toNat := by
    rw [whole, bits, p63]
    split
    · rfl
    · omega
  unfold nearest
  simp only [same, UInt64.ofNat_toNat, Float.ofBits_toBits]

end Microbench.Binary64
