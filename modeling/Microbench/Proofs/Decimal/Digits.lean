import Mathlib.Tactic.Ring
import Microbench.Decimal.Digits
import Microbench.Text.Character

/-!
# Digits read back

The digits of a whole number are read as that number, alone or among other digits: `value_digits`,
`accumulate_append`. How many digits there are says between which powers of ten the number lies.
-/

namespace Microbench.Decimal

/-! ## Reading -/

theorem digit?_digitChar {d : Nat} (small : d < 10) : digit? (Nat.digitChar d) = some d := by
  rcases d with _ | _ | _ | _ | _ | _ | _ | _ | _ | _ | d
  all_goals first | decide | omega

theorem accumulate_append (start : Nat) (cs ds : List Char) :
    accumulate start (cs ++ ds) = accumulate (accumulate start cs) ds := by
  unfold accumulate
  exact List.foldl_append

theorem accumulate_zeros (start k : Nat) :
    accumulate start (List.replicate k '0') = start * 10 ^ k := by
  induction k generalizing start with
  | zero => simp [accumulate]
  | succ k ih =>
    have first : accumulate start ['0'] = 10 * start := by
      have zero : digit? '0' = some 0 := by decide
      simp [accumulate, zero]
    rw [List.replicate_succ, ← List.singleton_append, accumulate_append, first, ih, pow_succ]
    ring

theorem digits_of_lt {n : Nat} (small : n < 10) : digits n = [Nat.digitChar n] :=
  Nat.toDigits_of_lt_base small

theorem digits_of_le {n : Nat} (large : 10 ≤ n) :
    digits n = digits (n / 10) ++ [Nat.digitChar (n % 10)] :=
  Nat.toDigits_of_base_le (by decide) large

theorem isDigit_of_mem_digits {n : Nat} {c : Char} (h : c ∈ digits n) : isDigit c = true := by
  induction n using Nat.strong_induction_on with
  | _ n ih =>
    rcases Nat.lt_or_ge n 10 with small | large
    · rw [digits_of_lt small, List.mem_singleton] at h
      rw [h, isDigit, digit?_digitChar small]
      rfl
    · rw [digits_of_le large, List.mem_append, List.mem_singleton] at h
      rcases h with before | rfl
      · exact ih (n / 10) (by omega) before
      · rw [isDigit, digit?_digitChar (by omega)]
        rfl

theorem all_isDigit_digits (n : Nat) : (digits n).all isDigit = true :=
  List.all_eq_true.mpr fun _ => isDigit_of_mem_digits

theorem accumulate_digit {d : Nat} (small : d < 10) (start : Nat) :
    accumulate start [Nat.digitChar d] = 10 * start + d := by
  simp [accumulate, digit?_digitChar small]

/-- The digits of a whole number are read as that number. -/
theorem value_digits (n : Nat) : value (digits n) = n := by
  induction n using Nat.strong_induction_on with
  | _ n ih =>
    rcases Nat.lt_or_ge n 10 with small | large
    · rw [digits_of_lt small, value, accumulate_digit small]
      omega
    · have before : accumulate 0 (digits (n / 10)) = n / 10 := ih (n / 10) (by omega)
      rw [digits_of_le large, value, accumulate_append, before, accumulate_digit (by omega)]
      omega

theorem digits_ne_nil (n : Nat) : digits n ≠ [] := Nat.toDigits_ne_nil

theorem toList_text (n : Nat) : (text n).toList = digits n := String.toList_ofList

theorem not_sign_of_isDigit {c : Char} (h : isDigit c = true) : c ≠ '+' ∧ c ≠ '-' := by
  constructor <;> rintro rfl <;> revert h <;> decide

theorem isBlank_of_isDigit {c : Char} (h : isDigit c = true) : Text.isBlank c = false := by
  unfold isDigit digit? at h
  split at h
  · rename_i digit
    have low : 48 ≤ c.toNat := digit.1
    have high : c.toNat ≤ 57 := digit.2
    unfold Text.isBlank
    simp only [Bool.or_eq_false_iff, Bool.and_eq_false_imp, decide_eq_true_eq, decide_eq_false_iff_not,
      beq_eq_false_iff_ne]
    omega
  · cases h

/-- A whole number within the limit is read back from its text. -/
theorem readUnsigned_text {n limit : Nat} (fits : n ≤ limit) :
    readUnsigned limit (text n) = some n := by
  obtain ⟨c, cs, shape⟩ : ∃ c cs, digits n = c :: cs := List.exists_cons_of_ne_nil (digits_ne_nil n)
  have plain : c ≠ '+' :=
    (not_sign_of_isDigit (isDigit_of_mem_digits (shape ▸ List.mem_cons_self))).1
  have whole : value (c :: cs) = n := by rw [← shape, value_digits]
  have all : (c :: cs).all isDigit = true := by rw [← shape, all_isDigit_digits]
  unfold readUnsigned
  rw [toList_text, shape]
  split
  · rename_i rest sign
    exact absurd (List.cons.inj sign).1 plain
  · simp [whole, all, fits]

/-! ## Powers of ten -/

theorem lt_pow_length (n : Nat) : n < 10 ^ (digits n).length :=
  (Nat.length_toDigits_le_iff (by decide) Nat.length_toDigits_pos).mp (le_refl _)

theorem pow_length_le {n : Nat} (positive : 0 < n) : 10 ^ ((digits n).length - 1) ≤ n := by
  by_contra less
  rcases Nat.eq_zero_or_pos ((digits n).length - 1) with one | more
  · rw [one] at less
    omega
  · have short : (digits n).length ≤ (digits n).length - 1 :=
      (Nat.length_toDigits_le_iff (by decide) more).mpr (by omega)
    have nonempty : 0 < (digits n).length := Nat.length_toDigits_pos
    omega

end Microbench.Decimal
