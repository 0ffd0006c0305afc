import Mathlib.Data.String.Basic
import Microbench.Bytes

/-!
# The order of texts

Texts are compared character by character, and their bytes one by one. Both give one order, because
a later character has a greater first byte, or the same one and a greater byte behind it.

* `ofText_lt_ofText_iff`: the bytes of texts are in the order of the texts.
-/

namespace Microbench.Bytes

/-! ## Bytes of characters -/

theorem ofNat_lt_ofNat_iff {m n : Nat} (left : m < 256) (right : n < 256) :
    UInt8.ofNat m < UInt8.ofNat n ↔ m < n := by
  rw [UInt8.lt_iff_toNat_lt, UInt8.toNat_ofNat_of_lt' left, UInt8.toNat_ofNat_of_lt' right]

theorem ofNat_eq_ofNat_iff {m n : Nat} (left : m < 256) (right : n < 256) :
    UInt8.ofNat m = UInt8.ofNat n ↔ m = n := by
  rw [← UInt8.toNat_inj, UInt8.toNat_ofNat_of_lt' left, UInt8.toNat_ofNat_of_lt' right]

theorem toNat_lt_of_char (c : Char) : c.val.toNat < 1114112 := by
  rcases c.valid with low | ⟨_, high⟩
  · have : c.val.toNat < 55296 := low
    omega
  · exact high

/-- The bytes of a later character come later, whatever follows them. -/
theorem utf8EncodeChar_lt {c d : Char} (later : c < d) (bs bs' : Bytes) :
    String.utf8EncodeChar c ++ bs < String.utf8EncodeChar d ++ bs' := by
  have values : c.val.toNat < d.val.toNat := later
  have last := toNat_lt_of_char d
  -- six bits for each byte but the first
  have parts : ∀ k, k / 4096 = k / 64 / 64 ∧ k / 262144 = k / 64 / 64 / 64 := by
    intro k
    simp only [Nat.div_div_eq_div_mul, and_self]
  unfold String.utf8EncodeChar
  generalize c.val.toNat = m at *
  generalize d.val.toNat = n at *
  dsimp only
  rw [(parts m).1, (parts m).2, (parts n).1, (parts n).2]
  split_ifs <;>
    simp (disch := omega) only [List.cons_append, List.nil_append, List.cons_lt_cons_iff,
      ofNat_lt_ofNat_iff, ofNat_eq_ofNat_iff] <;>
    omega

theorem utf8EncodeChar_ne_nil (c : Char) : String.utf8EncodeChar c ≠ [] := by
  unfold String.utf8EncodeChar
  dsimp only
  split_ifs <;> exact List.cons_ne_nil _ _

/-! ## Bytes of texts -/

theorem ofText_eq (s : String) : ofText s = s.toList.flatMap String.utf8EncodeChar := by
  have bytes : s.toUTF8 = s.toList.utf8Encode := String.utf8Encode_toList.symm
  rw [ofText, bytes, List.utf8Encode, List.toList_data_toByteArray]

theorem flatMap_utf8EncodeChar_lt {cs ds : List Char} (later : cs < ds) :
    cs.flatMap String.utf8EncodeChar < ds.flatMap String.utf8EncodeChar := by
  induction cs generalizing ds with
  | nil =>
    cases ds with
    | nil => exact absurd later (List.lt_irrefl _)
    | cons d ds =>
      obtain ⟨b, bs, bytes⟩ := List.exists_cons_of_ne_nil (utf8EncodeChar_ne_nil d)
      rw [List.flatMap_nil, List.flatMap_cons, bytes]
      exact List.nil_lt_cons _ _
  | cons c cs ih =>
    cases ds with
    | nil => exact absurd later (List.not_lt_nil _)
    | cons d ds =>
      rw [List.flatMap_cons, List.flatMap_cons]
      rcases List.cons_lt_cons_iff.mp later with first | ⟨rfl, rest⟩
      · exact utf8EncodeChar_lt first _ _
      · exact List.append_left_lt (ih rest)

theorem ofText_lt_ofText {s t : String} (later : s < t) : ofText s < ofText t := by
  rw [ofText_eq, ofText_eq]
  exact flatMap_utf8EncodeChar_lt (String.lt_iff_toList_lt.mp later)

/-- The bytes of texts are in the order of the texts. -/
theorem ofText_lt_ofText_iff {s t : String} : ofText s < ofText t ↔ s < t := by
  refine ⟨fun later => ?_, ofText_lt_ofText⟩
  rcases lt_trichotomy s t with before | rfl | behind
  · exact before
  · exact absurd later (List.lt_irrefl _)
  · exact absurd later (List.lt_asymm (ofText_lt_ofText behind))

end Microbench.Bytes
