import Microbench.Decimal.Layout
import Microbench.Proofs.Record.RoundTrip

/-!
# Characters of numbers

Numbers are written without separators, so that a cell with a number is read back as it was written.
-/

namespace Microbench.Decimal

open RecordFile

/-- A character that is none of the separators. -/
def Solid (c : Char) : Prop := c ≠ '\t' ∧ c ≠ '\n' ∧ c ≠ '\r'

instance (c : Char) : Decidable (Solid c) := inferInstanceAs (Decidable (_ ∧ _))

theorem solid_of_all {cs : List Char} (h : cs.all (Solid ·) = true) {c : Char} (mem : c ∈ cs) :
    Solid c :=
  of_decide_eq_true (List.all_eq_true.mp h c mem)

theorem solid_of_isDigit {c : Char} (h : c.isDigit = true) : Solid c := by
  refine ⟨?_, ?_, ?_⟩ <;> rintro rfl <;> cases h

theorem solid_digits {n : Nat} {c : Char} (h : c ∈ digits n) : Solid c :=
  solid_of_isDigit (Nat.isDigit_of_mem_toDigits (by decide) (by decide) h)

theorem solid_text {n : Nat} {c : Char} (h : c ∈ (text n).toList) : Solid c := by
  rw [text, String.toList_ofList] at h
  exact solid_digits h

theorem solid_signedText {i : Int} {c : Char} (h : c ∈ (signedText i).toList) : Solid c := by
  unfold signedText at h
  split at h
  · rw [String.toList_append, List.mem_append] at h
    rcases h with sign | rest
    · rw [List.mem_singleton.mp sign]
      decide
    · exact solid_text rest
  · exact solid_text h

theorem solid_padded {width n : Nat} {c : Char} (h : c ∈ padLeft width '0' (digits n)) :
    Solid c := by
  rcases List.mem_append.mp h with padding | rest
  · rw [List.eq_of_mem_replicate padding]
    decide
  · exact solid_digits rest

theorem solid_signed {negative : Bool} {body : String} {c : Char}
    (solid : ∀ d ∈ body.toList, Solid d)
    (h : c ∈ (if negative then "-" ++ body else body).toList) : Solid c := by
  split at h
  · rw [String.toList_append, List.mem_append] at h
    rcases h with sign | rest
    · rw [List.mem_singleton.mp sign]
      decide
    · exact solid c rest
  · exact solid c h

theorem solid_fixed {places : Nat} {x : Float} {c : Char} (h : c ∈ (fixed places x).toList) :
    Solid c := by
  unfold fixed at h
  split at h
  · have word : Layout.plain.nan.toList.all (Solid ·) = true := by decide
    exact solid_of_all word h
  · have word : Layout.plain.infinity.toList.all (Solid ·) = true := by decide
    exact solid_signed (fun _ => solid_of_all word) h
  · refine solid_signed ?_ h
    intro d mem
    rw [String.toList_ofList] at mem
    split at mem
    · exact solid_padded (List.mem_of_mem_take mem)
    · rcases List.mem_append.mp mem with whole | point
      · exact solid_padded (List.mem_of_mem_take whole)
      · rcases List.mem_cons.mp point with rfl | part
        · decide
        · exact solid_padded (List.mem_of_mem_drop part)

/-! ## Cells with numbers -/

theorem sanitize_text (n : Nat) : sanitize (text n) = text n :=
  sanitize_of_clean fun _ => solid_text

theorem sanitize_signedText (i : Int) : sanitize (signedText i) = signedText i :=
  sanitize_of_clean fun _ => solid_signedText

theorem sanitize_fixed (places : Nat) (x : Float) : sanitize (fixed places x) = fixed places x :=
  sanitize_of_clean fun _ => solid_fixed

end Microbench.Decimal
