import Mathlib.Tactic.SplitIfs
import Microbench.Json.Reader

/-!
# Texts in a document

Every character is read back from its escape, whatever stands behind it, and so is a text from
between its quotes. What is written with an escape of four digits is a control character, which is
no half of a surrogate pair.
-/

namespace Microbench.Json

/-! ## A character -/

/-- A control character is written with two zeros and two more digits. -/
theorem hexPadded_control : ∀ n < 32,
    Text.hexPadded 4 n = ['0', '0', Nat.digitChar (n / 16), Nat.digitChar (n % 16)] := by
  decide

/-- The four digits of a control character are read as its code. -/
theorem hexValue?_control : ∀ n < 32,
    Text.hexValue? ['0', '0', Nat.digitChar (n / 16), Nat.digitChar (n % 16)] = some n := by
  decide

/-- A character that needs no escape. -/
theorem readText_plain {c : Char} (cs : List Char) (quote : c ≠ '"') (slash : c ≠ '\\')
    (printable : ¬c.toNat < 32) :
    readText (c :: cs) = (readText cs).map fun p => (c :: p.1, p.2) := by
  have kept : ¬((c == '\\' || decide (c.toNat < 32)) = true) := by simp [slash, printable]
  rw [readText, if_neg kept]
  · cases readText cs <;> rfl
  · exact quote
  · exact fun _ _ _ _ _ same _ => slash same
  · exact fun _ _ same _ => slash same

/-- A control character without a short escape. -/
theorem readText_control {c : Char} (cs : List Char) (control : c.toNat < 32) :
    readText ('\\' :: 'u' :: Text.hexPadded 4 c.toNat ++ cs) =
      (readText cs).map fun p => (c :: p.1, p.2) := by
  have noLow : ¬(0xDC00 ≤ c.toNat ∧ c.toNat < 0xE000) := by omega
  have noHigh : ¬(0xD800 ≤ c.toNat ∧ c.toNat < 0xDC00) := by omega
  rw [hexPadded_control _ control]
  simp only [List.cons_append, List.nil_append, readText, hexValue?_control _ control,
    Option.bind_eq_bind, Option.bind_some, noLow, noHigh, if_false, Char.ofNat_toNat,
    Option.pure_def, Option.map_eq_bind, Function.comp_def]

/-- A character with an escape of one letter. -/
theorem readText_short {c letter : Char} (cs : List Char) (stands : escaped? letter = some c)
    (code : letter ≠ 'u') :
    readText ('\\' :: letter :: cs) = (readText cs).map fun p => (c :: p.1, p.2) := by
  rw [readText]
  · rw [stands]
    cases readText cs <;> rfl
  · exact fun _ _ _ _ _ same _ => code same

/-- A character is read back from its escape. -/
theorem readText_escape (c : Char) (cs : List Char) :
    readText (escape c ++ cs) = (readText cs).map fun p => (c :: p.1, p.2) := by
  have ofCode {d : Char} (h : c.toNat = d.toNat) : c = d := Char.toNat_inj.mp h
  unfold escape
  split_ifs with isQuote isSlash isLine isReturn isTab isBack isFeed control
  · exact readText_short cs (by simp [isQuote, escaped?]) (by decide)
  · exact readText_short cs (by simp [isSlash, escaped?]) (by decide)
  · exact readText_short cs (by simp [isLine, escaped?]) (by decide)
  · exact readText_short cs (by simp [isReturn, escaped?]) (by decide)
  · exact readText_short cs (by simp [isTab, escaped?]) (by decide)
  · exact readText_short cs (by simp [ofCode (d := '\x08') isBack, escaped?]) (by decide)
  · exact readText_short cs (by simp [ofCode (d := '\x0c') isFeed, escaped?]) (by decide)
  · exact readText_control cs control
  · exact readText_plain cs isQuote isSlash control

/-- A text is read back from between its quotes. -/
theorem readText_quoted (s : List Char) (rest : List Char) :
    readText (s.flatMap escape ++ '"' :: rest) = some (s, rest) := by
  induction s with
  | nil => rfl
  | cons c s ih => rw [List.flatMap_cons, List.append_assoc, readText_escape, ih]; rfl

end Microbench.Json
