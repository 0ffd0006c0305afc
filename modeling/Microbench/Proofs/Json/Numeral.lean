import Microbench.Json.Numeral
import Microbench.Proofs.Decimal.RoundTrip

/-!
# Numbers in a document

A numeral is `Formed` if its spelling is one of a number: every part has digits and only zero
itself starts with a zero. Reading yields formed numerals only, and a formed numeral is read back
from its spelling when nothing behind it could belong to a number: `scan_text`. A whole number and
an integer that a word can hold keep their value.
-/

namespace Microbench.Json.Numeral

open Decimal

/-! ## Parts of a spelling -/

/-- Digits, one at least. -/
structure Digital (ds : List Char) : Prop where
  some : ds ≠ []
  all : ds.all isDigit = true

/-- Nothing at the front of a text continues a number. -/
def Stops (cs : List Char) : Prop :=
  ∀ c ∈ cs.head?, isDigit c = false ∧ c ≠ '.' ∧ c ≠ 'e' ∧ c ≠ 'E'

theorem stops_nil : Stops [] := by
  intro c first
  cases first

theorem stops_cons {c : Char} (cs : List Char) (digit : isDigit c = false) (point : c ≠ '.')
    (small : c ≠ 'e') (capital : c ≠ 'E') : Stops (c :: cs) := by
  rintro d ⟨⟩
  exact ⟨digit, point, small, capital⟩

theorem Digital.reads {ds : List Char} (digital : Digital ds) (rest : List Char)
    (stops : ∀ c ∈ rest.head?, isDigit c = false) :
    (ds ++ rest).takeWhile isDigit = ds ∧ (ds ++ rest).dropWhile isDigit = rest :=
  takeWhile_digits rest digital.all stops

theorem digital_takeWhile {cs : List Char} (some : (cs.takeWhile isDigit).isEmpty = false) :
    Digital (cs.takeWhile isDigit) where
  some := by simpa using some
  all := List.all_takeWhile

theorem digital_digits (n : Nat) : Digital (digits n) := ⟨digits_ne_nil n, all_isDigit_digits n⟩

/-- The digits of a positive number do not start with a zero. -/
theorem head?_digits {n : Nat} (positive : 0 < n) : (digits n).head? ≠ some '0' := by
  induction n using Nat.strong_induction_on with
  | _ n ih =>
    rcases Nat.lt_or_ge n 10 with small | large
    · rw [digits_of_lt small]
      interval_cases n <;> decide
    · rw [digits_of_le large, List.head?_append_of_ne_nil _ (digits_ne_nil _)]
      exact ih (n / 10) (by omega) (by omega)

/-- How a fraction is spelled. -/
def fractionText : Option (List Char) → List Char
  | some ds => '.' :: ds
  | none => []

/-- How a power of ten is spelled. -/
def powerText : Option (List Char × List Char) → List Char
  | some (sign, ds) => 'e' :: (sign ++ ds)
  | none => []

theorem text_eq (n : Numeral) :
    n.text =
      (if n.negative then ['-'] else []) ++ n.whole ++ fractionText n.fraction ++
        powerText n.power := by
  obtain ⟨negative, whole, _ | ds, _ | ⟨sign, es⟩⟩ := n <;> rfl

/-- What is read of a number behind its sign. -/
def scanUnsigned (negative : Bool) (cs : List Char) : Option (Numeral × List Char) := do
  let whole := cs.takeWhile isDigit
  if whole.isEmpty || (whole.head? == some '0' && 1 < whole.length) then none
  else
    let (fraction, cs) ← scanFraction (cs.dropWhile isDigit)
    let (power, cs) ← scanPower cs
    pure (⟨negative, whole, fraction, power⟩, cs)

theorem scan_minus (cs : List Char) : scan ('-' :: cs) = scanUnsigned true cs := rfl

theorem scan_plain {cs : List Char} (plain : cs.head? ≠ some '-') :
    scan cs = scanUnsigned false cs := by
  cases cs with
  | nil => rfl
  | cons c cs =>
    have minus : c ≠ '-' := fun same => plain (congrArg some same)
    unfold scan scanUnsigned
    simp [minus]

/-! ## Formed numerals -/

/-- The signs that a power can have. -/
def powerSigns : List (List Char) := [[], ['+'], ['-']]

/-- The spelling is one of a number. -/
structure Formed (n : Numeral) : Prop where
  whole : Digital n.whole
  /-- Only zero itself starts with a zero. -/
  leading : (n.whole.head? == some '0' && 1 < n.whole.length) = false
  fraction : ∀ ds ∈ n.fraction, Digital ds
  power : ∀ p ∈ n.power, p.1 ∈ powerSigns ∧ Digital p.2

theorem formed_digits (negative : Bool) (n : Nat) : Formed ⟨negative, digits n, none, none⟩ where
  whole := digital_digits n
  leading := by
    rcases Nat.eq_zero_or_pos n with rfl | positive
    · rfl
    · simp [head?_digits positive]
  fraction := by simp
  power := by simp

theorem formed_ofNat (n : Nat) : (ofNat n).Formed := formed_digits false n

theorem formed_ofInt (i : Int) : (ofInt i).Formed := formed_digits (i < 0) i.natAbs

/-- The digits after a point that were read. -/
theorem digital_of_scanFraction {cs rest : List Char} {f : Option (List Char)}
    (scanned : scanFraction cs = some (f, rest)) : ∀ ds ∈ f, Digital ds := by
  unfold scanFraction at scanned
  split at scanned
  · dsimp only at scanned
    split at scanned
    · cases scanned
    · rename_i more
      cases scanned
      simpa using digital_takeWhile (Bool.eq_false_iff.mpr more)
  · cases scanned
    simp

theorem scanSign_mem (cs : List Char) : (scanSign cs).1 ∈ powerSigns := by
  unfold scanSign
  split <;> simp [powerSigns]

/-- The power that was read. -/
theorem digital_of_scanPower {cs rest : List Char} {p : Option (List Char × List Char)}
    (scanned : scanPower cs = some (p, rest)) : ∀ q ∈ p, q.1 ∈ powerSigns ∧ Digital q.2 := by
  unfold scanPower at scanned
  split at scanned
  · split at scanned
    · dsimp only at scanned
      split at scanned
      · cases scanned
      · rename_i more
        cases scanned
        simpa using ⟨scanSign_mem _, digital_takeWhile (Bool.eq_false_iff.mpr more)⟩
    · cases scanned
      simp
  · cases scanned
    simp

theorem formed_of_scanUnsigned {negative : Bool} {cs rest : List Char} {n : Numeral}
    (scanned : scanUnsigned negative cs = some (n, rest)) : n.Formed := by
  unfold scanUnsigned at scanned
  dsimp only at scanned
  split at scanned
  · cases scanned
  · rename_i proper
    rw [Bool.not_eq_true, Bool.or_eq_false_iff] at proper
    simp only [Option.bind_eq_bind, Option.bind_eq_some_iff, Option.pure_def, Option.some.injEq,
      Prod.mk.injEq, Prod.exists] at scanned
    obtain ⟨f, cs', scannedFraction, p, cs'', scannedPower, rfl, rfl⟩ := scanned
    exact ⟨digital_takeWhile proper.1, proper.2, digital_of_scanFraction scannedFraction,
      digital_of_scanPower scannedPower⟩

/-- What is read is formed. -/
theorem formed_of_scan {cs rest : List Char} {n : Numeral} (scanned : scan cs = some (n, rest)) :
    n.Formed := by
  by_cases plain : cs.head? = some '-'
  · obtain ⟨more, rfl⟩ := List.head?_eq_some_iff.mp plain
    exact formed_of_scanUnsigned scanned
  · exact formed_of_scanUnsigned (scan_plain plain ▸ scanned)

theorem formed_ofFloat (x : Float) : (ofFloat x).Formed := by
  unfold ofFloat
  split
  · rename_i scanned
    exact formed_of_scan scanned
  · exact formed_ofNat 0

/-! ## Reading back -/

/-- A sign of a power is read back in front of digits. -/
theorem scanSign_digits {sign ds : List Char} (known : sign ∈ powerSigns) (digital : Digital ds)
    (rest : List Char) : scanSign (sign ++ (ds ++ rest)) = (sign, ds ++ rest) := by
  obtain ⟨c, more, first, digit⟩ := first_of_all rest digital.all digital.some
  obtain ⟨plus, minus⟩ := not_sign_of_isDigit digit
  simp only [powerSigns, List.mem_cons, List.not_mem_nil, or_false] at known
  rcases known with rfl | rfl | rfl
  · rw [List.nil_append, first, scanSign]
    · simpa using plus
    · simpa using minus
  · rfl
  · rfl

/-- A power, or none, is read back. -/
theorem scanPower_text {p : Option (List Char × List Char)} {rest : List Char}
    (formed : ∀ q ∈ p, q.1 ∈ powerSigns ∧ Digital q.2) (stops : Stops rest) :
    scanPower (powerText p ++ rest) = some (p, rest) := by
  cases p with
  | none =>
    cases rest with
    | nil => rfl
    | cons c rest =>
      obtain ⟨-, -, small, capital⟩ := stops c rfl
      simp [powerText, scanPower, small, capital]
  | some q =>
    obtain ⟨sign, ds⟩ := q
    obtain ⟨known, digital⟩ := formed _ rfl
    obtain ⟨taken, dropped⟩ := digital.reads rest fun c first => (stops c first).1
    simp [powerText, scanPower, scanSign_digits known digital, taken, dropped, digital.some]

/-- Neither a digit nor a point stands in front of a power, or of what comes behind it. -/
theorem head_power (p : Option (List Char × List Char)) {rest : List Char} (stops : Stops rest) :
    ∀ c ∈ (powerText p ++ rest).head?, isDigit c = false ∧ c ≠ '.' := by
  cases p with
  | none => exact fun c first => ⟨(stops c first).1, (stops c first).2.1⟩
  | some q =>
    rintro c ⟨⟩
    decide

/-- A fraction, or none, is read back. -/
theorem scanFraction_text {f : Option (List Char)} {rest : List Char}
    (formed : ∀ ds ∈ f, Digital ds) (stops : ∀ c ∈ rest.head?, isDigit c = false ∧ c ≠ '.') :
    scanFraction (fractionText f ++ rest) = some (f, rest) := by
  cases f with
  | none =>
    rw [fractionText, List.nil_append, scanFraction.eq_def]
    split
    · exact absurd rfl (stops '.' rfl).2
    · rfl
  | some ds =>
    have digital := formed ds rfl
    obtain ⟨taken, dropped⟩ := digital.reads rest fun c first => (stops c first).1
    simp [fractionText, scanFraction, taken, dropped, digital.some]

/-- No digit stands in front of a fraction, or of what comes behind it. -/
theorem head_fraction (f : Option (List Char)) {rest : List Char}
    (stops : ∀ c ∈ rest.head?, isDigit c = false ∧ c ≠ '.') :
    ∀ c ∈ (fractionText f ++ rest).head?, isDigit c = false := by
  cases f with
  | none => exact fun c first => (stops c first).1
  | some ds =>
    rintro c ⟨⟩
    decide

theorem scanUnsigned_text {n : Numeral} (formed : n.Formed) {rest : List Char}
    (stops : Stops rest) :
    scanUnsigned n.negative (n.whole ++ (fractionText n.fraction ++ (powerText n.power ++ rest))) =
      some (n, rest) := by
  have behindFraction := head_power n.power stops
  have behindWhole := head_fraction n.fraction behindFraction
  obtain ⟨taken, dropped⟩ := formed.whole.reads _ behindWhole
  have proper : (n.whole.isEmpty || (n.whole.head? == some '0' && 1 < n.whole.length)) = false := by
    rw [Bool.or_eq_false_iff]
    exact ⟨by simpa using formed.whole.some, formed.leading⟩
  unfold scanUnsigned
  simp only [taken, dropped, proper, scanFraction_text formed.fraction behindFraction,
    scanPower_text formed.power stops, Bool.false_eq_true, if_false, Option.bind_eq_bind,
    Option.bind_some, Option.pure_def]

/-- A formed numeral is read back from its spelling. -/
theorem scan_text {n : Numeral} (formed : n.Formed) {rest : List Char} (stops : Stops rest) :
    scan (n.text ++ rest) = some (n, rest) := by
  have unsigned := scanUnsigned_text formed stops
  rw [text_eq]
  simp only [List.append_assoc]
  cases sign : n.negative with
  | true =>
    rw [sign] at unsigned
    exact (scan_minus _).trans unsigned
  | false =>
    rw [sign] at unsigned
    obtain ⟨c, more, first, digit⟩ := first_of_all
      (fractionText n.fraction ++ (powerText n.power ++ rest)) formed.whole.all formed.whole.some
    have plain : (n.whole ++ (fractionText n.fraction ++ (powerText n.power ++ rest))).head? ≠
        some '-' := by
      rw [first]
      simpa using (not_sign_of_isDigit digit).2
    exact (scan_plain plain).trans unsigned

/-! ## Values -/

/-- A whole number that a word can hold keeps its value. -/
theorem value?_ofNat {n : Nat} (fits : n ≤ greatestWord) : (ofNat n).value? = some (.whole n) := by
  have small : ¬greatestWord < n := by omega
  simp [value?, ofNat, value_digits, small]

/-- An integer that a signed word can hold keeps its value. -/
theorem value?_ofInt {i : Int} (fits : i.natAbs ≤ Nat.pow 2 63) :
    (ofInt i).value? =
      some (if i < 0 then .belowZero (i.natAbs - 1) else .whole i.natAbs) := by
  have small : ¬greatestWord < i.natAbs := by
    have : Nat.pow 2 63 ≤ greatestWord := by decide
    omega
  by_cases negative : i < 0
  · have bounds : 0 < i.natAbs ∧ i.natAbs ≤ Nat.pow 2 63 := ⟨by omega, fits⟩
    simp only [value?, ofInt, value_digits, small, negative, bounds]
    simp
  · simp [value?, ofInt, value_digits, small, negative]

end Microbench.Json.Numeral
