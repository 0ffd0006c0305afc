import Microbench.Proofs.Json.Numeral
import Microbench.Proofs.Json.Text

/-!
# Documents read back

A document whose numerals are formed is read back from the form over several lines:
`read?_render`. Blanks are only written where they are skipped, and the length of what is written
bounds how deep the reader has to go.
-/

namespace Microbench.Json

open Numeral (Stops)

/-! ## Formed documents -/

mutual

/-- Every numeral of a document is formed. -/
def Formed : Json → Prop
  | .number n => n.Formed
  | .array vs => FormedItems vs
  | .object fs => FormedFields fs
  | _ => True

/-- Every numeral of some items is formed. -/
def FormedItems : List Json → Prop
  | [] => True
  | v :: vs => Formed v ∧ FormedItems vs

/-- Every numeral of some fields is formed. -/
def FormedFields : List (String × Json) → Prop
  | [] => True
  | (_, v) :: fs => Formed v ∧ FormedFields fs

end

/-! ## Blanks -/

/-- The character is no blank. -/
def Solid (c : Char) : Prop := (c == ' ' || c == '\n' || c == '\t' || c == '\r') = false

instance (c : Char) : Decidable (Solid c) := inferInstanceAs (Decidable (_ = false))

theorem skipBlanks_cons {c : Char} (cs : List Char) (solid : Solid c) :
    skipBlanks (c :: cs) = c :: cs := by
  unfold skipBlanks
  rw [List.dropWhile_cons_of_neg]
  exact Bool.eq_false_iff.mp solid

theorem skipBlanks_newLine (level : Nat) (cs : List Char) :
    skipBlanks (newLine level ++ cs) = skipBlanks cs := by
  have blank : ∀ c ∈ newLine level, (c == ' ' || c == '\n' || c == '\t' || c == '\r') = true := by
    intro c mem
    rcases List.mem_cons.mp mem with rfl | mem
    · rfl
    · rw [List.eq_of_mem_replicate mem]
      rfl
  exact List.dropWhile_append_of_pos blank

theorem readValue_newLine (fuel level : Nat) (cs : List Char) :
    readValue fuel (newLine level ++ cs) = readValue fuel cs := by
  cases fuel with
  | zero => simp [readValue]
  | succ fuel => rw [readValue, readValue, skipBlanks_newLine]

theorem readValue_space (fuel : Nat) (cs : List Char) :
    readValue fuel (' ' :: cs) = readValue fuel cs := by
  have skip : skipBlanks (' ' :: cs) = skipBlanks cs := List.dropWhile_cons_of_pos rfl
  cases fuel with
  | zero => simp [readValue]
  | succ fuel => rw [readValue, readValue, skip]

theorem readItems_newLine (fuel level : Nat) (cs : List Char) :
    readItems fuel (newLine level ++ cs) = readItems fuel cs := by
  cases fuel with
  | zero => simp [readItems]
  | succ fuel => rw [readItems, readItems, readValue_newLine]

theorem readFields_newLine (fuel level : Nat) (cs : List Char) :
    readFields fuel (newLine level ++ cs) = readFields fuel cs := by
  cases fuel with
  | zero => simp [readFields]
  | succ fuel => rw [readFields, readFields, skipBlanks_newLine]

theorem stops_newLine (level : Nat) (cs : List Char) : Stops (newLine level ++ cs) :=
  Numeral.stops_cons _ (by decide) (by decide) (by decide) (by decide)

/-! ## Numbers among documents -/

/-- A character that a number can start with. -/
def Leads (c : Char) : Prop := c = '-' ∨ Decimal.isDigit c = true

theorem Leads.ne {c : Char} (leads : Leads c) (d : Char) (minus : d ≠ '-' := by decide)
    (digit : Decimal.isDigit d = false := by decide) : c ≠ d := by
  rintro rfl
  rcases leads with same | isDigit
  · exact minus same
  · exact Bool.false_ne_true (digit.symm.trans isDigit)

theorem Leads.solid {c : Char} (leads : Leads c) : Solid c := by
  simp [Solid, leads.ne ' ', leads.ne '\n', leads.ne '\t', leads.ne '\r']

theorem first_text {n : Numeral} (formed : n.Formed) : ∃ c cs, n.text = c :: cs ∧ Leads c := by
  rw [Numeral.text_eq]
  cases n.negative with
  | true => exact ⟨'-', _, rfl, .inl rfl⟩
  | false =>
    obtain ⟨c, more, first, digit⟩ := Decimal.first_of_all
      (Numeral.fractionText n.fraction ++ Numeral.powerText n.power) formed.whole.all
      formed.whole.some
    refine ⟨c, more, ?_, .inr digit⟩
    simpa using first

/-- A number is read where nothing behind it continues it. -/
theorem readValue_number {n : Numeral} (formed : n.Formed) (fuel : Nat) {rest : List Char}
    (stops : Stops rest) : readValue (fuel + 1) (n.text ++ rest) = some (.number n, rest) := by
  obtain ⟨c, cs, shape, leads⟩ := first_text formed
  have scanned := Numeral.scan_text formed stops
  rw [shape, List.cons_append] at scanned ⊢
  rw [readValue, skipBlanks_cons _ leads.solid]
  simp [leads.ne 'n', leads.ne 't', leads.ne 'f', leads.ne '"', leads.ne '[', leads.ne '\x7b',
    scanned]

/-! ## Documents -/

/-- A document starts with a character that is neither blank nor closes a list. -/
theorem first_write (level : Nat) {v : Json} (formed : v.Formed) :
    ∃ c cs, write level v = c :: cs ∧ Solid c ∧ c ≠ ']' := by
  match v with
  | .null => exact ⟨_, _, by rw [write], by decide, by decide⟩
  | .bool true => exact ⟨_, _, by rw [write], by decide, by decide⟩
  | .bool false => exact ⟨_, _, by rw [write], by decide, by decide⟩
  | .number n =>
    rw [Formed] at formed
    obtain ⟨c, cs, shape, leads⟩ := first_text formed
    exact ⟨c, cs, by rw [write, shape], leads.solid, leads.ne ']'⟩
  | .text s => exact ⟨_, _, by rw [write, quote], by decide, by decide⟩
  | .array [] => exact ⟨_, _, by rw [write], by decide, by decide⟩
  | .array (v :: vs) => exact ⟨_, _, by rw [write]; rfl, by decide, by decide⟩
  | .object [] => exact ⟨_, _, by rw [write], by decide, by decide⟩
  | .object ((k, v) :: fs) => exact ⟨_, _, by rw [write]; rfl, by decide, by decide⟩

/-- What stands behind the first of some items: the others and the closing bracket. -/
def itemsEnd (level : Nat) (vs : List Json) (rest : List Char) : List Char :=
  writeItems level vs ++ (newLine level ++ ']' :: rest)

/-- What stands behind the first of some fields: the others and the closing bracket. -/
def fieldsEnd (level : Nat) (fs : List (String × Json)) (rest : List Char) : List Char :=
  writeFields level fs ++ (newLine level ++ '\x7d' :: rest)

/-- How a field starts. -/
def fieldText (level : Nat) (k : String) (v : Json) : List Char :=
  quote k ++ ':' :: ' ' :: write (level + 1) v

theorem fieldText_append (level : Nat) (k : String) (v : Json) (cs : List Char) :
    fieldText level k v ++ cs =
      '"' :: (k.toList.flatMap escape ++ '"' :: ':' :: ' ' :: (write (level + 1) v ++ cs)) := by
  simp [fieldText, quote]

/-- So much fuel reads back whatever is shorter. -/
structure ReadsBack (fuel : Nat) : Prop where
  value : ∀ (v : Json) (level : Nat) (rest : List Char), v.Formed →
    (write level v).length < fuel → Stops rest →
      readValue fuel (write level v ++ rest) = some (v, rest)
  items : ∀ (v : Json) (vs : List Json) (level : Nat) (rest : List Char), FormedItems (v :: vs) →
    (write (level + 1) v ++ writeItems level vs).length + 1 < fuel →
      readItems fuel (write (level + 1) v ++ itemsEnd level vs rest) = some (v :: vs, rest)
  fields : ∀ (k : String) (v : Json) (fs : List (String × Json)) (level : Nat) (rest : List Char),
    FormedFields ((k, v) :: fs) →
    (fieldText level k v ++ writeFields level fs).length + 1 < fuel →
      readFields fuel (fieldText level k v ++ fieldsEnd level fs rest) = some ((k, v) :: fs, rest)

theorem stops_itemsEnd (level : Nat) (vs : List Json) (rest : List Char) :
    Stops (itemsEnd level vs rest) := by
  cases vs with
  | nil => exact stops_newLine level _
  | cons v vs => exact Numeral.stops_cons _ (by decide) (by decide) (by decide) (by decide)

theorem stops_fieldsEnd (level : Nat) (fs : List (String × Json)) (rest : List Char) :
    Stops (fieldsEnd level fs rest) := by
  cases fs with
  | nil => exact stops_newLine level _
  | cons f fs => exact Numeral.stops_cons _ (by decide) (by decide) (by decide) (by decide)

section Step

variable {fuel : Nat} (reads : ReadsBack fuel)
include reads

theorem ReadsBack.value_succ (v : Json) (level : Nat) (rest : List Char) (formed : v.Formed)
    (enough : (write level v).length < fuel + 1) (stops : Stops rest) :
    readValue (fuel + 1) (write level v ++ rest) = some (v, rest) := by
  match v with
  | .null | .bool true | .bool false | .array [] | .object [] =>
    rw [write, readValue, List.cons_append, skipBlanks_cons _ (by decide)]
    rfl
  | .number n =>
    rw [Formed] at formed
    rw [write]
    exact readValue_number formed fuel stops
  | .text s =>
    rw [write, quote, readValue, List.cons_append, skipBlanks_cons _ (by decide)]
    simp [readText_quoted]
  | .array (v :: vs) =>
    rw [Formed] at formed
    obtain ⟨c, cs, shape, solid, opens⟩ := first_write (level + 1) formed.1
    rw [write] at enough
    have items := reads.items v vs level rest formed (by
      simp only [List.cons_append, List.length_cons, List.length_append] at enough ⊢
      omega)
    have spelled : write level (.array (v :: vs)) ++ rest =
        '[' :: (newLine (level + 1) ++ (write (level + 1) v ++ itemsEnd level vs rest)) := by
      simp [write, itemsEnd]
    rw [shape] at items spelled
    rw [spelled, readValue, skipBlanks_cons _ (by decide)]
    simp only [skipBlanks_newLine, List.cons_append, skipBlanks_cons _ solid] at items ⊢
    simp [opens, items]
  | .object ((k, v) :: fs) =>
    rw [Formed] at formed
    rw [write] at enough
    have fields := reads.fields k v fs level rest formed (by
      simp only [fieldText, List.cons_append, List.length_cons, List.length_append] at enough ⊢
      omega)
    have spelled : write level (.object ((k, v) :: fs)) ++ rest =
        '\x7b' :: (newLine (level + 1) ++ (fieldText level k v ++ fieldsEnd level fs rest)) := by
      simp [write, fieldText, fieldsEnd]
    rw [fieldText_append] at fields spelled
    rw [spelled, readValue, skipBlanks_cons _ (by decide)]
    simp only [skipBlanks_newLine, skipBlanks_cons (c := '"') _ (by decide)]
    simp [fields]

theorem ReadsBack.items_succ (v : Json) (vs : List Json) (level : Nat) (rest : List Char)
    (formed : FormedItems (v :: vs))
    (enough : (write (level + 1) v ++ writeItems level vs).length + 1 < fuel + 1) :
    readItems (fuel + 1) (write (level + 1) v ++ itemsEnd level vs rest) =
      some (v :: vs, rest) := by
  obtain ⟨formedFirst, formedRest⟩ := formed
  rw [List.length_append] at enough
  have first := reads.value v (level + 1) (itemsEnd level vs rest) formedFirst (by omega)
    (stops_itemsEnd level vs rest)
  rw [readItems, first]
  cases vs with
  | nil =>
    simp only [itemsEnd, writeItems, List.nil_append, Option.bind_eq_bind, Option.bind_some,
      skipBlanks_newLine, skipBlanks_cons (c := ']') _ (by decide)]
    rfl
  | cons w vs =>
    have others := reads.items w vs level rest formedRest (by
      simp only [writeItems, List.cons_append, List.length_cons, List.length_append] at enough ⊢
      omega)
    have spelled : itemsEnd level (w :: vs) rest =
        ',' :: (newLine (level + 1) ++ (write (level + 1) w ++ itemsEnd level vs rest)) := by
      simp [itemsEnd, writeItems]
    simp only [spelled, Option.bind_eq_bind, Option.bind_some,
      skipBlanks_cons (c := ',') _ (by decide), readItems_newLine, others]
    rfl

theorem ReadsBack.fields_succ (k : String) (v : Json) (fs : List (String × Json)) (level : Nat)
    (rest : List Char) (formed : FormedFields ((k, v) :: fs))
    (enough : (fieldText level k v ++ writeFields level fs).length + 1 < fuel + 1) :
    readFields (fuel + 1) (fieldText level k v ++ fieldsEnd level fs rest) =
      some ((k, v) :: fs, rest) := by
  obtain ⟨formedFirst, formedRest⟩ := formed
  simp only [fieldText, List.length_cons, List.length_append] at enough
  have first := reads.value v (level + 1) (fieldsEnd level fs rest) formedFirst (by omega)
    (stops_fieldsEnd level fs rest)
  rw [fieldText_append, readFields, skipBlanks_cons _ (by decide)]
  simp only [readText_quoted, Option.bind_eq_bind, Option.bind_some,
    skipBlanks_cons (c := ':') _ (by decide), readValue_space, first]
  cases fs with
  | nil =>
    simp only [fieldsEnd, writeFields, List.nil_append, skipBlanks_newLine,
      skipBlanks_cons (c := '\x7d') _ (by decide)]
    simp
  | cons f fs =>
    obtain ⟨l, w⟩ := f
    have others := reads.fields l w fs level rest formedRest (by
      simp only [writeFields, fieldText, List.cons_append, List.length_cons,
        List.length_append] at enough ⊢
      omega)
    have spelled : fieldsEnd level ((l, w) :: fs) rest =
        ',' :: (newLine (level + 1) ++ (fieldText level l w ++ fieldsEnd level fs rest)) := by
      simp [fieldsEnd, fieldText, writeFields]
    simp only [spelled, skipBlanks_cons (c := ',') _ (by decide), readFields_newLine, others]
    simp

end Step

theorem readsBack (fuel : Nat) : ReadsBack fuel := by
  induction fuel with
  | zero =>
    exact ⟨fun _ _ _ _ short => absurd short (Nat.not_lt_zero _),
      fun _ _ _ _ _ short => absurd short (Nat.not_lt_zero _),
      fun _ _ _ _ _ _ short => absurd short (Nat.not_lt_zero _)⟩
  | succ fuel reads => exact ⟨reads.value_succ, reads.items_succ, reads.fields_succ⟩

/-- A document is read back from its text. -/
theorem read?_render {v : Json} (formed : v.Formed) : read? v.render = some v := by
  have whole := (readsBack (2 * (write 0 v).length + 2)).value v 0 [] formed (by omega)
    Numeral.stops_nil
  rw [List.append_nil] at whole
  unfold read? render
  simp only [String.toList_ofList, whole, Option.bind_eq_bind, Option.bind_some]
  rfl

end Microbench.Json
