import Microbench.Text.Character
import Microbench.Text.Split

/-!
# Parts that come back

Uniting parts that hold no separator and cutting the result gives the parts, and a text that was
written line by line is read as those lines. Blanks around a text are trimmed with its own.
-/

namespace Microbench.Text

/-! ## Cutting -/

theorem cut_cons_sep (sep : Char) (cs : List Char) : cut sep (sep :: cs) = [] :: cut sep cs := by
  rw [cut, if_pos rfl]

theorem cut_of_clean {sep : Char} {part : List Char} (clean : sep ∉ part) :
    cut sep part = [part] := by
  induction part with
  | nil => rfl
  | cons c part ih =>
    have differs : c ≠ sep := fun same => clean (same ▸ List.mem_cons_self)
    have tail := ih fun mem => clean (List.mem_cons_of_mem _ mem)
    rw [cut, if_neg differs, tail]

theorem length_cut (sep : Char) (cs : List Char) : (cut sep cs).length = cs.count sep + 1 := by
  induction cs with
  | nil => rfl
  | cons c cs ih =>
    by_cases same : c = sep
    · rw [same, cut_cons_sep, List.length_cons, ih, List.count_cons_self]
    · rw [cut, if_neg same, List.count_cons_of_ne same, ← ih]
      cases parts : cut sep cs with
      | nil => exact absurd parts (cut_ne_nil sep cs)
      | cons part parts => rfl

/-- A separator parts what is in front of it from what follows. -/
theorem cut_append_sep (sep : Char) (front back : List Char) :
    cut sep (front ++ sep :: back) = cut sep front ++ cut sep back := by
  induction front with
  | nil => rw [List.nil_append, cut_cons_sep]; rfl
  | cons c front ih =>
    by_cases same : c = sep
    · rw [List.cons_append, same, cut_cons_sep, cut_cons_sep, ih, List.cons_append]
    · rw [List.cons_append, cut, if_neg same, ih, cut, if_neg same]
      cases parts : cut sep front with
      | nil => exact absurd parts (cut_ne_nil sep front)
      | cons part parts => rfl

theorem cut_append_of_clean {sep : Char} {part : List Char} (clean : sep ∉ part)
    (back : List Char) : cut sep (part ++ sep :: back) = part :: cut sep back := by
  rw [cut_append_sep, cut_of_clean clean, List.singleton_append]

/-- A part holds no separator and nothing that the text does not hold. -/
theorem mem_cut {sep : Char} {cs part : List Char} (h : part ∈ cut sep cs) :
    sep ∉ part ∧ ∀ c ∈ part, c ∈ cs := by
  induction cs generalizing part with
  | nil =>
    rw [List.mem_singleton.mp h]
    exact ⟨List.not_mem_nil, fun c mem => mem⟩
  | cons d cs ih =>
    by_cases same : d = sep
    · rw [same, cut_cons_sep, List.mem_cons] at h
      rcases h with rfl | later
      · exact ⟨List.not_mem_nil, fun c mem => absurd mem List.not_mem_nil⟩
      · exact ⟨(ih later).1, fun c mem => List.mem_cons_of_mem _ ((ih later).2 c mem)⟩
    · rw [cut, if_neg same] at h
      cases parts : cut sep cs with
      | nil => exact absurd parts (cut_ne_nil sep cs)
      | cons first rest =>
        rw [parts] at h ih
        rcases List.mem_cons.mp h with rfl | later
        · have inFirst := ih List.mem_cons_self
          refine ⟨fun mem => ?_, fun c mem => ?_⟩
          · rcases List.mem_cons.mp mem with eq | mem
            · exact same eq.symm
            · exact inFirst.1 mem
          · rcases List.mem_cons.mp mem with rfl | mem
            · exact List.mem_cons_self
            · exact List.mem_cons_of_mem _ (inFirst.2 c mem)
        · have inRest := ih (List.mem_cons_of_mem _ later)
          exact ⟨inRest.1, fun c mem => List.mem_cons_of_mem _ (inRest.2 c mem)⟩

theorem cut_unite {sep : Char} {parts : List (List Char)} (some : parts ≠ [])
    (clean : ∀ part ∈ parts, sep ∉ part) : cut sep (unite sep parts) = parts := by
  induction parts with
  | nil => exact absurd rfl some
  | cons part parts ih =>
    have first := clean part List.mem_cons_self
    cases parts with
    | nil => exact cut_of_clean first
    | cons next rest =>
      have later := ih (List.cons_ne_nil _ _) fun p mem => clean p (List.mem_cons_of_mem _ mem)
      have step : unite sep (part :: next :: rest) = part ++ sep :: unite sep (next :: rest) := rfl
      rw [step, cut_append_of_clean first, later]

theorem mem_unite {sep c : Char} {parts : List (List Char)} (h : c ∈ unite sep parts) :
    c = sep ∨ ∃ part ∈ parts, c ∈ part := by
  induction parts with
  | nil => cases h
  | cons part parts ih =>
    cases parts with
    | nil => exact .inr ⟨part, List.mem_cons_self, h⟩
    | cons next rest =>
      have step : unite sep (part :: next :: rest) = part ++ sep :: unite sep (next :: rest) := rfl
      rw [step, List.mem_append, List.mem_cons] at h
      rcases h with inPart | same | later
      · exact .inr ⟨part, List.mem_cons_self, inPart⟩
      · exact .inl same
      · rcases ih later with same | ⟨p, mem, inP⟩
        · exact .inl same
        · exact .inr ⟨p, List.mem_cons_of_mem _ mem, inP⟩

/-! ## Lines -/

/-- The text of some lines, each with its end. -/
def ofLines (ls : List (List Char)) : List Char := ls.flatMap (· ++ ['\n'])

theorem ofLines_cons (l : List Char) (ls : List (List Char)) :
    ofLines (l :: ls) = l ++ '\n' :: ofLines ls := by
  rw [ofLines, List.flatMap_cons, List.append_assoc]
  rfl

theorem ofLines_append (ls ls' : List (List Char)) :
    ofLines (ls ++ ls') = ofLines ls ++ ofLines ls' :=
  List.flatMap_append

theorem cut_ofLines {ls : List (List Char)} (clean : ∀ l ∈ ls, '\n' ∉ l) :
    cut '\n' (ofLines ls) = ls ++ [[]] := by
  induction ls with
  | nil => rfl
  | cons l ls ih =>
    have later := ih fun l mem => clean l (List.mem_cons_of_mem _ mem)
    rw [ofLines_cons, cut_append_of_clean (clean l List.mem_cons_self), later]
    rfl

theorem dropReturn_of_clean {l : List Char} (clean : '\r' ∉ l) : dropReturn l = l := by
  have last : l.getLast? ≠ some '\r' := fun h => clean (List.mem_of_getLast? h)
  rw [dropReturn, if_neg last]

/-- Lines are read as they were written. -/
theorem lines_ofLines {ls : List (List Char)} (clean : ∀ l ∈ ls, '\n' ∉ l ∧ '\r' ∉ l) :
    lines (ofLines ls) = ls := by
  have same : ls.map dropReturn = ls := by
    refine (List.map_congr_left ?_).trans ls.map_id
    intro l mem
    exact dropReturn_of_clean (clean l mem).2
  unfold lines
  rw [cut_ofLines fun l mem => (clean l mem).1]
  simp [same]

/-! ## Trimming -/

theorem trimLeft_cons_blank (cs : List Char) : trimLeft (' ' :: cs) = trimLeft cs := rfl

theorem trimRight_append_blank (cs : List Char) : trimRight (cs ++ [' ']) = trimRight cs := by
  rw [trimRight, List.reverse_append]
  rfl

/-- Blanks around a text are trimmed with its own. -/
theorem trim_between (cs : List Char) :
    trim (String.ofList (' ' :: (cs ++ [' ']))) = trim (String.ofList cs) := by
  unfold trim
  rw [String.toList_ofList, String.toList_ofList, trimLeft_cons_blank]
  cases h : trimLeft cs with
  | nil =>
    have blank : trimLeft (cs ++ [' ']) = [] := by
      unfold trimLeft at h ⊢
      rw [List.dropWhile_append, h]
      rfl
    rw [blank]
  | cons c rest =>
    have kept : trimLeft (cs ++ [' ']) = (c :: rest) ++ [' '] := by
      unfold trimLeft at h ⊢
      rw [List.dropWhile_append, h]
      rfl
    rw [kept, trimRight_append_blank]

theorem dropWhile_isBlank_of_ink {cs : List Char} (ink : ∀ c ∈ cs, isBlank c = false) :
    cs.dropWhile isBlank = cs := by
  cases cs with
  | nil => rfl
  | cons c rest => rw [List.dropWhile_cons, ink c List.mem_cons_self, if_neg Bool.false_ne_true]

/-- A text without blanks is trimmed already. -/
theorem trim_of_ink {s : String} (ink : ∀ c ∈ s.toList, isBlank c = false) : trim s = s := by
  unfold trim trimLeft trimRight
  rw [dropWhile_isBlank_of_ink ink,
    dropWhile_isBlank_of_ink fun c mem => ink c (List.mem_reverse.mp mem), List.reverse_reverse,
    String.ofList_toList]

end Microbench.Text
