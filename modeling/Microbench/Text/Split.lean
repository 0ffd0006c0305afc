/-!
# Parts of a text

A text is cut at every occurrence of a separator, so it has one part more than separators, and
putting the separators back gives the text again. Lines are cut at line feeds; the last line may
lack one, and a carriage return in front of a line feed belongs to the line's end.
-/

namespace Microbench.Text

/-- The parts between separators, one at least. -/
def cut (sep : Char) : List Char → List (List Char)
  | [] => [[]]
  | c :: cs =>
    if c = sep then [] :: cut sep cs
    else match cut sep cs with
      | [] => [[c]]
      | part :: parts => (c :: part) :: parts

/-- The parts with the separator between neighbours. -/
def unite (sep : Char) : List (List Char) → List Char
  | [] => []
  | [part] => part
  | part :: parts => part ++ sep :: unite sep parts

theorem cut_ne_nil (sep : Char) (cs : List Char) : cut sep cs ≠ [] := by
  cases cs with
  | nil => simp [cut]
  | cons c cs =>
    simp only [cut]
    split
    · simp
    · split <;> simp

/-- Nothing is lost. -/
theorem unite_cut (sep : Char) (cs : List Char) : unite sep (cut sep cs) = cs := by
  induction cs with
  | nil => rfl
  | cons c cs ih =>
    simp only [cut]
    split
    · next h =>
      subst h
      cases hc : cut c cs with
      | nil => exact absurd hc (cut_ne_nil c cs)
      | cons part parts => rw [unite, ← hc, ih] <;> simp
    · cases hc : cut sep cs with
      | nil => exact absurd hc (cut_ne_nil sep cs)
      | cons part parts =>
        rw [hc] at ih
        cases parts with
        | nil => simpa [unite] using ih
        | cons p ps => simpa [unite] using ih

/-- The line without the carriage return at its end. -/
def dropReturn (line : List Char) : List Char :=
  if line.getLast? = some '\r' then line.dropLast else line

/-- The lines of a text; what follows the last line feed is a line only if it is not empty, and
keeps a carriage return at its end. -/
def lines (cs : List Char) : List (List Char) :=
  let parts := cut '\n' cs
  let last := parts.getLast?.getD []
  parts.dropLast.map dropReturn ++ (if last.isEmpty then [] else [last])

/-- The text of the parts of a text. -/
def cutText (sep : Char) (s : String) : List String := (cut sep s.toList).map String.ofList

end Microbench.Text
