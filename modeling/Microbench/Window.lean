import Microbench.Arithmetic
import Microbench.Decimal.Digits

/-!
# Progress windows

Overall progress is a percentage. Every level of a batch (suite, group, run, repetition) owns a
window of it and splits that window equally among its parts, so neighbours touch and the sizes of
the parts add up to the whole.
-/

namespace Microbench

/-- A stretch of overall progress. -/
structure Window (α : Type) where
  start : α
  size : α
  deriving BEq, Repr

namespace Window

variable {α : Type} [Arithmetic α]

/-- All of it. -/
def full : Window α := ⟨((0 : Nat) : α), ((100 : Nat) : α)⟩

/-- Where the window ends. -/
def finish (w : Window α) : α := w.start + w.size

/-- Part `index` of `count` equal parts; of no parts, the empty window at the end. -/
def slice (w : Window α) (index count : Nat) : Window α :=
  if count = 0 then ⟨w.finish, ((0 : Nat) : α)⟩
  else
    let size := w.size / (count : α)
    ⟨w.start + (index : α) * size, size⟩

/-- The `count` equal parts, in order. -/
def split (w : Window α) (count : Nat) : List (Window α) := (List.range count).map (w.slice · count)

@[simp] theorem length_split (w : Window α) (count : Nat) : (w.split count).length = count := by
  simp [split]

end Window

/-- Progress for a reader: whole percent between 0 and 100, three places wide. -/
def shownProgress {α : Type} [Arithmetic α] (percent : α) : String :=
  let whole := (Arithmetic.clampWhole 0 100 percent).toNat
  String.ofList (Decimal.padLeft 3 ' ' (Decimal.digits whole)) ++ "%"

end Microbench
