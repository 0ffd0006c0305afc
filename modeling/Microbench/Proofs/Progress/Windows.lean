import Mathlib
import Microbench.Proofs.Rational
import Microbench.Window

/-!
# Windows of exact fractions

With exact fractions for numbers the parts of a window stand in a row: the first starts where the
window starts, each one starts where the one before it ends, and the last one ends where the window
ends (`tiles_split`).
-/

namespace Microbench

namespace Window

variable {w : Window ℚ} {ws : List (Window ℚ)} {x y z : ℚ}

theorem finish_eq (w : Window ℚ) : w.finish = w.start + w.size := rfl

theorem slice_eq (w : Window ℚ) (index : Nat) {count : Nat} (some : count ≠ 0) :
    w.slice index count =
      ⟨w.start + (index : ℚ) * (w.size / (count : ℚ)), w.size / (count : ℚ)⟩ :=
  if_neg some

/-! ## Windows in a row -/

/-- Windows in a row, from one place to another. -/
def Tiles : ℚ → List (Window ℚ) → ℚ → Prop
  | x, [], y => x = y
  | x, w :: rest, y => w.start = x ∧ Tiles w.finish rest y

/-- No window is turned around. -/
def Forward (ws : List (Window ℚ)) : Prop := ∀ w ∈ ws, 0 ≤ w.size

/-- The sizes of windows in a row add up. -/
theorem Tiles.sum_size (tiles : Tiles x ws y) : (ws.map (·.size)).sum = y - x := by
  induction ws generalizing x with
  | nil => exact (sub_eq_zero.mpr (tiles : x = y).symm).symm
  | cons w rest ih =>
    rw [List.map_cons, List.sum_cons, ih tiles.2, ← tiles.1, finish_eq]
    ring

theorem Tiles.le (tiles : Tiles x ws y) (forward : Forward ws) : x ≤ y := by
  have sizes : 0 ≤ (ws.map (·.size)).sum := List.sum_nonneg (by simpa [Forward] using forward)
  rw [tiles.sum_size] at sizes
  linarith

/-- Windows in a row lie between the two places. -/
theorem Tiles.mem (tiles : Tiles x ws y) (forward : Forward ws) (mem : w ∈ ws) :
    x ≤ w.start ∧ w.finish ≤ y := by
  induction ws generalizing x with
  | nil => cases mem
  | cons first rest ih =>
    obtain ⟨rfl, tiles⟩ := tiles
    obtain ⟨nonneg, later⟩ := List.forall_mem_cons.mp forward
    rcases List.mem_cons.mp mem with rfl | mem
    · exact ⟨le_refl _, tiles.le later⟩
    · obtain ⟨low, high⟩ := ih tiles later mem
      rw [finish_eq] at low
      exact ⟨by linarith, high⟩

/-- Parts from the one at a place on stand in a row. -/
theorem tiles_slices (w : Window ℚ) {count : Nat} (some : count ≠ 0) (first rest : Nat) :
    Tiles (w.start + (first : ℚ) * (w.size / (count : ℚ)))
      ((List.range' first rest).map (w.slice · count))
      (w.start + ((first + rest : Nat) : ℚ) * (w.size / (count : ℚ))) := by
  induction rest generalizing first with
  | zero => rfl
  | succ rest ih =>
    have finish : (w.slice first count).finish =
        w.start + ((first + 1 : Nat) : ℚ) * (w.size / (count : ℚ)) := by
      rw [finish_eq, slice_eq w first some]
      push_cast
      ring
    have start : (w.slice first count).start = w.start + (first : ℚ) * (w.size / (count : ℚ)) := by
      rw [slice_eq w first some]
    have later := ih (first + 1)
    rw [← finish, show first + 1 + rest = first + (rest + 1) by omega] at later
    rw [List.range'_succ, List.map_cons]
    exact ⟨start, later⟩

/-- The parts of a window stand in a row from its start to its end. -/
theorem tiles_split (w : Window ℚ) {count : Nat} (some : 0 < count) :
    Tiles w.start (w.split count) w.finish := by
  have all := tiles_slices w (Nat.ne_of_gt some) 0 count
  have nonzero : (count : ℚ) ≠ 0 := Nat.cast_ne_zero.mpr (Nat.ne_of_gt some)
  have finish : w.start + ((0 + count : Nat) : ℚ) * (w.size / (count : ℚ)) = w.finish := by
    rw [Nat.zero_add, finish_eq, mul_div_cancel₀ _ nonzero]
  rw [finish, Nat.cast_zero, zero_mul, add_zero, ← List.range_eq_range'] at all
  exact all

/-- Parts come to the end of the window if there are any. -/
theorem tiles_split_ite (w : Window ℚ) (count : Nat) :
    Tiles w.start (w.split count) (if count = 0 then w.start else w.finish) := by
  split
  next none =>
    subst none
    rfl
  next some => exact w.tiles_split (Nat.pos_of_ne_zero some)

theorem forward_split (nonneg : 0 ≤ w.size) (count : Nat) : Forward (w.split count) := by
  intro part mem
  obtain ⟨index, below, rfl⟩ := List.mem_map.mp mem
  have some : count ≠ 0 := Nat.ne_of_gt (Nat.zero_lt_of_lt (List.mem_range.mp below))
  rw [slice_eq w index some]
  exact div_nonneg nonneg (Nat.cast_nonneg _)

theorem map_snd_zip_split {α : Type} {as : List α} {count : Nat} (length : as.length = count) :
    (as.zip (w.split count)).map (·.2) = w.split count :=
  List.map_snd_zip (by simp [length])

theorem isEmpty_zip_split {α : Type} {as : List α} {count : Nat} (length : as.length = count)
    (some : 0 < count) : (as.zip (w.split count)).isEmpty = false := by
  rw [List.isEmpty_eq_false_iff, ← List.length_pos_iff]
  simpa [length] using some

/-- A window that is not turned around ends after its start. -/
theorem start_le_finish (nonneg : 0 ≤ w.size) : w.start ≤ w.finish := by
  rw [finish_eq]
  linarith

end Window

end Microbench
