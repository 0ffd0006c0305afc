/-!
# Engine knobs

How often an operation is called in one batch, how many batches make a run, and how long to wait
before each. The two counts are positive, by their type; a zero offered to them is refused.
-/

namespace Microbench

/-- What a suite may tune about its own execution. -/
structure Knobs where
  /-- Calls timed as one batch. -/
  calls : Nat := 100000
  /-- Batches per run. -/
  repetitions : Nat := 10
  /-- Nanoseconds to wait before each batch. -/
  delay : Nat := 1000000000
  calls_pos : 0 < calls := by decide
  repetitions_pos : 0 < repetitions := by decide

namespace Knobs

instance : Inhabited Knobs := ⟨{}⟩

/-- Sets the calls per batch, unless they are zero. -/
def withCalls (k : Knobs) (calls : Nat) : Knobs :=
  if h : 0 < calls then { k with calls, calls_pos := h } else k

/-- Sets the batches per run, unless they are zero. -/
def withRepetitions (k : Knobs) (repetitions : Nat) : Knobs :=
  if h : 0 < repetitions then { k with repetitions, repetitions_pos := h } else k

/-- Sets the wait before each batch. -/
def withDelay (k : Knobs) (delay : Nat) : Knobs := { k with delay }

theorem calls_withCalls (k : Knobs) (n : Nat) :
    (k.withCalls n).calls = if 0 < n then n else k.calls := by
  unfold withCalls; split <;> simp_all

theorem repetitions_withRepetitions (k : Knobs) (n : Nat) :
    (k.withRepetitions n).repetitions = if 0 < n then n else k.repetitions := by
  unfold withRepetitions; split <;> simp_all

end Knobs

end Microbench
