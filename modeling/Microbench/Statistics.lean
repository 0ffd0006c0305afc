import Microbench.Arithmetic

/-!
# From raw times to a run's statistics

A raw batch time is corrected by the run's `TimeScaling`, then the batches of a run are summed up
in `RunStatistics`:

* the duration is the sum of the corrected times;
* the call average is the mean of the per-call estimates, each the whole quotient of a corrected
  time and its number of calls;
* the deviation is the population deviation of those estimates.

Every step saturates instead of wrapping. All definitions are over an `Arithmetic`.
-/

namespace Microbench

/-- A linear correction of measured time: a factor, then an increment in nanoseconds. -/
structure TimeScaling (α : Type) where
  factor : α
  increment : Int
  deriving BEq, Repr

section

variable {α : Type} [Arithmetic α]

/-- The correction that changes nothing. -/
def TimeScaling.identity : TimeScaling α where
  factor := ((1 : Nat) : α)
  increment := 0

/-- The corrected time: the product loses its fraction before the increment is added, and a
negative result counts as zero. -/
def TimeScaling.apply (s : TimeScaling α) (raw : Nat) : Nat :=
  let product := Arithmetic.clampWhole leastSigned greatestSigned ((raw : α) * s.factor)
  (clampSigned (product + s.increment)).toNat

/-- One timed batch: its corrected time and the number of calls in it. -/
structure Measurement where
  total : Nat
  calls : Nat
  deriving DecidableEq, Repr

/-- The whole nanoseconds that one call of the batch took; an empty batch counts as one call. -/
def Measurement.perCall (m : Measurement) : Nat := m.total / max m.calls 1

/-- The sum in order, without a value before the first. -/
def total : List α → α
  | [] => ((0 : Nat) : α)
  | x :: xs => xs.foldl (· + ·) x

/-- The mean; that of no values is zero. -/
def mean (xs : List α) : α :=
  if xs.isEmpty then ((0 : Nat) : α) else total xs / ((xs.length : Nat) : α)

/-- The mean of the squared distances to a centre; that of no values is zero. -/
def variance (xs : List α) (centre : α) : α := mean (xs.map fun x => (x - centre) * (x - centre))

/-- What is recorded of the repetitions of a run. -/
structure RunStatistics (α : Type) where
  /-- Nanoseconds of all batches together; `-1` when unknown. -/
  duration : Int
  /-- Nanoseconds of one call on average; `-1` when unknown. -/
  average : Int
  variance : α
  repetitions : Nat
  deriving BEq, Repr

namespace RunStatistics

/-- The duration of what was not measured. -/
def unknownDuration : Int := -1

/-- The statistics of no repetition. -/
def unknown : RunStatistics α where
  duration := unknownDuration
  average := unknownDuration
  variance := ((0 : Nat) : α)
  repetitions := 0

/-- A count of nanoseconds brought into a signed word. -/
def clampDuration (n : Nat) : Int := min greatestSigned n

/-- The sum of the corrected times, saturating at the greatest word. -/
def sumTotals (ms : List Measurement) : Nat :=
  ms.foldl (fun sum m => min greatestWord (sum + m.total)) 0

/-- The per-call estimates as numbers. -/
def estimates (ms : List Measurement) : List α := ms.map fun m => ((m.perCall : Nat) : α)

/-- The statistics of the repetitions of a run. A single repetition is reported as measured. -/
def ofMeasurements : List Measurement → RunStatistics α
  | [] => unknown
  | [m] =>
    { duration := clampDuration m.total
      average := clampDuration m.perCall
      variance := ((0 : Nat) : α)
      repetitions := 1 }
  | ms =>
    let average : α := mean (estimates ms)
    { duration := clampDuration (sumTotals ms)
      average := Arithmetic.clampWhole leastSigned greatestSigned average
      variance := Microbench.variance (estimates ms) average
      repetitions := ms.length }

theorem repetitions_ofMeasurements (ms : List Measurement) :
    (ofMeasurements ms : RunStatistics α).repetitions = ms.length := by
  match ms with
  | [] => rfl
  | [_] => rfl
  | _ :: _ :: _ => rfl

end RunStatistics

end

/-- The population deviation of the per-call estimates. -/
def RunStatistics.deviation (s : RunStatistics Float) : Float := s.variance.sqrt

/-- A deviation in percent of an average; zero when the average is not positive. -/
def variation (average : Int) (deviation : Float) : Float :=
  if average ≤ 0 then 0.0 else deviation / ((average.toNat : Nat) : Float) * 100.0

end Microbench
