import Microbench.Statistics

/-!
# Runs

A run is one setting under which an operation is exercised: a name and the correction of its
times. Once its repetitions are measured it carries their statistics, which never change again.
-/

namespace Microbench

/-- One parameterisation of an operation, and its statistics once they are known. -/
structure Run where
  name : String
  scaling : TimeScaling Float
  statistics : Option (RunStatistics Float)
  deriving BEq

namespace Run

/-- A run whose times are taken as measured. -/
def named (name : String) : Run := ⟨name, .identity, none⟩

/-- The same run under another correction. -/
def scaled (r : Run) (factor : Float) (increment : Int) : Run :=
  { r with scaling := ⟨factor, increment⟩ }

/-- Nanoseconds of all batches, or the mark of an unmeasured run. -/
def duration (r : Run) : Int := (r.statistics.map (·.duration)).getD RunStatistics.unknownDuration

/-- Nanoseconds per call, or the mark of an unmeasured run. -/
def average (r : Run) : Int := (r.statistics.map (·.average)).getD RunStatistics.unknownDuration

/-- The deviation of the per-call estimates; zero while unmeasured. -/
def deviation (r : Run) : Float := (r.statistics.map (·.deviation)).getD 0.0

/-- Whether the statistics are known. -/
def isCompleted (r : Run) : Bool := r.statistics.isSome

/-- The run with its statistics; a run that has some keeps them. -/
def complete (r : Run) (s : RunStatistics Float) : Run :=
  { r with statistics := some (r.statistics.getD s) }

@[simp] theorem complete_name (r : Run) (s : RunStatistics Float) : (r.complete s).name = r.name :=
  rfl

@[simp] theorem complete_scaling (r : Run) (s : RunStatistics Float) :
    (r.complete s).scaling = r.scaling := rfl

/-- Statistics are written once. -/
theorem complete_complete (r : Run) (s t : RunStatistics Float) :
    (r.complete s).complete t = r.complete s := rfl

end Run

end Microbench
