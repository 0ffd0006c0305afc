import Microbench.Context
import Microbench.Failure

/-!
# Observations

What a suite that watches itself notes: each of its hooks with the part of the context that the
hook saw, and how often its operations were called in between.
-/

namespace Microbench

/-- The part of a context that a hook sees change. -/
structure Glimpse where
  progress : Float
  current : Option String
  terminated : List String

/-- What a context shows. -/
def Glimpse.ofContext (c : Context Float) : Glimpse :=
  ⟨c.progress, c.current.map (·.name), c.terminated.map (·.name)⟩

/-- What a hook sees of the record file of its group. -/
structure RecorderView where
  isOpen : Bool
  rows : Nat
  deriving DecidableEq, Repr

/-- What is noted at one moment. -/
inductive Observation where
  /-- Operations were called this often since the last observation. -/
  | calls (count : Nat)
  | operations
  | setUp (seen : Glimpse)
  | groupStarts (group : String) (seen : Glimpse)
  | runStarts (run : Run) (seen : Glimpse)
  | repetitionStarts (run : String) (repetition : Nat) (seen : Glimpse)
  | runEnds (run : Run) (recorder : Option RecorderView) (seen : Glimpse)
  | groupEnds (group : String) (recorder : Option RecorderView) (seen : Glimpse)
  | groupFailed (group : String) (error : BenchError) (seen : Glimpse)
  | tearDown (seen : Glimpse)

end Microbench
