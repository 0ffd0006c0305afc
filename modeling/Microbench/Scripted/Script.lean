import Microbench.Failure

/-!
# Scripts

A script describes a suite by its groups and by what its hooks do. It lets one try every way in
which a suite can behave without writing a new one.
-/

namespace Microbench.Scripted

/-- The moments at which a scripted suite can act. -/
inductive Hook where
  | setUp
  | operations
  | groupStarts
  | runStarts
  | repetitionStarts
  | call
  | runEnds
  | groupEnds
  | groupFailed
  | tearDown
  deriving DecidableEq, Repr

/-- What a hook can do. -/
inductive Act where
  | fail (error : BenchError)
  | panic (message : String)
  /-- A panic without a text. -/
  | panicSilently
  | setCalls (n : Nat)
  | setRepetitions (n : Nat)
  /-- Milliseconds. -/
  | setDelay (n : Nat)
  | print (text : String)
  | printError (text : String)
  | printProperty (key : String)
  | printKnobs
  | row (cells : List String)
  | standardRows
  /-- Makes a directory below that of the suite. -/
  | makeDirectory (name : String)
  | exit (code : Int)
  | kill

/-- When a reaction applies; what is not given does not matter. -/
structure Condition where
  group : Option String := none
  run : Option String := none
  repetition : Option Nat := none
  /-- The number of the call in its group. -/
  call : Option Nat := none

/-- What to do at a hook under a condition. -/
structure Reaction where
  hook : Hook
  condition : Condition
  act : Act

/-- A run of a group: its name, and its correction if it has one. -/
structure PlannedRun where
  name : String
  scaling : Option (Float × Int)

/-- A group: its name, and its runs unless it has the one run that every group has. -/
structure PlannedGroup where
  name : String
  runs : Option (List PlannedRun) := none

/-- A suite described by its groups and its reactions. -/
structure Script where
  groups : List PlannedGroup
  reactions : List Reaction := []
  title : Option String := none
  headers : Option (List String) := none

/-- The script of a suite that was given none. -/
def Script.idle : Script := { groups := [⟨"noop", none⟩] }

end Microbench.Scripted
