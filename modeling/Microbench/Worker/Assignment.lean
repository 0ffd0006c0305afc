import Microbench.Binary64
import Microbench.Decimal.Layout
import Microbench.Decimal.Reading
import Microbench.Text.Quoted
import Microbench.Window

/-!
# Assignments

What a worker process is told to do: where to write, its window of overall progress, and its
suites. An assignment travels as a list of arguments, numbers written with the fewest digits that
read back; only finite numbers are read, and one suite at least has to be named.
-/

namespace Microbench

/-- What a worker has to do. -/
structure Assignment where
  outputDirectory : String
  window : Window Float
  suites : List String
  deriving BEq, Repr

/-- Why arguments are no assignment. -/
inductive AssignmentError where
  | missing (what : String)
  | invalidNumber (what : String) (text : String)
  deriving DecidableEq, Repr

/-- The text of the error. -/
def AssignmentError.message : AssignmentError → String
  | missing what => "Missing worker argument: " ++ what
  | invalidNumber what text => "Invalid " ++ what ++ ": " ++ Text.quoted text

namespace Assignment

/-- The arguments that tell a worker the assignment. -/
def toArguments (a : Assignment) : List String :=
  a.outputDirectory :: Decimal.plain a.window.start :: Decimal.plain a.window.size :: a.suites

/-- A finite number. -/
def readPercent (what : String) (text : String) : Except AssignmentError Float :=
  match Decimal.readFloat text with
  | some x => if Binary64.isFinite x then .ok x else .error (.invalidNumber what text)
  | none => .error (.invalidNumber what text)

/-- The first of the arguments left, and the others. -/
def take (what : String) : List String → Except AssignmentError (String × List String)
  | [] => .error (.missing what)
  | argument :: rest => .ok (argument, rest)

/-- The assignment in a list of arguments. -/
def ofArguments (arguments : List String) : Except AssignmentError Assignment := do
  let (outputDirectory, rest) ← take "output directory" arguments
  let (start, rest) ← take "progress start" rest
  let start ← readPercent "progress start" start
  let (size, suites) ← take "progress window" rest
  let size ← readPercent "progress window" size
  if suites.isEmpty then throw (.missing "suite identifier")
  return { outputDirectory, window := ⟨start, size⟩, suites }

end Assignment

end Microbench
