import Microbench.Disk
import Microbench.Failure
import Microbench.Text.Character

/-!
# Failure reports

The text that is kept of a failure: a line for the failure, a line for each of its causes, and the
stack trace, if there is one that is not blank.
-/

namespace Microbench

/-- The lines of a stack trace without the blanks at its end. -/
def traceLines (trace : Option String) : String :=
  let body := Text.trimRight ((trace.getD "").toList)
  if body.isEmpty then "" else String.ofList body ++ "\n"

/-- The text kept of a failure with the given causes. -/
def failureReport (text : String) (causes : List String) (trace : Option String) : String :=
  text ++ "\n" ++ String.join (causes.map fun c => "Caused by: " ++ c ++ "\n") ++ traceLines trace

/-- The text kept of an error, with its own trace. -/
def BenchError.report (e : BenchError) : String := failureReport e.text e.causes e.trace

/-- Keeps a report in a file, in directories that are made as needed. -/
def Access.writeReport (path report : String) : Access Unit := do
  if let some above := Path.parent? path then makeDirectories above
  writeFile path (Bytes.ofText report)

end Microbench
