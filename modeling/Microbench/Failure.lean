import Microbench.Failure.System

/-!
# Failures

`RecordFailure` is what goes wrong with record files and batch reports, `BenchError` what goes
wrong while a suite runs. An error may have a cause, which may have one too; `BenchError.report`
is the text that lists them all, the outermost first, and ends with a stack trace if there is one.
-/

namespace Microbench

/-- What goes wrong with a record file or a batch report. -/
inductive RecordFailure where
  | io (failure : IoFailure)
  /-- The text is no batch report. -/
  | json (message : String)
  | notOpen
  /-- A line, counted from one, that does not fit its file. -/
  | malformed (line : Nat) (message : String)
  deriving DecidableEq, Repr

namespace RecordFailure

/-- The failure in one line. -/
def message : RecordFailure → String
  | .io e => "I/O error: " ++ e.message
  | .json m => "JSON error: " ++ m
  | .notOpen => "No record file is open"
  | .malformed line m => "Malformed record file at line " ++ Decimal.text line ++ ": " ++ m

/-- The texts of its causes. -/
def causes : RecordFailure → List String
  | .io e => [e.message]
  | .json m => [m]
  | _ => []

end RecordFailure

/-- What goes wrong while a suite runs. -/
inductive BenchError where
  | io (failure : IoFailure)
  /-- The suite could not be prepared. -/
  | setUp (suite : String) (source : BenchError)
  /-- A call of the operation failed. -/
  | operation (group run : String) (source : BenchError) (trace : Option String)
  /-- The suite's code panicked. -/
  | panic (group message : String) (trace : Option String)
  | unknownSuite (id : String)
  | missingProperties (suite : String) (missing : List String)
  | record (failure : RecordFailure)
  | message (text : String)
  deriving DecidableEq, Repr

instance : Inhabited BenchError := ⟨.message ""⟩

/-- Texts with a comma between neighbours. -/
def commaSeparated (xs : List String) : String := ", ".intercalate xs

namespace BenchError

/-- The error in one line. -/
def text : BenchError → String
  | .io e => "I/O error: " ++ e.message
  | .setUp suite _ => "Suite '" ++ suite ++ "' failed to initialize"
  | .operation group run _ _ => "Operation '" ++ group ++ "' failed during run '" ++ run ++ "'"
  | .panic group m _ => "Operation '" ++ group ++ "' panicked: " ++ m
  | .unknownSuite id => "Unknown suite: " ++ id
  | .missingProperties suite missing =>
    "Suite '" ++ suite ++ "' requires missing properties: " ++ commaSeparated missing
  | .record e => e.message
  | .message m => m

/-- The texts of the causes, the nearest first. -/
def causes : BenchError → List String
  | .io e => [e.message]
  | .setUp _ source => source.text :: source.causes
  | .operation _ _ source _ => source.text :: source.causes
  | .record e => e.causes
  | _ => []

/-- The stack trace taken when the error arose. -/
def trace : BenchError → Option String
  | .operation _ _ _ t => t
  | .panic _ _ t => t
  | _ => none

end BenchError

end Microbench
