import Microbench.Decimal.Digits

/-!
# Failures of the file system

A file operation fails with one of the system's numbered errors or for a reason that has only a
text. Both are shown the way the system words them.
-/

namespace Microbench

/-- The numbered errors that file operations and process starts end in. -/
inductive SystemError where
  | noEntry
  | accessDenied
  | alreadyExists
  | notDirectory
  | isDirectory
  | nameTooLong
  deriving DecidableEq, Repr

namespace SystemError

/-- The number of an error. -/
def number : SystemError → Nat
  | noEntry => 2
  | accessDenied => 13
  | alreadyExists => 17
  | notDirectory => 20
  | isDirectory => 21
  | nameTooLong => 36

/-- The system's words for an error. -/
def words : SystemError → String
  | noEntry => "No such file or directory"
  | accessDenied => "Permission denied"
  | alreadyExists => "File exists"
  | notDirectory => "Not a directory"
  | isDirectory => "Is a directory"
  | nameTooLong => "File name too long"

/-- The words and the number. -/
def message (e : SystemError) : String :=
  e.words ++ " (os error " ++ Decimal.text e.number ++ ")"

end SystemError

/-- Why an input or output operation failed. -/
inductive IoFailure where
  | system (error : SystemError)
  | other (text : String)
  deriving DecidableEq, Repr

namespace IoFailure

/-- A path with a character that no file name can hold. -/
def nulInName : IoFailure := .other "file name contained an unexpected NUL byte"

/-- Bytes that are no text. -/
def notText : IoFailure := .other "stream did not contain valid UTF-8"

/-- What a reader sees of the failure. -/
def message : IoFailure → String
  | .system e => e.message
  | .other text => text

end IoFailure

end Microbench
