import Microbench.Disk
import Microbench.Failure
import Microbench.Record.File

/-!
# Reading record files

Only the first two lines can be comments: a decorated one in front is the title, the next comment
holds the headers. Every other line is a row, and under headers each row has as many cells as they.
-/

namespace Microbench.RecordFile

/-- What follows the hash of a comment line. -/
def comment? : List Char → Option (List Char)
  | '#' :: rest => some rest
  | _ => none

/-- What stands between the decorations of a title. -/
def decorated? (comment : List Char) : Option (List Char) :=
  if decoration.isPrefixOf comment then
    let rest := comment.drop decoration.length
    if decoration.isSuffixOf rest then some (rest.take (rest.length - decoration.length)) else none
  else none

/-- The cells of a line. -/
def cells (line : List Char) : List String := (Text.cut '\t' line).map String.ofList

/-- Reads rows under the given headers; `number` is that of the first line. -/
def readRows (headers : List String) (number : Nat) :
    List (List Char) → Except RecordFailure (List (List String))
  | [] => .ok []
  | line :: rest =>
    let row := cells line
    if !headers.isEmpty && row.length != headers.length then
      .error (.malformed number ("expected " ++ Decimal.text headers.length ++
        " columns, found " ++ Decimal.text row.length))
    else do
      let rows ← readRows headers (number + 1) rest
      pure (row :: rows)

/-- Reads a line of headers, if there is one, and the rows. -/
def readTable (title : Option String) (number : Nat) (ls : List (List Char)) :
    Except RecordFailure RecordFile :=
  match ls with
  | [] => .ok { title }
  | line :: rest =>
    match comment? line with
    | some comment => do
      let headers := cells comment
      let rows ← readRows headers (number + 1) rest
      pure { title, headers, rows }
    | none => do
      let rows ← readRows [] number (line :: rest)
      pure { title, rows }

/-- Reads the lines of a record file. -/
def ofLines (ls : List (List Char)) : Except RecordFailure RecordFile :=
  match ls with
  | [] => .ok {}
  | line :: rest =>
    match (comment? line).bind decorated? with
    | some title => readTable (some (Text.trim (String.ofList title))) 2 rest
    | none => readTable none 1 (line :: rest)

/-- Reads the text of a record file. -/
def ofText (s : String) : Except RecordFailure RecordFile := ofLines (Text.lines s.toList)

end Microbench.RecordFile

namespace Microbench.Access

/-- Reads a record file. -/
def readRecords (path : String) : ExceptT RecordFailure (StateM Disk) RecordFile := fun disk =>
  match (readText path).run disk with
  | (.ok text, disk) => (RecordFile.ofText text, disk)
  | (.error e, disk) => (.error (.io e), disk)

end Microbench.Access
