import Microbench.Text.Character
import Microbench.Text.Split

/-!
# Record files

A record file is a table in text: an optional title line, a line of headers, and a line of cells
for each row. The first two open with a hash; cells are parted by tabs, and a separator inside a
cell is written as a space.
-/

namespace Microbench

/-- A record file as it is read back. -/
structure RecordFile where
  title : Option String := none
  headers : List String := []
  rows : List (List String) := []
  deriving DecidableEq, Repr

namespace RecordFile

/-- The file name extension of record files. -/
def extension : String := "tsv"

/-- What stands on both sides of a title. -/
def decoration : List Char := List.replicate 12 '-'

/-- A separator becomes a space. -/
def plainCharacter (c : Char) : Char := if c = '\t' ∨ c = '\n' ∨ c = '\r' then ' ' else c

/-- A text without separators. -/
def sanitize (s : String) : String := String.ofList (s.toList.map plainCharacter)

/-- The cells of a line, without its end. -/
def line (cells : List String) : String :=
  String.ofList (Text.unite '\t' (cells.map fun c => (sanitize c).toList))

/-- The pieces of the title line. -/
def titlePieces (title : String) : List String :=
  ["#", String.ofList decoration, " ", sanitize title, " ", String.ofList decoration, "\n"]

/-- The pieces of the header line. -/
def headerPieces (headers : List String) : List String := ["#", line headers, "\n"]

/-- The pieces in front of the rows. Without headers there are none; an empty title is left out. -/
def openingPieces (title : Option String) (headers : List String) : List String :=
  if headers.isEmpty then []
  else
    (match title with
      | some t => if t.isEmpty then [] else titlePieces t
      | none => []) ++ headerPieces headers

/-- The pieces of a row. -/
def rowPieces (cells : List String) : List String := [line cells, "\n"]

end RecordFile

end Microbench
