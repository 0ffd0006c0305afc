import Microbench.Disk
import Microbench.Record.File
import Microbench.Sink

/-!
# Writing record files

A `RecordWriter` writes the opening lines, then row after row, and hands every row to its sink
before it counts it.
-/

namespace Microbench

/-- What a record writer remembers: the bytes that its sink has not taken yet, and the rows. -/
structure RecordWriter where
  pending : Bytes := []
  rows : Nat := 0

namespace RecordWriter

variable {ω : Type}

/-- Actions on a writer and its sink. -/
abbrev Action (ω : Type) := ExceptT IoFailure (StateM (RecordWriter × ω))

/-- An action on the bytes in front of the sink. -/
def buffered {α : Type} (x : Buffered.Action ω α) : Action ω α := fun (writer, w) =>
  let (answer, pending, w) := x.run (writer.pending, w)
  (answer, { writer with pending }, w)

/-- Writes pieces of text and hands them to the sink. -/
def writePieces (sink : Sink ω) (pieces : List String) : Action ω Unit :=
  buffered (Buffered.putAll sink (pieces.map Bytes.ofText))

/-- Writes what stands in front of the rows. -/
def writeOpening (sink : Sink ω) (title : Option String) (headers : List String) : Action ω Unit :=
  if headers.isEmpty then pure () else writePieces sink (RecordFile.openingPieces title headers)

/-- Writes a row; it counts once the sink has it. -/
def writeRow (sink : Sink ω) (cells : List String) : Action ω Unit := do
  writePieces sink (RecordFile.rowPieces cells)
  modify fun (writer, w) => ({ writer with rows := writer.rows + 1 }, w)

/-- Hands the last bytes to the sink. When that fails it is tried once more, in vain or not. -/
def finish (sink : Sink ω) : Action ω Unit := fun s =>
  match (buffered (Buffered.drain sink)).run s with
  | (.ok (), s) => (.ok (), s)
  | (.error e, s) => (.error e, ((buffered (Buffered.drain sink)).run s).2)

end RecordWriter

namespace Access

/-- The file at a place, as a sink. -/
def sink (place : List String) : Sink Disk where
  accept bytes := do
    append place bytes
    pure bytes.length

/-- A record file that was opened: its place and its writer. -/
structure OpenRecord where
  place : List String
  writer : RecordWriter

/-- Opens a record file and writes what stands in front of the rows. -/
def openRecord (path : String) (title : Option String) (headers : List String) :
    Access OpenRecord := do
  if let some above := Path.parent? path then makeDirectories above
  let place ← createFile path
  fun disk =>
    match (RecordWriter.writeOpening (sink place) title headers).run ({}, disk) with
    | (.ok (), writer, disk) => (.ok ⟨place, writer⟩, disk)
    | (.error e, left) =>
      -- what is still waiting is offered once more
      (.error e, ((RecordWriter.finish (sink place)).run left).2.2)

end Access

end Microbench
