import Microbench.Disk
import Microbench.Failure
import Microbench.Host
import Microbench.Json.Reader
import Microbench.Moment
import Microbench.Window

/-!
# Batch reports

The report of a batch: when and where it ran, on what host, and what became of each suite. It is
kept as a document; `BatchReport.ofJson?` reads back what `BatchReport.toJson` writes. An absent
exit code or message is left out of the document.
-/

namespace Microbench

/-- What became of a suite. -/
inductive SuiteStatus where
  | completed
  | failed
  /-- The suite never got to run. -/
  | launchFailed
  deriving DecidableEq, Repr

/-- The report on one suite of a batch. -/
structure SuiteOutcome where
  suite : String
  window : Window Float
  status : SuiteStatus
  exitCode : Option Int := none
  message : Option String := none
  /-- Milliseconds that the suite took. -/
  elapsed : Nat := 0

/-- The report on a batch. -/
structure BatchReport where
  schemaVersion : Nat := 1
  version : String := "0.1.0"
  started : Moment
  finished : Option Moment := none
  outputRoot : String
  isolated : Bool
  host : Host
  suites : List SuiteOutcome := []

namespace SuiteStatus

/-- The word for a status. -/
def word : SuiteStatus → String
  | completed => "completed"
  | failed => "failed"
  | launchFailed => "launch_failed"

/-- The status that a word is for. -/
def ofWord? (s : String) : Option SuiteStatus :=
  if s = "completed" then some completed
  else if s = "failed" then some failed
  else if s = "launch_failed" then some launchFailed
  else none

@[simp] theorem ofWord?_word (s : SuiteStatus) : ofWord? s.word = some s := by
  cases s <;> decide

end SuiteStatus

namespace BatchReport

/-- The name of the file that holds the report. -/
def fileName : String := "batch.json"

/-- How many suites did not complete. -/
def failedCount (r : BatchReport) : Nat := (r.suites.filter fun s => s.status != .completed).length

/-! ## Writing -/

/-- The document of an outcome. -/
def outcomeJson (s : SuiteOutcome) : Json :=
  .object <|
    [("suite", .text s.suite),
      ("progress_start", .ofFloat s.window.start),
      ("progress_size", .ofFloat s.window.size),
      ("status", .text s.status.word)] ++
    (s.exitCode.map fun c => ("exit_code", Json.ofInt c)).toList ++
    (s.message.map fun m => ("message", Json.text m)).toList ++
    [("elapsed_ms", .ofNat s.elapsed)]

/-- The document of a host. -/
def hostJson (h : Host) : Json :=
  .object [("processors", .ofNat h.processors), ("load_average", .ofFloat h.load)]

/-- The document of a report. -/
def toJson (r : BatchReport) : Json :=
  .object
    [("schema_version", .ofNat r.schemaVersion),
      ("version", .text r.version),
      ("started", .text r.started.text),
      ("finished", .ofText? (r.finished.map (·.text))),
      ("output_root", .text r.outputRoot),
      ("isolated", .bool r.isolated),
      ("host", hostJson r.host),
      ("suites", .array (r.suites.map outcomeJson))]

/-- The text of a report. -/
def render (r : BatchReport) : String := r.toJson.render

/-! ## Reading -/

/-- The value of a field that occurs at most once. -/
def field? (fields : List (String × Json)) (name : String) : Option (Option Json) :=
  match fields.filter (·.1 == name) with
  | [] => some none
  | [(_, v)] => some (some v)
  | _ => none

/-- The values of the named fields of a record. A list stands for a record of the fields in
order, none missing. -/
def fields? (names : List String) : Json → Option (List (Option Json))
  | .object fields => names.mapM (field? fields)
  | .array items => if items.length = names.length then some (items.map some) else none
  | _ => none

/-- A text. -/
def text? : Json → Option String
  | .text s => some s
  | _ => none

/-- A truth value. -/
def bool? : Json → Option Bool
  | .bool b => some b
  | _ => none

/-- A whole number up to a bound. -/
def nat? (limit : Nat) : Json → Option Nat
  | .number n =>
    match n.value? with
    | some (.whole k) => if k ≤ limit then some k else none
    | _ => none
  | _ => none

/-- An integer of 32 bits. -/
def exitCode? : Json → Option Int
  | .number n =>
    match n.value? with
    | some (.whole k) => if k < Nat.pow 2 31 then some k else none
    | some (.belowZero k) => if k < Nat.pow 2 31 then some (-(k + 1 : Int)) else none
    | _ => none
  | _ => none

/-- A float; a whole number stands for the nearest one. -/
def float? : Json → Option Float
  | .number n =>
    match n.value? with
    | some (.whole k) => some (Float.ofNat k)
    | some (.belowZero k) => some (-(Float.ofNat (k + 1)))
    | some (.float x) => some x
    | none => none
  | _ => none

/-- A value that may be null or absent. -/
def optional? {α : Type} (read : Json → Option α) : Option Json → Option (Option α)
  | none => some none
  | some .null => some none
  | some v => (read v).map some

/-- A moment. -/
def moment? (v : Json) : Option Moment := (text? v).bind Moment.read?

/-- A status: its word, or a record with nothing but the word and null. -/
def status? : Json → Option SuiteStatus
  | .text s => SuiteStatus.ofWord? s
  | .object [(s, .null)] => SuiteStatus.ofWord? s
  | _ => none

/-- Reads an outcome. -/
def outcome? (v : Json) : Option SuiteOutcome := do
  match ← fields? ["suite", "progress_start", "progress_size", "status", "exit_code", "message",
      "elapsed_ms"] v with
  | [some suite, some start, some size, some status, exitCode, message, some elapsed] =>
    return {
      suite := ← text? suite
      window := ⟨← float? start, ← float? size⟩
      status := ← status? status
      exitCode := ← optional? exitCode? exitCode
      message := ← optional? text? message
      elapsed := ← nat? greatestWord elapsed }
  | _ => none

/-- Reads a host. -/
def host? (v : Json) : Option Host := do
  match ← fields? ["processors", "load_average"] v with
  | [some processors, some load] => return ⟨← nat? greatestWord processors, ← float? load⟩
  | _ => none

/-- Reads a list. -/
def list? {α : Type} (read : Json → Option α) : Json → Option (List α)
  | .array items => items.mapM read
  | _ => none

/-- Reads a report. -/
def ofJson? (v : Json) : Option BatchReport := do
  match ← fields? ["schema_version", "version", "started", "finished", "output_root", "isolated",
      "host", "suites"] v with
  | [some schemaVersion, some version, some started, finished, some outputRoot, some isolated,
      some host, some suites] =>
    return {
      schemaVersion := ← nat? (Nat.pow 2 32 - 1) schemaVersion
      version := ← text? version
      started := ← moment? started
      finished := ← optional? moment? finished
      outputRoot := ← text? outputRoot
      isolated := ← bool? isolated
      host := ← host? host
      suites := ← list? outcome? suites }
  | _ => none

/-- Reads the text of a report. -/
def ofText (s : String) : Except RecordFailure BatchReport :=
  match (Json.read? s).bind ofJson? with
  | some r => .ok r
  | none => .error (.json "no batch report")

end BatchReport

namespace Access

/-- Reads the report in a file. -/
def loadReport (path : String) : ExceptT RecordFailure (StateM Disk) BatchReport := fun disk =>
  match (readText path).run disk with
  | (.ok text, disk) => (BatchReport.ofText text, disk)
  | (.error e, disk) => (.error (.io e), disk)

/-- Writes a report below its output root. -/
def saveReport (r : BatchReport) : Access String := do
  let path := Path.join r.outputRoot BatchReport.fileName
  makeDirectories r.outputRoot
  writeFile path (Bytes.ofText r.render)
  pure path

/-- Sets the end of a batch and writes its report; the report is changed even if it cannot be
written. -/
def finishReport (r : BatchReport) (now : Moment) : BatchReport × Access String :=
  let r := { r with finished := some now }
  (r, saveReport r)

end Access

end Microbench
