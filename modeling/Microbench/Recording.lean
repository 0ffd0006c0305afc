import Microbench.Decimal.Layout
import Microbench.Failure.Report
import Microbench.Record.Writer
import Microbench.Suite

/-!
# Recorded suites

A recorded suite leaves a record file for each of its groups and an error report for each group
that failed. The file is open from the start of the group to its end; the hooks at the end of a run
and of a group may add rows.

Such a hook never holds the file. It is a `Dictation`: a computation that may ask for a row to be
written and goes on with the answer. `Dictation.perform` writes the rows to the file that is open,
so a row can only go where the recorder points.
-/

namespace Microbench

/-- The record file of the current group, if it is open. -/
structure Recorder where
  file : Option Access.OpenRecord := none

namespace Recorder

/-- What a hook sees of the recorder. -/
def view (r : Recorder) : RecorderView := ⟨r.file.isSome, (r.file.map (·.writer.rows)).getD 0⟩

/-- Closes the file, if one is open. -/
def close (r : Recorder) (disk : Disk) : Except RecordFailure Unit × Recorder × Disk :=
  match r.file with
  | none => (.ok (), r, disk)
  | some f =>
    match (RecordWriter.finish (Access.sink f.place)).run (f.writer, disk) with
    | (.ok (), _, disk) => (.ok (), {}, disk)
    | (.error e, _, disk) => (.error (.io e), {}, disk)

/-- Opens the file at a path after closing the one before. -/
def openAt (path : String) (title : Option String) (headers : List String) (r : Recorder)
    (disk : Disk) : Except RecordFailure Unit × Recorder × Disk :=
  match r.close disk with
  | (.error e, r, disk) => (.error e, r, disk)
  | (.ok (), r, disk) =>
    match (Access.openRecord path title headers).run disk with
    | (.ok f, disk) => (.ok (), ⟨some f⟩, disk)
    | (.error e, disk) => (.error (.io e), r, disk)

/-- Adds a row to the open file. -/
def write (cells : List String) (r : Recorder) (disk : Disk) :
    Except RecordFailure Unit × Recorder × Disk :=
  match r.file with
  | none => (.error .notOpen, r, disk)
  | some f =>
    match (RecordWriter.writeRow (Access.sink f.place) cells).run (f.writer, disk) with
    | (.ok (), writer, disk) => (.ok (), ⟨some { f with writer }⟩, disk)
    | (.error e, writer, disk) => (.error (.io e), ⟨some { f with writer }⟩, disk)

end Recorder

/-- A computation that may ask for rows to be written. -/
inductive Dictation (κ σ α : Type) where
  | done (answer : Except Stop α) (scene : Scene κ σ)
  /-- Asks for a row; it goes on with whether that worked and what it then sees. -/
  | row (cells : List String) (scene : Scene κ σ)
    (next : Except RecordFailure Unit → RecorderView → Scene κ σ → Dictation κ σ α)

namespace Dictation

variable {κ σ α β : Type}

/-- One computation after the other. -/
def andThen (view : RecorderView) (f : α → RecorderView → Scene κ σ → Dictation κ σ β) :
    Dictation κ σ α → Dictation κ σ β
  | done (.ok a) scene => f a view scene
  | done (.error e) scene => done (.error e) scene
  | row cells scene next =>
    row cells scene fun answer view scene => (next answer view scene).andThen view f

/-- Carries the computation out with a recorder. -/
def perform (r : Recorder) : Dictation κ σ α → Except Stop α × Recorder × Scene κ σ
  | done answer scene => (answer, r, scene)
  | row cells scene next =>
    let (answer, r, disk) := r.write cells scene.world.disk
    (next answer r.view { scene with world := { scene.world with disk } }).perform r

end Dictation

/-- Code of a suite that may ask for rows. -/
def Recorded (κ σ α : Type) := RecorderView → Scene κ σ → Dictation κ σ α

namespace Recorded

variable {κ σ α β : Type}

instance : Monad (Recorded κ σ) where
  pure a := fun _ scene => .done (.ok a) scene
  bind x f := fun view scene => (x view scene).andThen view f

/-- Code that asks for no row. -/
def ofCode (x : Code κ σ α) : Recorded κ σ α := fun _ scene =>
  let (answer, scene) := x.run scene
  .done answer scene

/-- What is seen of the recorder. -/
def view : Recorded κ σ RecorderView := fun view scene => .done (.ok view) scene

/-- Writes a row. -/
def row (cells : List String) : Recorded κ σ Unit := fun _ scene =>
  .row cells scene fun answer _ scene =>
    match answer with
    | .ok () => .done (.ok ()) scene
    | .error e => .done (.error (.failure (.record e))) scene

/-- Writes rows in order. -/
def rows : List (List String) → Recorded κ σ Unit
  | [] => pure ()
  | cells :: rest => do
    row cells
    rows rest

end Recorded

namespace Recording

/-- The headers of the standard columns. -/
def standardHeaders : List String :=
  ["Order", "Name", "Global Duration (ns)", "Operation Duration (ns)",
    "Operation Standard Deviation", "OS Load Average"]

/-- The cells of a run in the standard columns. -/
def standardRow (load : Float) (order : Nat) (run : Run) : List String :=
  [Decimal.text order, run.name, Decimal.signedText run.duration, Decimal.signedText run.average,
    Decimal.fixed 3 run.deviation, Decimal.fixed 2 load]

/-- Runs with their numbers, from a first one. -/
def numbered (load : Float) : Nat → List Run → List (List String)
  | _, [] => []
  | n, run :: rest => standardRow load n run :: numbered load (n + 1) rest

/-- Writes a row in the standard columns for every run that was measured. -/
def standardRows {κ σ : Type} : Recorded κ σ Unit := fun view scene =>
  Recorded.rows (numbered scene.world.host.load 0 scene.context.terminated) view scene

/-- The file name extension of error reports. -/
def errorExtension : String := "log"

end Recording

/-- What a recorded suite is made of. Every part but the operations has a default. -/
structure RecordedSuite (κ σ : Type) where
  /-- The title of its record files. -/
  title : σ → Except Payload (Option String) := fun _ => .ok none
  /-- The headers of its record files. -/
  headers : σ → Except Payload (List String) := fun _ => .ok Recording.standardHeaders
  /-- Prepares the suite. -/
  setUp : Code κ σ Unit := pure ()
  /-- Declares the operations, one for each group. -/
  operations : Work Crash σ (List (Operation σ))
  /-- The runs to exercise the operation of a group in. -/
  determineRuns : String → Code κ σ (List Run) := fun group => pure [Run.named group]
  /-- A run of more than one repetition starts. -/
  runStarts : Run → Code κ σ Unit := fun _ => pure ()
  /-- A repetition of a run starts. -/
  repetitionStarts : Run → Nat → Code κ σ Unit := fun _ _ => pure ()
  /-- A run was measured. -/
  runEnds : Run → Recorded κ σ Unit := fun _ => pure ()
  /-- A group is over; by default every measured run has a row. -/
  groupEnds : String → Recorded κ σ Unit := fun _ => Recording.standardRows
  /-- The suite is done. -/
  tearDown : Code κ σ Unit := pure ()

namespace Recording

variable {κ σ α : Type}

/-- A suite's state beside its recorder. -/
abbrev State (σ : Type) := σ × Recorder

/-- Code on the state beside the recorder. -/
def within {ε : Type} (x : CodeWith ε κ σ α) : CodeWith ε κ (State σ) α :=
  CodeWith.project Prod.fst (fun t s => (s, t.2)) x

/-- Work of the recorder; its failure is an error of the suite. -/
def recorder (x : Recorder → Disk → Except RecordFailure Unit × Recorder × Disk) :
    Code κ (State σ) (Except RecordFailure Unit) := fun s =>
  let (answer, r, disk) := x s.state.2 s.world.disk
  (.ok answer, { s with state := (s.state.1, r), world := { s.world with disk } })

/-- Carries out code that may ask for rows. -/
def dictated (x : Recorded κ σ α) : Code κ (State σ) α := fun s =>
  let (answer, r, inner) := (x s.state.2.view { s with state := s.state.1 }).perform s.state.2
  (answer, { inner with state := (inner.state, r) })

/-- A failure of the recorder, as an error of the suite. -/
def orThrow : Except RecordFailure Unit → Code κ (State σ) Unit
  | .ok () => pure ()
  | .error e => throw (.failure (.record e))

/-- A part of the suite's description; asking for it may panic. -/
def described (x : σ → Except Payload α) : Code κ (State σ) α := fun s =>
  match x s.state.1 with
  | .ok a => (.ok a, s)
  | .error p => (.error (.crash (.panic p)), s)

/-- Opens the record file of a group. -/
def openGroup (suite : RecordedSuite κ σ) (group : String) : Code κ (State σ) Unit := do
  let c ← CodeWith.context
  let path := Path.join c.outputDirectory (group ++ "." ++ RecordFile.extension)
  let title ← described suite.title
  let headers ← described suite.headers
  orThrow (← recorder (Recorder.openAt path title headers))
  CodeWith.note ⟨.detail, "opened record file", [("path", .text path)]⟩

/-- Ends a group: the file is closed whatever the hook did, and the hook's error comes first. -/
def closeGroup (suite : RecordedSuite κ σ) (group : String) : Code κ (State σ) Unit := fun s =>
  match (dictated (suite.groupEnds group)).run s with
  | (.ok (), t) => (do orThrow (← recorder Recorder.close) : Code κ (State σ) Unit).run t
  | (.error (.failure e), t) =>
    let (_, t) := (recorder Recorder.close : Code κ (State σ) _).run t
    (.error (.failure e), t)
  | crashed => crashed

/-- Keeps the report of a failed group. -/
def keepReport (group : String) (e : BenchError) : CodeWith Crash κ (State σ) Unit := fun s =>
  let c := s.context
  let path := Path.join c.outputDirectory (group ++ "." ++ errorExtension)
  let world := s.world.note
    ⟨.error, e.text, [("suite", .text c.suite), ("group", .text group)]⟩
  match world.access (Access.writeReport path e.report) with
  | (.ok (), world) => (.ok (), { s with world })
  | (.error x, world) =>
    let event : Event :=
      ⟨.detail, "writing error file failed: " ++ (RecordFailure.io x).message,
        [("path", .text path)]⟩
    (.ok (), { s with world := world.note event })

/-- Tears the suite down after the file was closed; the suite's error comes first. -/
def closeAll (suite : RecordedSuite κ σ) : Code κ (State σ) Unit := do
  let closed ← recorder Recorder.close
  within suite.tearDown
  orThrow closed

/-- The operation of a recorded suite beside its recorder. -/
def operation (o : Operation σ) : Operation (State σ) :=
  o.project Prod.fst (fun t s => (s, t.2))

/-- The operations of a recorded suite beside its recorder. -/
def operations (suite : RecordedSuite κ σ) : Work Crash (State σ) (List (Operation (State σ))) :=
  fun (s, w) =>
    let (answer, inner, w) := suite.operations.run (s.1, w)
    (answer.map (·.map operation), (inner, s.2), w)

/-- A recorded suite as a suite. -/
def suite (inner : RecordedSuite κ σ) : Suite κ (State σ) where
  setUp := within inner.setUp
  operations := operations inner
  groupStarts group := do
    openGroup inner group
    within (inner.determineRuns group)
  runStarts run := within (inner.runStarts run)
  repetitionStarts run repetition := within (inner.repetitionStarts run repetition)
  runEnds run := dictated (inner.runEnds run)
  groupEnds := closeGroup inner
  groupFailed := keepReport
  tearDown := closeAll inner

end Recording

end Microbench
