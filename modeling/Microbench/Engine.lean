import Microbench.Decimal.Layout
import Microbench.Duration.Shown
import Microbench.Suite

/-!
# The engine

`Engine.run` takes a suite through its life: it is set up, each of its operations is exercised in a
group of its own, and it is torn down. A group is a list of runs, a run a number of repetitions, a
repetition a batch of calls of the operation, timed as one.

Whatever goes wrong in a group stays there. The first error or panic ends the group's part: the
suite is told of it, is given the chance to end the group with the runs measured so far (unless
that had begun), and the next group starts. Only the end of the process itself goes further.

Raw times come from a `Clock`, which knows each batch by its place.
-/

namespace Microbench

/-- The place of a batch: its group, its run and its repetition, counted from zero. -/
structure BatchPlace where
  group : Nat
  run : Nat
  repetition : Nat
  deriving DecidableEq, Repr

/-- The raw nanoseconds that each batch takes. -/
abbrev Clock := BatchPlace → Nat

/-- How the groups of a suite fared. -/
structure Summary where
  suite : String
  completed : List String := []
  failed : List String := []
  deriving DecidableEq, Repr

/-- The summary after another group. -/
def Summary.tally (s : Summary) (group : String) (completed : Bool) : Summary :=
  if completed then { s with completed := s.completed ++ [group] }
  else { s with failed := s.failed ++ [group] }

/-- Whether no group failed. -/
def Summary.allCompleted (s : Summary) : Bool := s.failed.isEmpty

/-- What was kept from ending a process: an error or a panic. -/
inductive Caught where
  | failure (error : BenchError)
  | panic (payload : Payload)
  deriving DecidableEq, Repr

namespace Caught

/-- What was caught, as the error of a group. -/
def groupError (group : String) : Caught → BenchError
  | failure e => e
  | panic p => .panic group p.message none

/-- What was caught, as an error without a place. -/
def error : Caught → BenchError
  | failure e => e
  | panic p => .message p.message

end Caught

/-- Runs code and keeps its error or panic from going further. -/
def Code.contain {κ σ α : Type} (x : Code κ σ α) : Code κ σ (Except Caught α) := fun s =>
  match x.run s with
  | (.ok a, t) => (.ok (.ok a), t)
  | (.error (.failure e), t) => (.ok (.error (.failure e)), t)
  | (.error (.crash (.panic p)), t) => (.ok (.error (.panic p)), t)
  | (.error (.crash (.halt f)), t) => (.error (.crash (.halt f)), t)

namespace Engine

open CodeWith

variable {κ σ : Type} [Arithmetic κ]

/-- A field with progress for a reader. -/
def progressField (progress : κ) : String × FieldValue := ("progress", .text (shownProgress progress))

/-- Calls an operation a number of times, up to the first time it does not return. -/
def callTimes (call : Work Stop σ Unit) : Nat → Work Stop σ Unit
  | 0 => fun s => (.ok (), s)
  | n + 1 => fun s =>
    match call.run s with
    | (.ok (), t) => callTimes call n t
    | (.error e, t) => (.error e, t)

/-- One batch of calls; an error of the operation is an error of the group during the run. -/
def batch (operation : Operation σ) (run : Run) (calls : Nat) : Code κ σ Unit := fun s =>
  match (ofWork (callTimes operation.call calls)).run s with
  | (.error (.failure e), t) =>
    (.error (.failure (.operation operation.name run.name e none)), t)
  | done => done

/-- One repetition of a run: the measurement of a batch. -/
def repetition (suite : Suite κ σ) (clock : Clock) (operation : Operation σ) (run : Run)
    (calls : Nat) (place : BatchPlace) (window : Window κ) : Code κ σ Measurement := do
  adjust (·.advance window.start)
  suite.repetitionStarts run place.repetition
  let delay := (← context).knobs.delay
  let fields : List (String × FieldValue) :=
    [("group", .text operation.name), ("run", .text run.name), ("repetition", .number place.repetition)]
  note ⟨.information, "preparing repetition, waiting " ++ Duration.shown delay,
    fields ++ [progressField window.start]⟩
  batch operation run calls
  let raw := clock place
  let total := run.scaling.apply raw
  adjust (·.advance window.finish)
  note ⟨.detail, "repetition measured",
    fields ++ [("raw_ns", .number raw), ("scaled_ns", .number total), progressField window.finish]⟩
  return ⟨total, calls⟩

/-- The repetitions of a run in order, each in its window. -/
def repetitions (suite : Suite κ σ) (clock : Clock) (operation : Operation σ) (run : Run)
    (calls : Nat) (place : BatchPlace) : List (Window κ) → Code κ σ (List Measurement)
  | [] => pure []
  | window :: rest => do
    let m ← repetition suite clock operation run calls place window
    let ms ← repetitions suite clock operation run calls
      { place with repetition := place.repetition + 1 } rest
    return m :: ms

/-- What is noted of a measured run. -/
def runNote (operation : Operation σ) (run : Run) (statistics : RunStatistics Float) : Event :=
  let cv := variation statistics.average statistics.deviation
  ⟨.information, "run completed",
    [("group", .text operation.name), ("run", .text run.name),
      ("run_duration_ns", .number run.duration), ("call_average_ns", .number run.average),
      ("call_std_dev_ns", .float run.deviation), ("call_cv_pct", .text (Decimal.fixed 2 cv))]⟩

/-- The start of a run; its hook is for runs of several repetitions. -/
def runStart (suite : Suite κ σ) (run : Run) (repetitions : Nat) : Code κ σ Unit := do
  adjust fun c => { c with current := some run }
  if 1 < repetitions then suite.runStarts run

/-- The end of a run, from its measurements. -/
def runEnd (suite : Suite κ σ) (operation : Operation σ) (run : Run) (ms : List Measurement) :
    Code κ σ Unit := do
  let statistics := RunStatistics.ofMeasurements ms
  if run.isCompleted then
    note ⟨.warning, "run statistics already recorded, ignoring", [("run", .text run.name)]⟩
  let done := run.complete statistics
  adjust fun c => { c with current := none }
  note (runNote operation done statistics)
  adjust fun c => { c with terminated := c.terminated ++ [done] }
  suite.runEnds done

/-- One run. The knobs that it starts with hold to its end. -/
def runOne (suite : Suite κ σ) (clock : Clock) (operation : Operation σ) (run : Run)
    (place : BatchPlace) (window : Window κ) : Code κ σ Unit := do
  let knobs := (← context).knobs
  runStart suite run knobs.repetitions
  let ms ← repetitions suite clock operation run knobs.calls place (window.split knobs.repetitions)
  runEnd suite operation run ms

/-- The runs of a group in order, each in its window. -/
def runs (suite : Suite κ σ) (clock : Clock) (operation : Operation σ) (place : BatchPlace) :
    List (Run × Window κ) → Code κ σ Unit
  | [] => pure ()
  | (run, window) :: rest => do
    runOne suite clock operation run place window
    runs suite clock operation { place with run := place.run + 1 } rest

/-- The start of a group and its runs: how many there were. -/
def groupBody (suite : Suite κ σ) (clock : Clock) (operation : Operation σ) (index : Nat)
    (window : Window κ) : Code κ σ Nat := do
  adjust fun c => { c with terminated := [] }
  adjust (·.advance window.start)
  note ⟨.information, "starting operation group",
    [("suite", .text (← context).suite), ("group", .text operation.name),
      progressField window.start]⟩
  let rs ← suite.groupStarts operation.name
  runs suite clock operation ⟨index, 0, 0⟩ (rs.zip (window.split rs.length))
  return rs.length

/-- The end of a group of `count` runs. -/
def groupEnd (suite : Suite κ σ) (operation : Operation σ) (window : Window κ) (count : Nat) :
    Code κ σ Unit := do
  suite.groupEnds operation.name
  note ⟨.information, "finished operation group",
    [("suite", .text (← context).suite), ("group", .text operation.name),
      progressField window.finish, ("runs", .number count)]⟩

/-- The end of a group that failed, unless it had begun before; an error of it is noted and
forgotten. The suite is called by the name that it was started under. -/
def failedGroupEnd (suite : Suite κ σ) (id group : String) (ended : Bool) : Code κ σ Unit := do
  let fields : List (String × FieldValue) := [("suite", .text id), ("group", .text group)]
  if ended then note ⟨.detail, "group end already ran", fields⟩
  else match ← Code.contain (suite.groupEnds group) with
    | .ok () => pure ()
    | .error c => note ⟨.warning, "group end after failure: " ++ c.error.text, fields⟩

/-- What becomes of a failed group: the suite is told, then the group is ended. -/
def groupFailure (suite : Suite κ σ) (id group : String) (error : BenchError) (ended : Bool) :
    Code κ σ Unit := do
  adjust fun c => { c with current := none }
  Code.ofCrashing (suite.groupFailed group error)
  failedGroupEnd suite id group ended

/-- What comes of one group: whether it completed. -/
def groupOutcome (suite : Suite κ σ) (clock : Clock) (id : String) (operation : Operation σ)
    (index : Nat) (window : Window κ) : Code κ σ Bool := do
  match ← Code.contain (groupBody suite clock operation index window) with
  | .error c =>
    groupFailure suite id operation.name (c.groupError operation.name) false
    return false
  | .ok count =>
    match ← Code.contain (groupEnd suite operation window count) with
    | .error c =>
      groupFailure suite id operation.name (c.groupError operation.name) true
      return false
    | .ok () =>
      adjust fun c => { c with current := none }
      return true

/-- One group within its window; whether it completed. -/
def group (suite : Suite κ σ) (clock : Clock) (id : String) (operation : Operation σ) (index : Nat)
    (window : Window κ) : Code κ σ Bool := do
  let completed ← groupOutcome suite clock id operation index window
  adjust (·.advance window.finish)
  return completed

/-- The groups in order, each in its window. -/
def groups (suite : Suite κ σ) (clock : Clock) :
    Nat → Summary → List (Operation σ × Window κ) → Code κ σ Summary
  | _, summary, [] => pure summary
  | index, summary, (operation, window) :: rest => do
    let completed ← group suite clock summary.suite operation index window
    groups suite clock (index + 1) (summary.tally operation.name completed) rest

/-- Prepares the suite, after the directory that it writes to. An error is one of the suite that the
context names by then. -/
def setUp (suite : Suite κ σ) : Code κ σ Unit := do
  let refuse (e : BenchError) : Code κ σ Unit := do
    throw (.failure (.setUp (← context).suite e))
  match ← Code.access (Access.makeDirectories (← context).outputDirectory) with
  | .error e => refuse (.io e)
  | .ok () =>
    match ← Code.contain suite.setUp with
    | .error e => refuse e.error
    | .ok () => pure ()

/-- The end of the suite; an error is noted and forgotten. -/
def tearDown (suite : Suite κ σ) (id : String) : Code κ σ Unit := fun s =>
  match suite.tearDown.run s with
  | (.error (.failure e), t) =>
    let event : Event := ⟨.warning, "dispose failed: " ++ e.text, [("suite", .text id)]⟩
    (.ok (), { t with world := t.world.note event })
  | done => done

/-- Takes a suite through its life within a window of overall progress. -/
def run (suite : Suite κ σ) (clock : Clock) (window : Window κ) : Code κ σ Summary := do
  adjust (·.advance window.start)
  let id := (← context).suite
  note ⟨.information, "initializing suite", [("suite", .text id), progressField window.start]⟩
  setUp suite
  let operations ← Code.ofCrashing (ofWork suite.operations)
  let summary ← groups suite clock 0 { suite := id }
    (operations.zip (window.split operations.length))
  tearDown suite id
  note ⟨.information, "suite finished",
    [("suite", .text id), progressField window.finish,
      ("completed", .number summary.completed.length), ("failed", .number summary.failed.length)]⟩
  return summary

end Engine

end Microbench
