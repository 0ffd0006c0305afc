import Microbench.Batch.Report
import Microbench.Launch
import Microbench.Relay.Shift
import Microbench.Worker.Process

/-!
# Batches

A batch runs its suites one after the other, each in its even share of overall progress, and ends
with a report that has one entry for each of them. A suite runs in this process or in a worker of its
own; what a worker writes is relayed, and only how it ended counts for its entry.
-/

namespace Microbench

/-- What a batch reads off clocks. -/
structure BatchTimes where
  started : Moment
  finished : Moment
  /-- Milliseconds of each suite, by its place. -/
  elapsed : Nat → Nat := fun _ => 0
  /-- Raw times of the suites that run in this process, by their places. -/
  clocks : Launch.Clocks := fun _ _ => 0

/-- The bar that shows overall progress. -/
structure ProgressBar where
  position : Nat := 0
  message : String := ""
  /-- The positions that it was moved to, the latest first. -/
  moves : List Nat := []
  deriving DecidableEq, Repr

/-- The bar at another position. -/
def ProgressBar.moveTo (b : ProgressBar) (position : Nat) : ProgressBar :=
  { b with position, moves := position :: b.moves }

/-- How batches are run. -/
structure Orchestrator where
  dispatch : Dispatch
  registry : Registry Float
  workers : Workers
  /-- Why a relay pool could not be replaced, if it could not. -/
  refusal : Option String := none

/-- What changes while batches are run. -/
structure Stage where
  relays : RelayPool (Pipe × Bytes)
  bar : ProgressBar := {}
  world : World

namespace Orchestrator

/-- The relays of a worker: its output and its errors. -/
def relayThreads : Nat := 2

/-- The stage before the first batch. -/
def start (world : World) : Stage := { relays := { threads := relayThreads }, world }

/-- Work that cannot fail. -/
abbrev Orchestration := StateM Stage

/-- Work that can crash. -/
abbrev Crashing := ExceptT Crash Orchestration

/-- Changes the world. -/
def change (f : World → World) : Orchestration Unit := modify fun s => { s with world := f s.world }

/-- Notes an event. -/
def note (e : Event) : Orchestration Unit := change (·.note e)

/-- A command for a reader. -/
def shownCommand (c : WorkerCommand) : String :=
  String.intercalate " " ((c.program :: c.arguments).map Text.quoted)

/-- What a worker does with the relay pool: its output and its errors are relayed in turn, with
steps for all that they hold. -/
def shift (o : Orchestrator) (run : WorkerRun) (p : RelayPool (Pipe × Bytes)) :
    RelayPool.Shift (Pipe × Bytes) :=
  let out := p.tasks.length
  let steps := Pipe.steps (run.stdout.held.length + run.stderr.held.length)
  let moves := (List.range steps).flatMap fun _ => [out, out + 1]
  let patience : Patience := { grace := moves, acknowledgement := moves }
  { relays :=
      [{ name := "stdout", link := (run.stdout, []), patience },
        { name := "stderr", link := (run.stderr, []), patience }]
    refusal := o.refusal }

/-- Relays the output of a worker to its end. -/
def relayOutput (o : Orchestrator) (run : WorkerRun) : Orchestration Unit := modify fun s =>
  let stopped := s.relays.serve Pipe.link (o.shift run s.relays)
  let taken (place : Nat) : String :=
    ((stopped.tasks[place]?).map fun t => t.pump.link.2.shown).getD ""
  let out := s.relays.tasks.length
  { s with
    relays := stopped.pool
    world := ((s.world.print (taken out)).printError (taken (out + 1))).noteAll stopped.notes }

/-- Starts a worker. -/
def startWorker (o : Orchestrator) (c : WorkerCommand) : Orchestration WorkerRun := fun s =>
  let (run, disk) := o.workers.run c s.world.disk
  (run, { s with world := { s.world with disk } })

/-- Runs a worker, relays what it writes and waits for its end. -/
def supervise (o : Orchestrator) (suite : String) (c : WorkerCommand) :
    Orchestration (Except WorkerTrouble ExitStatus) := do
  note ⟨.information, "launching " ++ shownCommand c, [("suite", .text suite)]⟩
  let run ← startWorker o c
  match run.outcome with
  | .error (.notSpawned e) => return .error (.notSpawned e)
  | .error (.notWired reason) => return .error (.notWired reason)
  | .error (.notAwaited e) => do
    relayOutput o run
    return .error (.notAwaited e)
  | .ok status => do
    relayOutput o run
    note ⟨.detail, "worker exited", [("suite", .text suite), ("status", .text status.text)]⟩
    return .ok status

/-- The entry of a suite whose worker ended. -/
def endedOutcome (suite : String) (window : Window Float) (status : ExitStatus) : SuiteOutcome :=
  if status.isSuccess then { suite, window, status := .completed, exitCode := status.code? }
  else
    { suite, window, status := .failed, exitCode := status.code?
      message := some ("Worker for suite '" ++ suite ++ "' failed: " ++ status.text) }

/-- The entry of a suite whose worker was of no use. -/
def troubledOutcome (suite : String) (window : Window Float) (message : String) : SuiteOutcome :=
  { suite, window, status := .launchFailed, message := some message }

/-- The program of a worker. -/
def program (o : Orchestrator) (disk : Disk) : Except IoFailure String :=
  match o.dispatch.executable with
  | some path => .ok path
  | none => o.workers.self disk

/-- Runs a suite in a worker. -/
def runIsolated (o : Orchestrator) (suite : String) (window : Window Float) (outputRoot : String) :
    Orchestration SuiteOutcome := do
  let noteOn (message : String) : Orchestration Unit :=
    note ⟨.error, message, [("suite", .text suite)]⟩
  match o.program (← get).world.disk with
  | .error e => do
    let message := (WorkerTrouble.notSpawned e).message
    noteOn ("cannot build worker command: " ++ message)
    return troubledOutcome suite window message
  | .ok path =>
    match ← supervise o suite (WorkerCommand.new o.dispatch path suite window outputRoot) with
    | .error e => do
      noteOn ("worker setup failed, killing: " ++ e.message)
      return troubledOutcome suite window e.message
    | .ok status => do
      let outcome := endedOutcome suite window status
      outcome.message.forM noteOn
      return outcome

/-- The entry of a suite that ran in this process. -/
def launchedOutcome (suite : String) (window : Window Float) (results : List (LaunchResult Float)) :
    SuiteOutcome :=
  match results with
  | { outcome := .error e, .. } :: _ => { suite, window, status := .failed, message := some e.text }
  | _ => { suite, window, status := .completed }

/-- Runs a suite in this process. -/
def runHere (o : Orchestrator) (suite : String) (window : Window Float) (outputRoot : String)
    (clock : Clock) : Crashing SuiteOutcome := fun s =>
  let env : Environment := ⟨outputRoot, o.dispatch.properties⟩
  match Launch.run o.registry env (fun _ => clock) window [suite] s.world with
  | (.ok results, world) => (.ok (launchedOutcome suite window results), { s with world })
  | (.error c, world) => (.error c, { s with world })

/-- Runs a suite in the way of the dispatch. -/
def runSuite (o : Orchestrator) (suite : String) (window : Window Float) (outputRoot : String)
    (clock : Clock) : Crashing SuiteOutcome :=
  if o.dispatch.isolated then runIsolated o suite window outputRoot
  else runHere o suite window outputRoot clock

/-- Changes the bar. -/
def showProgress (f : ProgressBar → ProgressBar) : Crashing Unit :=
  modify fun s => { s with bar := f s.bar }

/-- Runs suites in order from the one at a place, with the progress before it. -/
def runFrom (o : Orchestrator) (outputRoot : String) (times : BatchTimes) :
    Nat → Float → List (String × Window Float) → Crashing (List SuiteOutcome)
  | _, _, [] => pure []
  | place, before, (suite, window) :: rest => do
    showProgress fun b => { b with message := suite }
    let outcome ← runSuite o suite window outputRoot (times.clocks place)
    let after := before + window.size
    showProgress (·.moveTo after.round.toUInt64.toNat)
    let outcomes ← runFrom o outputRoot times (place + 1) after rest
    return { outcome with elapsed := times.elapsed place } :: outcomes

/-- Writes the report of a batch; that it cannot be written is noted. -/
def writeReport (report : BatchReport) (finished : Moment) : Orchestration BatchReport := fun s =>
  let (report, write) := Access.finishReport report finished
  let (answer, world) := s.world.access write
  let event : Event := match answer with
    | .ok path => ⟨.detail, "batch report written", [("path", .text path)]⟩
    | .error e => ⟨.warning, "failed to write batch report: " ++ (RecordFailure.io e).message, []⟩
  (report, { s with world := world.note event })

/-- Runs a batch that writes below an output root. -/
def runBatch (o : Orchestrator) (suites : List String) (outputRoot : String) (times : BatchTimes) :
    Crashing BatchReport := do
  change (·.print ("Output directory: " ++ outputRoot ++ "\n"))
  let host := (← get).world.host
  showProgress (·.moveTo 0)
  let outcomes ← runFrom o outputRoot times 0 0.0 (suites.zip (Window.full.split suites.length))
  showProgress fun b => { b.moveTo 100 with message := "done" }
  let report ← writeReport
    { started := times.started, outputRoot, isolated := o.dispatch.isolated, host
      suites := outcomes } times.finished
  change (·.print ("Results written to " ++ outputRoot ++ "\n"))
  return report

end Orchestrator

end Microbench
