import Microbench.Batch.Orchestrator
import Microbench.CommandLine.Reader
import Microbench.Duration.Reading
import Microbench.Pattern.Reader
import Microbench.Plan
import Microbench.Settings.Discovery
import Microbench.Settings.Engine
import Microbench.Settings.OutputRoot

/-!
# Carrying out command lines

`CommandLine.run` does what a command line asks for: it runs as a worker, lists the suites, writes a
settings file, or plans and runs a batch. Nothing is created and no suite starts before the whole
plan has been checked.
-/

namespace Microbench

/-- What the program finds around it, apart from the world. -/
structure Surroundings where
  definitions : List (Definition Float)
  workers : Workers
  temporary : TemporaryDirectories := {}
  /-- The time of day at which it was started. -/
  clock : ClockReading
  times : BatchTimes

/-- Why a command line could not be carried out. -/
inductive RunError where
  | badAssignment (e : AssignmentError)
  /-- Suites of a worker that came to no end, with their errors. -/
  | aborted (suites : List (String × BenchError))
  | badFilter
  | settingsExist (path : String)
  | cannotWrite (path : String) (e : IoFailure)
  | badPlan (e : PlanError)
  | badDelay (text : String) (e : DurationError)
  | unevenDelay (text : String)
  | badGrace (e : DurationError)
  | cannotCreate (path : String) (e : IoFailure)
  | incomplete (failed total : Nat)

namespace RunError

/-- The texts of the error and its causes. -/
def chain : RunError → List String
  | badAssignment e => [e.message]
  | aborted suites =>
    ["suite aborted: " ++ String.intercalate "; " (suites.map fun (id, e) => id ++ ": " ++ e.text)]
  | badFilter => ["invalid --filter pattern", "not a regular expression"]
  | settingsExist path => [path ++ " already exists (use --force to replace it)"]
  | cannotWrite path e => ["cannot write " ++ path, e.message]
  | badPlan e => [e.message]
  | badDelay text e => ["invalid warm-up delay " ++ Text.quoted text, e.message]
  | unevenDelay text =>
    ["warm-up delay " ++ Text.quoted text ++ " is not a whole number of milliseconds"]
  | badGrace e => ["invalid runner.relay_grace", e.message]
  | cannotCreate path e => ["cannot create " ++ path, e.message]
  | incomplete failed total =>
    [Decimal.text failed ++ " of " ++ Decimal.text total ++ " suite(s) did not complete"]

/-- What is printed of the error when it ends the program. -/
def report (e : RunError) : String :=
  match e.chain with
  | [] => "Error: \n"
  | [text] => "Error: " ++ text ++ "\n"
  | text :: causes =>
    "Error: " ++ text ++ "\n\nCaused by:\n" ++
      String.join (causes.map fun cause => "    " ++ cause ++ "\n")

end RunError

/-- How a command line ends that was not carried out. -/
inductive RunStop where
  | failure (e : RunError)
  | crash (c : Crash)

namespace CommandLine

/-- The work of the program. -/
abbrev Running := ExceptT RunStop (StateM World)

/-- Ends the work with an error. -/
def fail {α : Type} (e : RunError) : Running α := throw (.failure e)

/-- The answer, or the end of the work. -/
def orFail {ε α : Type} (f : ε → RunError) : Except ε α → Running α
  | .ok a => pure a
  | .error e => fail (f e)

/-- Prints a text. -/
def print (s : String) : Running Unit := modify (·.print s)

/-- Works on the disk. -/
def access {α : Type} (x : Access α) : Running (Except IoFailure α) := fun w =>
  let (answer, w) := w.access x
  (.ok answer, w)

/-- What became of work on the disk. -/
def accessing {α : Type} (f : IoFailure → RunError) (x : Access α) : Running α := do
  orFail f (← access x)

/-! ## Workers -/

/-- The suites that came to no end, with their errors. -/
def abortedOf (results : List (LaunchResult Float)) : List (String × BenchError) :=
  results.filterMap fun r =>
    match r.outcome with
    | .ok _ => none
    | .error e => some (r.suite, e)

/-- Launches the suites of an assignment. -/
def launch (registry : Registry Float) (clocks : Launch.Clocks) (p : Properties) (a : Assignment) :
    Running (List (LaunchResult Float)) := fun w =>
  match Launch.run registry ⟨a.outputDirectory, p⟩ clocks a.window a.suites w with
  | (.ok results, w) => (.ok results, w)
  | (.error c, w) => (.error (.crash c), w)

/-- Runs as a worker. -/
def runWorker (s : Surroundings) (c : CommandLine) (arguments : List String) : Running Unit := do
  let a ← orFail .badAssignment (Assignment.ofArguments arguments)
  let (registry, notes) := Registry.ofDefinitions s.definitions
  modify (·.noteAll notes)
  let results ← launch registry s.times.clocks (.ofList c.properties) a
  match abortedOf results with
  | [] => pure ()
  | suites => fail (.aborted suites)

/-! ## Lists and settings files -/

/-- The lines on a suite. -/
def suiteLines (d : Definition Float) : String :=
  let about := match d.description with
    | some text => " - " ++ text
    | none => ""
  "├── " ++ d.id ++ about ++ "\n" ++
    if d.requires.isEmpty then "" else "│   requires: " ++ commaSeparated d.requires ++ "\n"

/-- Lists the selected suites. -/
def listSuites (registry : Registry Float) (selects : String → Bool) : Running Unit := do
  let chosen := registry.definitions.filter fun d => selects d.id
  print "isobench suites:\n"
  print (String.join (chosen.map suiteLines))
  print (Decimal.text chosen.length ++ " suites found.\n")

/-- Writes a settings file to the current directory; an existing one only by force. -/
def writeSettings (force : Bool) : Running Unit := do
  let disk := (← get).disk
  let path := Path.join (Path.ofNames true disk.here) SettingsFile.fileName
  if disk.holds path && !force then fail (.settingsExist path)
  accessing (.cannotWrite path) (Access.writeFile path (Bytes.ofText SettingsFile.template))
  print ("Wrote " ++ path ++ "\n")

/-! ## Batches -/

/-- The engine's knobs as the command line and the settings file have them. -/
def engineSettings (c : CommandLine) (f : SettingsFile) : Except RunError EngineSettings :=
  let text := c.warmupDelay.getD f.engine.warmupDelay
  match Duration.read text with
  | .error e => .error (.badDelay text e)
  | .ok delay =>
    if delay % 1000000 = 0 then
      .ok ⟨c.calls.getD f.engine.calls, c.repetitions.getD f.engine.repetitions, delay⟩
    else .error (.unevenDelay text)

/-- The properties of the suites: those of the file, then the knobs, then those of the line. -/
def suiteProperties (c : CommandLine) (f : SettingsFile) (s : EngineSettings) : Properties :=
  (f.propertyMap.insertAll s.entries).insertAll c.properties

/-- A batch that was checked. -/
structure Prepared where
  suites : List String
  settings : EngineSettings
  properties : Properties
  /-- Nanoseconds. -/
  relayGrace : Nat

/-- Plans a batch and checks all of it; none if there is no suite to run. -/
def prepare (registry : Registry Float) (c : CommandLine) (f : SettingsFile)
    (selects : String → Bool) : Except RunError (Option Prepared) :=
  match Plan.make registry c.suites selects with
  | .error e => .error (.badPlan e)
  | .ok plan =>
    if plan.suites.isEmpty then .ok none
    else do
      let settings ← engineSettings c f
      let properties := suiteProperties c f settings
      (plan.check properties).mapError RunError.badPlan
      let relayGrace ← (Duration.read f.runner.relayGrace).mapError RunError.badGrace
      return some { suites := plan.ids, settings, properties, relayGrace }

/-- How the suites of a prepared batch are dispatched. -/
def dispatchOf (c : CommandLine) (f : SettingsFile) (p : Prepared) : Dispatch where
  isolated := !c.inProcess && f.runner.isolation == .process
  memoryLimit := c.memoryLimit.getD f.runner.memoryLimit
  relayGrace := p.relayGrace
  properties := p.properties
  verbose := c.verbose

/-- Makes the directory for the results and finds its full path. -/
def makeOutputRoot (path : String) : Running String := do
  accessing (.cannotCreate path) (Access.makeDirectories path)
  return ((← get).disk.canonical? path).getD path

/-- Runs a batch. -/
def orchestrate (o : Orchestrator) (suites : List String) (outputRoot : String) (times : BatchTimes) :
    Running BatchReport := fun w =>
  match (o.runBatch suites outputRoot times).run (Orchestrator.start w) with
  | (.ok report, stage) => (.ok report, stage.world)
  | (.error c, stage) => (.error (.crash c), stage.world)

/-- Runs a prepared batch. -/
def runPrepared (s : Surroundings) (registry : Registry Float) (c : CommandLine) (f : SettingsFile)
    (p : Prepared) : Running Unit := do
  let dispatch := dispatchOf c f p
  let root ← makeOutputRoot (OutputRoot.resolve c.output f.output s.temporary s.clock)
  print ("Running " ++ Decimal.text p.suites.length ++ " suite(s)" ++
    (if dispatch.isolated then " (isolated)" else " (in-process)") ++ "...\n")
  modify (·.note ⟨.detail, "engine settings", [("settings", .text p.settings.shown)]⟩)
  let report ← orchestrate { dispatch, registry, workers := s.workers } p.suites root s.times
  if 0 < report.failedCount then fail (.incomplete report.failedCount report.suites.length)

/-- Finds the settings; what is wrong with their file is printed. -/
def findSettings : Running SettingsFile := fun w =>
  let (found, disk) := Discovery.fromHere.run w.disk
  let w := { w with disk }
  (.ok (found.settings?.getD {}), (found.warning?.map w.printError).getD w)

/-- Plans and runs a batch with the settings of a file. -/
def runPlanned (s : Surroundings) (registry : Registry Float) (c : CommandLine) (f : SettingsFile)
    (selects : String → Bool) : Running Unit :=
  match prepare registry c f selects with
  | .error e => fail e
  | .ok none => print "No suites found.\n"
  | .ok (some p) => runPrepared s registry c f p

/-- Plans and runs a batch with the settings that are found. -/
def runSuites (s : Surroundings) (registry : Registry Float) (c : CommandLine)
    (selects : String → Bool) : Running Unit := do
  let f ← findSettings
  runPlanned s registry c f selects

/-! ## The program -/

/-- The suites that a filter selects; all without one. -/
def selection (filter : Option String) : Except RunError (String → Bool) :=
  match filter with
  | none => .ok fun _ => true
  | some text =>
    match Pattern.read? text with
    | some p => .ok p.finds
    | none => .error .badFilter

/-- Does what a command line asks for. -/
def run (s : Surroundings) (c : CommandLine) : Running Unit :=
  match c.worker with
  | some arguments => runWorker s c arguments
  | none => do
    let (registry, notes) := Registry.ofDefinitions s.definitions
    modify (·.noteAll notes)
    let selects ← orFail (fun e => e) (selection c.filter)
    match c.command with
    | some .list => listSuites registry selects
    | some (.init force) => writeSettings force
    | none => runSuites s registry c selects

end CommandLine

end Microbench
