import Microbench.CommandLine.Process
import Microbench.Demonstration
import Std.Time.DateTime.Timestamp

/-!
# The program

The program looks at the parts of the file system that it may read, is carried out on a copy of
them, and puts what changed in its place. The suites are the demonstrations. Carrying out one of
their operations is no work for the machine, so a batch is given the time between two readings of
the clock.
-/

namespace Microbench

/-- The machine, by the lines on its processors and the line on its load. -/
def Host.ofReports (processors load : String) : Host where
  processors :=
    max 1 ((Text.cutText '\n' processors).filter (·.startsWith "processor")).length
  load := ((Text.cutText ' ' load).head?.bind Decimal.readFloat).getD 0.0

namespace Main

/-- Takes a place over from the file system, with the directories above it. -/
def lookAt (d : Disk) (place : List String) : IO Disk := do
  let mut d := d
  for n in [0:place.length] do
    let upper := place.take (n + 1)
    let path := Path.ofNames true upper
    if (d.node? upper).isNone then
      try
        let content ← IO.FS.readBinFile path
        d := d.put upper (.file content.toList)
      catch e =>
        if let .inappropriateType .. := e then d := d.put upper .directory
  return d

/-- Puts a change in its place. -/
def carryOver (place : List String) (node : Node) : IO Unit :=
  let path := Path.ofNames true place
  match node with
  | .directory => IO.FS.createDirAll path
  | .file content => IO.FS.writeBinFile path ⟨content.toArray⟩

/-- The content of a file, empty if it cannot be read. -/
def textOf (path : String) : IO String := do
  try IO.FS.readFile path catch _ => return ""

/-- The moment now. -/
def now : IO Moment := do
  return .ofNanoseconds (← Std.Time.Timestamp.now).toNanosecondsSinceUnixEpoch.val

/-- Times between readings of the clock, none of them zero. -/
def intervals (count : Nat) : IO (Array Nat) := do
  let mut times := #[]
  for _ in [0:count] do
    let start ← IO.monoNanosNow
    times := times.push (max 1 ((← IO.monoNanosNow) - start))
  return times

/-- Prints what a process wrote and answers the status that it ends with. -/
def finish (run : WorkerRun) : IO UInt32 := do
  IO.print (Bytes.shown run.stdout.held)
  IO.eprint (Bytes.shown run.stderr.held)
  match run.outcome with
  | .ok (.exited code) => return UInt32.ofNat (code % 256).toNat
  | .ok (.signalled number) => return UInt32.ofNat (128 + number)
  | .error _ => return 1

end Main

end Microbench

open Microbench in
/-- Runs the demonstrations as the arguments ask for. -/
def main (arguments : List String) : IO UInt32 := do
  let here := Path.names (toString (← IO.currentDir))
  let path := toString (← IO.appPath)
  let temporary : TemporaryDirectories :=
    ⟨← IO.getEnv "TEMP", ← IO.getEnv "TMP", ← IO.getEnv "TMPDIR"⟩
  let started ← Main.now
  let times ← Main.intervals 64
  let host := Host.ofReports (← Main.textOf "/proc/cpuinfo") (← Main.textOf "/proc/loadavg")
  let settingsPlaces := (List.range (here.length + 1)).map fun n =>
    here.take n ++ [SettingsFile.fileName]
  let output := match CommandLine.ofArguments arguments with
    | .ok { output := some path, .. } => Path.join (Path.ofNames true here) path
    | _ => OutputRoot.default temporary
  let mut before : Disk := { here }
  for place in here :: Path.names output :: settingsPlaces do
    before ← Main.lookAt before place
  let clock : Clock := fun place => times.getD (place.repetition % times.size) 1
  let around : Surroundings := Surroundings.withWorkers
    { definitions := Demonstration.definitions
      workers := .ofPrograms path []
      temporary
      clock := started.reading
      times := { started, finished := started, clocks := fun _ => clock } }
    host path []
  let (run, after) := CommandLine.process around host path arguments before
  for (place, node) in after.changesSince before do
    Main.carryOver place node
  Main.finish run
