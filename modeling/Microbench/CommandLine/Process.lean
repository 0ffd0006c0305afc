import Microbench.CommandLine.Run

/-!
# The program as a process

What becomes of the program when it is started with arguments: what it writes and how it ends. Its
own workers are processes of the same program, one level down; a worker starts no further ones.

A process that is killed takes with it what it printed on the line that it had begun.
-/

namespace Microbench

namespace CommandLine

/-- The name of a program with a path. -/
def programName (path : String) : String := ((Path.names path).getLast?).getD path

/-- The whole lines of a text. -/
def wholeLines (s : String) : String :=
  String.ofList ((s.toList.reverse.dropWhile (· != '\n')).reverse)

/-- How a process ends that had a crash. -/
def crashStatus : Crash → ExitStatus
  | .panic _ => .exited 101
  | .halt (.exited code) => .exited (code % 256)
  | .halt .killed => .signalled 9
  | .halt .aborted => .signalled 6

/-- Whether a process writes all that it printed before it ends. -/
def writesAll : Crash → Bool
  | .halt .killed => false
  | .halt .aborted => false
  | _ => true

/-- What another process sees of one that came to an end in a world. -/
def ending (answer : Except RunStop Unit) (w : World) : WorkerRun :=
  match answer with
  | .ok () => .ended (.exited 0) w.stdout w.stderr
  | .error (.failure e) => .ended (.exited 1) w.stdout (w.stderr ++ e.report)
  | .error (.crash c) =>
    .ended (crashStatus c) (if writesAll c then w.stdout else wholeLines w.stdout) w.stderr

/-- The text for one who asks for help. -/
def helpText (name : String) : String :=
  name ++ " - process-isolated micro-benchmark suites\n\n" ++ UsageError.usage name [] ++ "\n"

/-- The program with a path, started with arguments. -/
def process (s : Surroundings) (host : Host) (path : String) : Program := fun arguments disk =>
  match ofArguments arguments with
  | .error .help => (.ended (.exited 0) (helpText (programName path)) "", disk)
  | .error .version => (.ended (.exited 0) (programName path ++ " 0.1.0\n") "", disk)
  | .error e => (.ended (.exited 2) "" (e.report (programName path)), disk)
  | .ok c =>
    let (answer, w) := (run s c).run { disk, host }
    (ending answer w, w.disk)

end CommandLine

/-- The surroundings of a program with a path, whose workers are processes of the same program. Other
programs may be started too. -/
def Surroundings.withWorkers (s : Surroundings) (host : Host) (path : String)
    (others : List (String × Program)) : Surroundings :=
  let worker := { s with workers := .ofPrograms path others }
  { s with workers := .ofPrograms path ((path, CommandLine.process worker host path) :: others) }

end Microbench
