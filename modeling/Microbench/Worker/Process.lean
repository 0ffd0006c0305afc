import Microbench.Disk
import Microbench.Relay.Pipe
import Microbench.Worker.Command

/-!
# Worker processes

What a batch learns of a worker: that it could not be made to run, or how it ended and what it
wrote. Which programs there are and what they do is up to `Workers`.
-/

namespace Microbench

/-- How a process ended, as another one sees it. -/
inductive ExitStatus where
  | exited (code : Int)
  | signalled (number : Nat)
  deriving DecidableEq, Repr

namespace ExitStatus

/-- Whether the process ended well. -/
def isSuccess (s : ExitStatus) : Bool := s == exited 0

/-- The code that the process ended with, if it did so of its own accord. -/
def code? : ExitStatus → Option Int
  | exited code => some code
  | signalled _ => none

/-- The name of a signal. -/
def signalName (number : Nat) : String :=
  match [(6, "SIGABRT"), (9, "SIGKILL"), (11, "SIGSEGV"), (15, "SIGTERM")].lookup number with
  | some name => " (" ++ name ++ ")"
  | none => ""

/-- The status for a reader. -/
def text : ExitStatus → String
  | exited code => "exit status: " ++ Decimal.signedText code
  | signalled number => "signal: " ++ Decimal.text number ++ signalName number

end ExitStatus

/-- Why a worker was of no use. -/
inductive WorkerTrouble where
  /-- It could not be started. -/
  | notSpawned (e : IoFailure)
  /-- Its output could not be read. -/
  | notWired (reason : String)
  /-- Its end could not be learned. -/
  | notAwaited (e : IoFailure)
  deriving DecidableEq, Repr

/-- The text of the trouble. -/
def WorkerTrouble.message : WorkerTrouble → String
  | notSpawned e => "Failed to spawn worker: " ++ e.message
  | notWired reason => "Relay error: " ++ reason
  | notAwaited e => "Failed to spawn worker: " ++ e.message

/-- What became of a command. -/
structure WorkerRun where
  outcome : Except WorkerTrouble ExitStatus
  stdout : Pipe := { isOpen := false }
  stderr : Pipe := { isOpen := false }

/-- A worker that never ran. -/
def WorkerRun.notSpawned (e : IoFailure) : WorkerRun := { outcome := .error (.notSpawned e) }

/-- A worker that ended after it had written two texts. -/
def WorkerRun.ended (status : ExitStatus) (stdout stderr : String) : WorkerRun where
  outcome := .ok status
  stdout := { held := Bytes.ofText stdout, isOpen := false }
  stderr := { held := Bytes.ofText stderr, isOpen := false }

/-- What can be started. -/
structure Workers where
  /-- The path of the running program, as far as it can be told from a disk. -/
  self : Disk → Except IoFailure String
  run : WorkerCommand → Disk → WorkerRun × Disk

/-- A program: what becomes of it when it is started with arguments. -/
abbrev Program := List String → Disk → WorkerRun × Disk

/-- Workers that are started from programs by their paths. A file that is no program and a directory
cannot be started, nor can what is not there. -/
def Workers.ofPrograms (self : String) (programs : List (String × Program)) : Workers where
  self _ := .ok self
  run c disk :=
    match programs.lookup c.program with
    | some program => program c.arguments disk
    | none =>
      let e : SystemError := if disk.holds c.program then .accessDenied else .noEntry
      (.notSpawned (.system e), disk)

end Microbench
