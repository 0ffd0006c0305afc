import Microbench.Properties
import Microbench.Properties.Pair
import Microbench.Worker.Assignment

/-!
# Worker commands

How a batch is dispatched, and the command that starts a worker for one of its suites: the
properties one by one, then the other options, the assignment last.
-/

namespace Microbench

/-- How the suites of a batch are dispatched. -/
structure Dispatch where
  /-- Whether every suite has a process of its own. -/
  isolated : Bool := true
  /-- The address space of a worker in MiB; zero for any. -/
  memoryLimit : Nat := 1024
  /-- Nanoseconds that output may still arrive after a worker has ended. -/
  relayGrace : Nat := 2000000000
  properties : Properties := .empty
  verbose : Bool := false
  /-- The program of the workers; the running program if there is none. -/
  executable : Option String := none

/-- A program and its arguments. -/
structure WorkerCommand where
  program : String
  arguments : List String
  deriving DecidableEq, Repr

namespace WorkerCommand

/-- The option that makes a process a worker. -/
def workerFlag : String := "--suite-worker"

/-- The arguments for the properties. -/
def propertyArguments (p : Properties) : List String :=
  p.entries.flatMap fun (key, value) => ["-D", PropertyPair.write key value]

/-- The arguments for the way of dispatch. -/
def optionArguments (d : Dispatch) : List String :=
  propertyArguments d.properties ++ (if d.verbose then ["--verbose"] else []) ++
    ["--memory-limit-mb", Decimal.text d.memoryLimit]

/-- The command for a suite. -/
def new (d : Dispatch) (program : String) (suite : String) (window : Window Float)
    (outputRoot : String) : WorkerCommand where
  program := program
  arguments :=
    optionArguments d ++ workerFlag :: Assignment.toArguments ⟨outputRoot, window, [suite]⟩

end WorkerCommand

end Microbench
