import Microbench.Disk
import Microbench.Host
import Microbench.Journal
import Microbench.Observation

/-!
# The world of a process

All that code can read and change outside its own state: the disk, what it printed, what the
program noted about its work, and the machine.
-/

namespace Microbench

/-- What lies outside the state of a suite. -/
structure World where
  disk : Disk := {}
  stdout : String := ""
  stderr : String := ""
  journal : Journal := #[]
  /-- What suites that watch themselves saw. -/
  observations : Array Observation := #[]
  host : Host := {}

namespace World

/-- Notes an event. -/
def note (w : World) (e : Event) : World := { w with journal := w.journal.push e }

/-- Notes events in order. -/
def noteAll (w : World) (es : List Event) : World := es.foldl note w

/-- Prints a text. -/
def print (w : World) (s : String) : World := { w with stdout := w.stdout ++ s }

/-- Prints a text where errors go. -/
def printError (w : World) (s : String) : World := { w with stderr := w.stderr ++ s }

/-- Notes what a suite saw. -/
def observe (w : World) (o : Observation) : World :=
  { w with observations := w.observations.push o }

/-- Works on the disk. -/
def access {α : Type} (x : Access α) (w : World) : Except IoFailure α × World :=
  let (answer, disk) := x.run w.disk
  (answer, { w with disk })

end World

end Microbench
