import Microbench.Decimal.Reading
import Microbench.Journal
import Microbench.Knobs
import Microbench.Path
import Microbench.Properties
import Microbench.Run
import Microbench.Settings.Engine
import Microbench.Window

/-!
# The context of a suite

What a suite sees of its own execution: where it writes, its properties, the engine's knobs, the
run being measured and those of its group that were measured before, and overall progress. The
knobs start from the properties reserved for them; a text there that is no number is passed over.
-/

namespace Microbench

/-- What every suite of a batch is given. -/
structure Environment where
  outputRoot : String
  properties : Properties := .empty

/-- A reserved property as a number, and the note on a text that is none. -/
def reservedNumber (p : Properties) (key : String) : Option Nat × List Event :=
  match p.get? key with
  | none => (none, [])
  | some raw =>
    match Decimal.readUnsigned greatestWord (Text.trim raw) with
    | some n => (some n, [])
    | none =>
      (none, [⟨.warning, "ignoring unparsable engine property",
        [("key", .text key), ("value", .text raw)]⟩])

namespace Knobs

/-- The note on a zero that was refused. -/
def refusal (suite what : String) : Event :=
  ⟨.warning, "ignoring non-positive " ++ what, [("suite", .text suite)]⟩

/-- Sets the calls per batch; a zero is noted and refused. -/
def offerCalls (suite : String) (k : Knobs) (calls : Nat) : Knobs × List Event :=
  (k.withCalls calls, if calls = 0 then [refusal suite "calls per repetition"] else [])

/-- Sets the batches per run; a zero is noted and refused. -/
def offerRepetitions (suite : String) (k : Knobs) (repetitions : Nat) : Knobs × List Event :=
  (k.withRepetitions repetitions,
    if repetitions = 0 then [refusal suite "repetitions per run"] else [])

/-- The knobs after an offer, if there was one, and what was refused. -/
def offered (offer : Knobs → Nat → Knobs × List Event) (k : Knobs) :
    Option Nat → Knobs × List Event
  | some n => offer k n
  | none => (k, [])

/-- The knobs that a suite starts with, and what was refused. -/
def ofProperties (suite : String) (p : Properties) : Knobs × List Event :=
  let calls := reservedNumber p callsKey
  let first := offered (offerCalls suite) default calls.1
  let repetitions := reservedNumber p repetitionsKey
  let second := offered (offerRepetitions suite) first.1 repetitions.1
  let delay := reservedNumber p delayKey
  ((delay.1.map fun ms => second.1.withDelay (ms * 1000000)).getD second.1,
    calls.2 ++ first.2 ++ repetitions.2 ++ second.2 ++ delay.2)

end Knobs

/-- What a suite sees of its own execution. -/
structure Context (κ : Type) where
  suite : String
  outputDirectory : String
  properties : Properties
  knobs : Knobs
  /-- The run whose repetitions are being measured. -/
  current : Option Run := none
  /-- The runs of the group that were measured, in order. -/
  terminated : List Run := []
  /-- Overall progress in percent. -/
  progress : κ
  /-- The values that progress had before, the latest first. -/
  passed : List κ := []

namespace Context

variable {κ : Type}

/-- The context of a suite that has not started, and the notes on its reserved properties. -/
def start [Arithmetic κ] (suite : String) (env : Environment) : Context κ × List Event :=
  let (knobs, notes) := Knobs.ofProperties suite env.properties
  ({ suite
     outputDirectory := Path.join env.outputRoot suite
     properties := env.properties
     knobs
     progress := ((0 : Nat) : κ) }, notes)

/-- The context with progress at another value. -/
def advance (c : Context κ) (progress : κ) : Context κ :=
  { c with progress, passed := c.progress :: c.passed }

end Context

end Microbench
