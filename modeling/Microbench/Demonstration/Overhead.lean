import Microbench.Registry
import Microbench.Text.Quoted

/-!
# The cost of measuring

Two operations that do next to nothing, each in a run as measured and in a run from which a known
offset is taken off. A measured run is printed, not recorded.
-/

namespace Microbench.Demonstration.Overhead

/-- What the suite remembers. -/
structure State where
  /-- Nanoseconds to take off each batch. -/
  offset : Int := 0
  value : UInt64 := 0

/-- The property that holds the offset. -/
def offsetKey : String := "overhead.offset_ns"

/-- Reads the offset. -/
def setUp {κ : Type} : Code κ State Unit := do
  match (← CodeWith.context).properties.get? offsetKey with
  | none => modify fun s => { s with state := { s.state with offset := 0 } }
  | some raw =>
    match Decimal.readSigned leastSigned greatestSigned raw with
    | some offset => modify fun s => { s with state := { s.state with offset } }
    | none => throw (.failure (.message ("invalid " ++ offsetKey ++ " " ++ Text.quoted raw)))

/-- The line on a measured run. -/
def line {κ : Type} [Arithmetic κ] (progress : κ) (run : Run) : String :=
  "[" ++ shownProgress progress ++ "] " ++ run.name ++ ": " ++ Decimal.signedText run.average ++
    " ns/call (sd " ++ Decimal.fixed 3 run.deviation ++ ", total " ++
    Decimal.signedText run.duration ++ " ns)\n"

/-- The suite. The offset is taken off as a signed word. -/
def suite {κ : Type} [Arithmetic κ] : Suite κ State where
  setUp := setUp
  operations := return [
    ⟨"empty", pure ()⟩,
    ⟨"black_box", modify fun (s, w) => ({ s with value := s.value ^^^ 0x5bd1e995 }, w)⟩]
  groupStarts group := do
    let offset := (← get).state.offset
    return [Run.named (group ++ "-raw"),
      (Run.named (group ++ "-compensated")).scaled 1.0 (wrapSigned (-offset))]
  runEnds run := do
    let progress := (← CodeWith.context).progress
    CodeWith.change (·.print (line progress run))

/-- The suite in the registry. -/
def definition {κ : Type} [Arithmetic κ] : Definition κ where
  id := "overhead"
  description := some "Empty operations with a time-scaled run"
  make env := .ok (.new "overhead" suite {} env)

end Microbench.Demonstration.Overhead
