import Microbench.Registry
import Microbench.Text.Quoted
import Microbench.Text.Split

/-!
# Operations on collections

Insertion into hash maps, ordered maps and growing arrays and look-up in hash maps, one run for each
size. What a call leaves in its collection is never read, so of a collection only its size is kept
and of a call only the key that it uses.
-/

namespace Microbench.Demonstration.Collections

/-- What the suite remembers. -/
structure State where
  /-- The sizes to try. -/
  sizes : List Nat := []
  /-- The sizes of the runs of the group. -/
  runSizes : List (String × Nat) := []
  /-- The size of the run. -/
  size : Nat := 0
  /-- The key used last. -/
  cursor : Nat := 0

/-- The property that lists the sizes. -/
def sizesKey : String := "collections.sizes"

/-- The sizes without the property. -/
def defaultSizes : List Nat := [16, 256, 4096]

/-- One entry of the list. -/
def size? (entry : String) : Except BenchError Nat :=
  match Decimal.readUnsigned greatestWord entry with
  | some (n + 1) => .ok (n + 1)
  | _ => .error (.message ("invalid " ++ sizesKey ++ " entry " ++ Text.quoted entry))

/-- The sizes that a text lists; empty entries do not count. -/
def readSizes (s : String) : Except BenchError (List Nat) :=
  (((Text.cutText ',' s).map Text.trim).filter (!·.isEmpty)).mapM size?

/-- Reads the sizes. -/
def setUp {κ : Type} : Code κ State Unit := do
  let sizes := match (← CodeWith.context).properties.get? sizesKey with
    | some s => readSizes s
    | none => .ok defaultSizes
  match sizes with
  | .ok [] => throw (.failure (.message (sizesKey ++ " names no size")))
  | .ok sizes => modify fun s => { s with state := { s.state with sizes } }
  | .error e => throw (.failure e)

/-- An operation that uses the next key. -/
def operation (name : String) : Operation State where
  name := name
  call := modify fun (s, w) => ({ s with cursor := (s.cursor + 1) % max s.size 1 }, w)

/-- The runs of a group, one for each size. -/
def determineRuns {κ : Type} (group : String) : Code κ State (List Run) := do
  let runSizes := (← get).state.sizes.map fun n => (group ++ "-" ++ Decimal.text n, n)
  modify fun s => { s with state := { s.state with runSizes } }
  return runSizes.map fun (name, _) => Run.named name

/-- Fills the collections for a repetition. -/
def prepare {κ : Type} (run : Run) : Code κ State Unit := do
  match (← get).state.runSizes.lookup run.name with
  | none => throw (.failure (.message ("no size for run " ++ run.name)))
  | some size => modify fun s => { s with state := { s.state with size, cursor := 0 } }

/-- The suite. -/
def suite {κ : Type} : RecordedSuite κ State where
  title _ := .ok (some "Collections")
  setUp := setUp
  operations :=
    return ["hashmap_insert", "hashmap_lookup", "btreemap_insert", "vec_push"].map operation
  determineRuns := determineRuns
  repetitionStarts run _ := prepare run

/-- The suite in the registry. -/
def definition {κ : Type} [Arithmetic κ] : Definition κ where
  id := "collections"
  description := some "HashMap, BTreeMap and Vec operations per container size"
  make env := .ok (.recorded "collections" suite {} env)

end Microbench.Demonstration.Collections
