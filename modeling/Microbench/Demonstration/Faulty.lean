import Microbench.Registry

/-!
# Groups that fail

One group that counts its calls and three that fail: by a panic once anything was counted, by an
error, and by ending the process when a property asks for it.
-/

namespace Microbench.Demonstration.Faulty

/-- What the suite remembers. -/
structure State where
  /-- Whether the last group may end the process. -/
  abort : Bool := false
  /-- The calls of the first group. -/
  counter : Nat := 0

/-- The property that lets the last group end the process. -/
def abortKey : String := "faulty.abort"

/-- Counts a call. -/
def steady : Work Stop State Unit :=
  modify fun (s, w) => ({ s with counter := (s.counter + 1) % Nat.pow 2 64 }, w)

/-- Panics if a call was counted. -/
def panics : Work Stop State Unit := do
  let (s, _) ← get
  if 0 < s.counter then throw (.panicking ("counter was " ++ Decimal.text s.counter))

/-- Ends the process, or fails. -/
def aborts : Work Stop State Unit := do
  let (s, _) ← get
  if s.abort then throw (.crash (.halt .aborted))
  throw (.failure (.message (abortKey ++ " is not set")))

/-- The suite. -/
def suite {κ : Type} : RecordedSuite κ State where
  title _ := .ok (some "Fault isolation")
  setUp := do
    let abort := (← CodeWith.context).properties.get? abortKey == some "true"
    modify fun s => { s with state := { s.state with abort } }
  operations := return [
    ⟨"steady", steady⟩,
    ⟨"panics", panics⟩,
    ⟨"refuses", throw (.failure (.message "connection refused"))⟩,
    ⟨"aborts", aborts⟩]

/-- The suite in the registry. -/
def definition {κ : Type} [Arithmetic κ] : Definition κ where
  id := "faulty"
  description := some "Failing groups, optionally aborting the process"
  make env := .ok (.recorded "faulty" suite {} env)

end Microbench.Demonstration.Faulty
