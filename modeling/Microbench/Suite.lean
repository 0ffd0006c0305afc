import Microbench.Text.Quoted
import Microbench.World

/-!
# Suites

A suite declares operations and is told when its groups, runs and repetitions start and end. Its
code works on a `Scene`: the suite's own state, its context and the world. Code can end in an error,
in a panic, or with the end of the whole process.

A hook is handed the context itself. What it leaves there is what the engine and all later hooks
find, whether it has changed a knob or put another context in the place of the first.
-/

namespace Microbench

/-- What a panic carries. -/
inductive Payload where
  | text (s : String)
  | other
  deriving DecidableEq, Repr

/-- What a reader is told of a panic. -/
def Payload.message : Payload → String
  | text s => s
  | other => "Unknown panic"

/-- How a process ended of its own accord. -/
inductive Fate where
  | exited (code : Int)
  /-- It was killed on the spot. -/
  | killed
  /-- It gave itself up. -/
  | aborted
  deriving DecidableEq, Repr

/-- An end that is no answer. -/
inductive Crash where
  | panic (payload : Payload)
  | halt (fate : Fate)
  deriving DecidableEq, Repr

/-- How code ends other than by returning. -/
inductive Stop where
  | failure (error : BenchError)
  | crash (crash : Crash)
  deriving DecidableEq, Repr

instance : Coe Crash Stop := ⟨.crash⟩

/-- A panic with a text. -/
def Stop.panicking (s : String) : Stop := .crash (.panic (.text s))

/-- What the code of a suite works on. -/
structure Scene (κ σ : Type) where
  state : σ
  context : Context κ
  world : World

/-- Code of a suite that ends in an `ε` if it does not return. -/
abbrev CodeWith (ε κ σ : Type) := ExceptT ε (StateM (Scene κ σ))

/-- Code of a suite. -/
abbrev Code (κ σ : Type) := CodeWith Stop κ σ

/-- Code that sees no context: an operation's. -/
abbrev Work (ε σ : Type) := ExceptT ε (StateM (σ × World))

/-- A named operation of a suite. -/
structure Operation (σ : Type) where
  name : String
  call : Work Stop σ Unit

/-- An operation as a reader is shown it. -/
def Operation.shown {σ : Type} (o : Operation σ) : String :=
  "Operation \x7b name: " ++ Text.quoted o.name ++ " \x7d"

/-- An operation on a part of a larger state. -/
def Operation.project {σ τ : Type} (inner : τ → σ) (update : τ → σ → τ) (o : Operation σ) :
    Operation τ where
  name := o.name
  call := fun (t, w) =>
    let (answer, s, w) := o.call.run (inner t, w)
    (answer, update t s, w)

namespace CodeWith

variable {ε κ σ : Type}

/-- Changes the world. -/
def change (f : World → World) : CodeWith ε κ σ Unit :=
  modify fun s => { s with world := f s.world }

/-- Notes an event. -/
def note (e : Event) : CodeWith ε κ σ Unit := change (·.note e)

/-- Changes the context. -/
def adjust (f : Context κ → Context κ) : CodeWith ε κ σ Unit :=
  modify fun s => { s with context := f s.context }

/-- The context. -/
def context : CodeWith ε κ σ (Context κ) := return (← get).context

/-- Runs code on a part of the state. -/
def project {τ α : Type} (inner : τ → σ) (update : τ → σ → τ) (x : CodeWith ε κ σ α) :
    CodeWith ε κ τ α := fun s =>
  let (answer, t) := x.run { s with state := inner s.state }
  (answer, { t with state := update s.state t.state })

/-- Runs code that sees no context. -/
def ofWork {α : Type} (x : Work ε σ α) : CodeWith ε κ σ α := fun s =>
  let (answer, state, world) := x.run (s.state, s.world)
  (answer, { s with state, world })

end CodeWith

namespace Code

variable {κ σ : Type}

/-- Works on the disk. -/
def access {α : Type} (x : Access α) : Code κ σ (Except IoFailure α) := fun s =>
  let (answer, world) := s.world.access x
  (.ok answer, { s with world })

/-- Code that can crash but not fail. -/
def ofCrashing {α : Type} (x : CodeWith Crash κ σ α) : Code κ σ α := fun s =>
  match x.run s with
  | (.ok a, t) => (.ok a, t)
  | (.error c, t) => (.error (.crash c), t)

end Code

/-- What a suite is made of. Every part but the operations has a default. -/
structure Suite (κ σ : Type) where
  /-- Prepares the suite. -/
  setUp : Code κ σ Unit := pure ()
  /-- Declares the operations, one for each group. -/
  operations : Work Crash σ (List (Operation σ))
  /-- A group starts: the runs to exercise its operation in. -/
  groupStarts : String → Code κ σ (List Run) := fun group => pure [Run.named group]
  /-- A run of more than one repetition starts. -/
  runStarts : Run → Code κ σ Unit := fun _ => pure ()
  /-- A repetition of a run starts. -/
  repetitionStarts : Run → Nat → Code κ σ Unit := fun _ _ => pure ()
  /-- A run was measured. -/
  runEnds : Run → Code κ σ Unit := fun _ => pure ()
  /-- A group is over. -/
  groupEnds : String → Code κ σ Unit := fun _ => pure ()
  /-- A group failed. -/
  groupFailed : String → BenchError → CodeWith Crash κ σ Unit := fun group e => do
    let c ← CodeWith.context
    CodeWith.note ⟨.error, e.text, [("suite", .text c.suite), ("group", .text group)]⟩
  /-- The suite is done. -/
  tearDown : Code κ σ Unit := pure ()

end Microbench
