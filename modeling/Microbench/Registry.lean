import Microbench.Engine
import Microbench.Recording

/-!
# The registry

A `Bench` is a suite that is ready to run: its state, its context and its hooks. A `Definition`
says how to make one. The registry holds definitions in ascending order of their identifiers; of
several with one identifier it keeps the first that was registered.
-/

namespace Microbench

/-- A suite ready to run. -/
structure Bench (κ : Type) : Type 1 where
  σ : Type
  suite : Suite κ σ
  state : σ
  context : Context κ
  /-- What was noted while the context was made. -/
  notes : List Event := []

namespace Bench

variable {κ : Type} [Arithmetic κ]

/-- A suite in its environment. -/
def new {σ : Type} (id : String) (suite : Suite κ σ) (state : σ) (env : Environment) : Bench κ :=
  let (context, notes) := Context.start id env
  { σ, suite, state, context, notes }

/-- A recorded suite in its environment. -/
def recorded {σ : Type} (id : String) (suite : RecordedSuite κ σ) (state : σ)
    (env : Environment) : Bench κ :=
  new id (Recording.suite suite) (state, {}) env

/-- Runs the suite once. -/
def run (b : Bench κ) (clock : Clock) (window : Window κ) (w : World) :
    Except Stop Summary × Bench κ × World :=
  let (answer, s) := (Engine.run b.suite clock window).run ⟨b.state, b.context, w⟩
  (answer, { b with state := s.state, context := s.context }, s.world)

end Bench

/-- How to make a suite, and what is said about it. -/
structure Definition (κ : Type) : Type 1 where
  id : String
  description : Option String := none
  /-- The properties that the suite cannot do without. -/
  requires : List String := []
  make : Environment → Except Payload (Bench κ)

/-- The required properties that are missing. -/
def Definition.missing {κ : Type} (d : Definition κ) (p : Properties) : List String :=
  d.requires.filter fun k => !p.contains k

/-- Definitions by identifier. -/
structure Registry (κ : Type) : Type 1 where
  definitions : List (Definition κ) := []

namespace Registry

variable {κ : Type}

/-- Puts a definition in front of those that do not precede it. -/
def place (d : Definition κ) : List (Definition κ) → List (Definition κ)
  | [] => [d]
  | e :: rest => if d.id ≤ e.id then d :: e :: rest else e :: place d rest

/-- Definitions in ascending order; those with one identifier stay in theirs. -/
def sort : List (Definition κ) → List (Definition κ)
  | [] => []
  | d :: rest => place d (sort rest)

/-- Drops every definition with the identifier of the one kept before it, and lists the dropped. -/
def dropRepeated : List (Definition κ) → List (Definition κ) × List String
  | [] => ([], [])
  | d :: rest =>
    let (kept, dropped) := dropRepeated rest
    (d :: kept.dropWhile (·.id == d.id), (kept.takeWhile (·.id == d.id)).map (·.id) ++ dropped)

/-- The note on a definition that was dropped. -/
def repetitionNote (id : String) : Event :=
  ⟨.warning, "suite registered twice, keeping the first definition", [("suite", .text id)]⟩

/-- The registry of the given definitions, and the notes on those that were dropped. -/
def ofDefinitions (ds : List (Definition κ)) : Registry κ × List Event :=
  let (kept, dropped) := dropRepeated (sort ds)
  (⟨kept⟩, dropped.map repetitionNote)

/-- The definition with an identifier. -/
def get? (r : Registry κ) (id : String) : Option (Definition κ) :=
  r.definitions.find? (·.id == id)

/-- The identifiers in ascending order. -/
def ids (r : Registry κ) : List String := r.definitions.map (·.id)

/-- Makes the suite with an identifier. -/
def create (r : Registry κ) (id : String) (env : Environment) : Except Stop (Bench κ) :=
  match r.get? id with
  | none => .error (.failure (.unknownSuite id))
  | some d =>
    match d.make env with
    | .ok b => .ok b
    | .error p => .error (.crash (.panic p))

end Registry

end Microbench
