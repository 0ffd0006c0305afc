import Microbench.Relay.Pool

/-!
# Shifts on a pool

The relays of one suite are started one after the other and are stopped together when the suite is
over. Suites take the pool in turn, and each finds it as the one before has left it.
-/

namespace Microbench.RelayPool

variable {ρ : Type}

/-- A relay of a suite. -/
structure Relayed (ρ : Type) where
  /-- The steps before it is started. -/
  before : Moves := []
  name : String
  link : ρ
  patience : Patience

/-- What a suite does with the pool. -/
structure Shift (ρ : Type) where
  relays : List (Relayed ρ)
  /-- Why the pool cannot be replaced afterwards, if it cannot. -/
  refusal : Option String := none

/-- Starts relays in order: the places at which they are found, each with its patience. -/
def startEach (l : Link ρ) : List (Relayed ρ) → RelayPool ρ → List (Nat × Patience) × RelayPool ρ
  | [], p => ([], p)
  | relay :: rest, p =>
    let (place, p) := (p.moves l relay.before).start relay.name relay.link
    let (places, p) := startEach l rest p
    ((place, relay.patience) :: places, p)

/-- Starts the relays of a suite and stops them all. -/
def serve (l : Link ρ) (shift : Shift ρ) (p : RelayPool ρ) : Stopped ρ :=
  let (places, p) := startEach l shift.relays p
  stopAll l shift.refusal places p

/-- Serves suites in order: what stopping the relays of each gave, and the pool at the end. -/
def serveAll (l : Link ρ) : List (Shift ρ) → RelayPool ρ → List (Stopped ρ) × RelayPool ρ
  | [], p => ([], p)
  | shift :: rest, p =>
    let stopped := serve l shift p
    let (later, p) := serveAll l rest stopped.pool
    (stopped :: later, p)

end Microbench.RelayPool
