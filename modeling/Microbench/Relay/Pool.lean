import Microbench.Journal
import Microbench.Relay.Pump

/-!
# Relays on a pool

A relay is a pump that runs as a task of a pool with a fixed number of threads. Tasks begin in the
order in which they were started, each as soon as a thread is free for it, and keep their thread to
their end. At any time any task with a thread may take a step: the order of steps is given from
outside, as lists of moves.

A relay is stopped by waiting for it, asking it to stop and waiting again. One that is still at
work after that keeps its thread for good, so a pool with such a relay is replaced by a new one.
-/

namespace Microbench

/-- A relay: its name, whether it was asked to stop, and its pump. -/
structure RelayTask (ρ : Type) where
  name : String
  stop : Bool := false
  pump : Pump ρ

/-- Whether the relay has not ended. -/
def RelayTask.isAtWork {ρ : Type} (t : RelayTask ρ) : Bool := t.pump.outcome?.isNone

/-- The threads and the tasks started on them, and how often the pool was replaced. -/
structure RelayPool (ρ : Type) where
  threads : Nat
  tasks : List (RelayTask ρ) := []
  replaced : Nat := 0

/-- The tasks that take a step, in the order in which they do, each by its place in the pool. -/
abbrev Moves := List Nat

/-- What happens while a relay is stopped. -/
structure Patience where
  /-- The steps before the first wait for it. -/
  before : Moves := []
  /-- The steps during that wait. -/
  grace : Moves
  /-- The steps between the end of that wait and the request to stop. -/
  lapse : Moves := []
  /-- The steps during the second wait. -/
  acknowledgement : Moves

namespace RelayPool

variable {ρ : Type}

/-- Starts a relay; it is found at the place returned. -/
def start (p : RelayPool ρ) (name : String) (link : ρ) : Nat × RelayPool ρ :=
  (p.tasks.length, { p with tasks := p.tasks ++ [⟨name, false, ⟨link, .looking, 0⟩⟩] })

/-- The places of the tasks in a list that are at work. -/
def atWorkFrom : Nat → List (RelayTask ρ) → List Nat
  | _, [] => []
  | place, t :: rest =>
    if t.isAtWork then place :: atWorkFrom (place + 1) rest else atWorkFrom (place + 1) rest

/-- The places of the tasks that have a thread. -/
def running (p : RelayPool ρ) : List Nat := (atWorkFrom 0 p.tasks).take p.threads

/-- A step of the task at a place, if it has a thread. -/
def move (l : Link ρ) (p : RelayPool ρ) (place : Nat) : RelayPool ρ :=
  if p.running.contains place then
    { p with
      tasks := p.tasks.modify place fun t =>
        { t with pump := t.pump.turn l (t.stop || l.asksToStop t.pump.link) } }
  else p

/-- Steps in order. -/
def moves (l : Link ρ) (ms : Moves) (p : RelayPool ρ) : RelayPool ρ := ms.foldl (move l) p

/-- How the relay at a place ended, if it has. -/
def outcome? (p : RelayPool ρ) (place : Nat) : Option (Nat × PumpEnd) :=
  (p.tasks[place]?).bind (·.pump.outcome?)

/-- Waits for the relay at a place while the moves are made, as long as it has not ended. -/
def wait (l : Link ρ) (place : Nat) : Moves → RelayPool ρ → Option (Nat × PumpEnd) × RelayPool ρ
  | moves, p =>
    match p.outcome? place with
    | some outcome => (some outcome, p)
    | none =>
      match moves with
      | [] => (none, p)
      | m :: moves => wait l place moves (p.move l m)

/-- Asks the relay at a place to stop. -/
def ask (p : RelayPool ρ) (place : Nat) : RelayPool ρ :=
  { p with tasks := p.tasks.modify place fun t => { t with stop := true } }

/-- The word for an end. -/
def endWord : PumpEnd → String
  | .endOfStream => "Eof"
  | .stopped => "Stopped"
  | .failed => "Failed"

/-- The note on a relay that ended. -/
def finishedNote (name : String) (copied : Nat) (how : PumpEnd) : Event :=
  ⟨.detail, "relay finished",
    [("relay", .text name), ("copied", .number copied), ("end", .text (endWord how))]⟩

/-- The note on a relay that is asked to stop. -/
def askedNote (name : String) : Event :=
  ⟨.detail, "relay still busy after grace period, stop requested", [("relay", .text name)]⟩

/-- The note on a relay that did not stop. -/
def ignoredNote (name : String) : Event :=
  ⟨.warning, "relay ignored the stop request", [("relay", .text name)]⟩

/-- Stops the relay at a place: the bytes that it copied, none if it is still at work. -/
def stop (l : Link ρ) (place : Nat) (patience : Patience) (p : RelayPool ρ) :
    Option Nat × List Event × RelayPool ρ :=
  let name := ((p.tasks[place]?).map (·.name)).getD ""
  match (p.moves l patience.before).wait l place patience.grace with
  | (some (copied, how), p) => (some copied, [finishedNote name copied how], p)
  | (none, p) =>
    match ((p.moves l patience.lapse).ask place).wait l place patience.acknowledgement with
    | (some (copied, how), p) =>
      (some copied, [askedNote name, finishedNote name copied how], p)
    | (none, p) => (none, [askedNote name, ignoredNote name], p)

/-- Stops relays in order. -/
def stopEach (l : Link ρ) : List (Nat × Patience) → RelayPool ρ →
    List (Option Nat) × List Event × RelayPool ρ
  | [], p => ([], [], p)
  | (place, patience) :: rest, p =>
    let (copied, notes, p) := p.stop l place patience
    let (others, more, p) := stopEach l rest p
    (copied :: others, notes ++ more, p)

/-- A pool without tasks in place of one whose threads are taken for good; `refusal` says why there
can be none. -/
def replace (refusal : Option String) (p : RelayPool ρ) : List Event × RelayPool ρ :=
  match refusal with
  | none =>
    ([⟨.warning, "replacing relay pool with stuck relays", [("threads", .number p.threads)]⟩],
      { p with tasks := [], replaced := p.replaced + 1 })
  | some reason => ([⟨.warning, "failed to replace relay pool: " ++ reason, []⟩], p)

/-- What stopping all relays gives. -/
structure Stopped (ρ : Type) where
  copied : List (Option Nat)
  notes : List Event
  /-- The tasks as they were left. -/
  tasks : List (RelayTask ρ)
  pool : RelayPool ρ

/-- Stops relays in order and replaces the pool if one of them is still at work. -/
def stopAll (l : Link ρ) (refusal : Option String) (relays : List (Nat × Patience))
    (p : RelayPool ρ) : Stopped ρ :=
  let (copied, notes, p) := stopEach l relays p
  if copied.any Option.isNone then
    let (more, q) := p.replace refusal
    ⟨copied, notes ++ more, p.tasks, q⟩
  else ⟨copied, notes, p.tasks, p⟩

/-- Moves by which every task of a pool takes a number of steps in turn. -/
def inTurn (tasks : Nat) (steps : Nat) : Moves :=
  (List.range (tasks * steps)).map (· % tasks)

end RelayPool

end Microbench
