import Microbench.Relay.Shift

/-!
# Scripted streams

A source that follows a list of events, and a sink that fails where it is told to. Both keep count
of how they were used.
-/

namespace Microbench.Scripted

/-- Ways in which a read can fail. -/
inductive Refusal where
  | wouldBlock
  | interrupted
  | brokenPipe
  | other
  deriving DecidableEq, Repr

/-- What a source does next. -/
inductive SourceEvent where
  | data (bytes : Bytes)
  | refuse (how : Refusal)
  /-- Asks the relay to stop. -/
  | askToStop

/-- What a source does after its events. -/
inductive Ending where
  | endOfStream
  /-- It has nothing, at any moment. -/
  | idle
  /-- It never answers. -/
  | held
  deriving DecidableEq, Repr

/-- A source. -/
structure Source where
  events : List SourceEvent
  ending : Ending := .endOfStream
  asked : Bool := false
  /-- What its reads gave, the latest first. -/
  reads : List (Nat ⊕ Refusal) := []

namespace Source

/-- A refused read. -/
def refuse (s : Source) (how : Refusal) : Reading × Source :=
  (match how with
    | .wouldBlock => .wouldBlock
    | .interrupted => .interrupted
    | .brokenPipe => .failed
    | .other => .failed,
    { s with reads := .inr how :: s.reads })

/-- A read that gives bytes, after which the events go on with `rest`. -/
def give (s : Source) (bytes : Bytes) (rest : List SourceEvent) : Reading × Source :=
  (.bytes bytes, { s with events := rest, reads := .inl bytes.length :: s.reads })

/-- Reads from events. -/
def readFrom (count : Nat) (s : Source) : List SourceEvent → Reading × Source
  | [] =>
    match s.ending with
    | .endOfStream => s.give [] []
    | .idle => { s with events := [] }.refuse .wouldBlock
    | .held => (.held, { s with events := [] })
  | .data bytes :: rest =>
    let left := bytes.drop count
    s.give (bytes.take count) (if left.isEmpty then rest else .data left :: rest)
  | .refuse how :: rest => { s with events := rest }.refuse how
  | .askToStop :: rest => readFrom count { s with asked := true } rest

/-- Reads up to a number of bytes. -/
def read (count : Nat) (s : Source) : Reading × Source := s.readFrom count s.events

/-- The steps of a relay that an event can cause. -/
def eventSteps : SourceEvent → Nat
  | .data bytes => 4 * bytes.length + 4
  | _ => 2

end Source

/-- What a write gave. -/
inductive WriteNote where
  | taken (count : Nat)
  | interrupted
  | failed
  deriving DecidableEq, Repr

/-- A sink. -/
structure SinkScript where
  /-- The bytes that one write takes at most. -/
  most : Option Nat := none
  /-- The bytes after which writes fail. -/
  failsAfter : Option Nat := none
  /-- The bytes after which writes take nothing. -/
  stallsAfter : Option Nat := none
  /-- The writes that are interrupted, counted from zero. -/
  interruptions : List Nat := []
  /-- The flush that fails, counted from one. -/
  failingFlush : Option Nat := none

/-- A sink and what happened to it. -/
structure SinkState where
  script : SinkScript := {}
  content : Bytes := []
  /-- What its writes gave, the latest first. -/
  writes : List WriteNote := []
  flushes : Nat := 0

namespace SinkState

/-- How many of a number of bytes a limit leaves room for. -/
def room (held : Nat) (limit : Option Nat) (count : Nat) : Nat :=
  match limit with
  | some n => min count (n - held)
  | none => count

/-- Whether a limit is reached. -/
def isReached (held : Nat) (limit : Option Nat) : Bool := limit.any (· ≤ held)

/-- Writes bytes. -/
def write (bytes : Bytes) (s : SinkState) : Writing × SinkState :=
  let note (w : Writing) (n : WriteNote) : Writing × SinkState := (w, { s with writes := n :: s.writes })
  let held := s.content.length
  if s.script.interruptions.contains s.writes.length then note .interrupted .interrupted
  else if isReached held s.script.failsAfter then note .failed .failed
  else
    let count := (s.script.most.map (min bytes.length)).getD bytes.length
    let count := room held s.script.stallsAfter (room held s.script.failsAfter count)
    let (w, t) := note (.taken count) (.taken count)
    (w, { t with content := s.content ++ bytes.take count })

/-- Hands on what was written. -/
def flush (s : SinkState) : Bool × SinkState :=
  (s.script.failingFlush != some (s.flushes + 1), { s with flushes := s.flushes + 1 })

end SinkState

/-- A scripted source in front of a scripted sink. -/
structure Stream where
  source : Source
  sink : SinkState := {}

namespace Stream

/-- The link of scripted ends. -/
def link : Link Stream where
  read count s :=
    let (reading, source) := s.source.read count
    (reading, { s with source })
  write bytes s :=
    let (writing, sink) := s.sink.write bytes
    (writing, { s with sink })
  flush s :=
    let (handedOn, sink) := s.sink.flush
    (handedOn, { s with sink })
  asksToStop s := s.source.asked

/-- Steps that suffice for a relay to use up its source. -/
def steps (s : Stream) : Nat :=
  s.source.events.foldl (fun n e => n + Source.eventSteps e) (s.sink.script.interruptions.length + 4)

/-- Copies the source to the sink: the pump at its end. -/
def pump (stop : Bool) (s : Stream) : Pump Stream :=
  Pump.run link s.steps { link := { s with source := { s.source with asked := stop } } }

end Stream

/-- A round on a pool: relays are started together and then all are stopped. -/
def relayRound (relays : List Stream) (p : RelayPool Stream) : RelayPool.Stopped Stream × List Nat :=
  let first := p.tasks.length
  let moves := RelayPool.inTurn (first + relays.length) (relays.foldl (fun n s => n + s.steps) 0)
  let patience : Patience := { grace := moves, acknowledgement := moves }
  let shift : RelayPool.Shift Stream :=
    { relays := relays.map fun link => { name := "relay", link, patience } }
  (p.serve Stream.link shift, (List.range relays.length).map (first + ·))

end Microbench.Scripted
