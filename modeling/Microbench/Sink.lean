import Microbench.Bytes
import Microbench.Failure.System

/-!
# Sinks

A sink takes bytes, as many of those offered as it likes, or fails. `Sink.bounded` takes a limited
number in all. `Buffered` collects small pieces in front of a sink and hands them on together; a
piece that would fill the buffer by itself goes past it.
-/

namespace Microbench

/-- A place for bytes with state `ω`: it answers how many of the bytes offered it took. -/
structure Sink (ω : Type) where
  accept : Bytes → ExceptT IoFailure (StateM ω) Nat

/-- A sink that holds what it took and takes `limit` bytes in all, then is full. -/
def Sink.bounded (limit : Nat) : Sink Bytes where
  accept bytes := do
    let held ← get
    let room := limit - held.length
    if room = 0 then throw (.other "disk full")
    set (held ++ bytes.take room)
    pure (min room bytes.length)

/-- A sink that holds all it is given. -/
def Sink.unbounded : Sink Bytes where
  accept bytes := do
    modify (· ++ bytes)
    pure bytes.length

namespace Buffered

/-- The bytes a buffer holds. -/
def capacity : Nat := 8192

/-- Actions on the bytes that wait in front of a sink, and on the sink. -/
abbrev Action (ω : Type) := ExceptT IoFailure (StateM (Bytes × ω))

variable {ω : Type}

/-- Offers bytes to the sink. -/
def offer (sink : Sink ω) (bytes : Bytes) : Action ω Nat := fun (pending, w) =>
  let (answer, w) := (sink.accept bytes).run w
  (answer, (pending, w))

/-- Hands bytes to the sink, past the buffer; those not taken by a failing sink are lost. -/
def direct (sink : Sink ω) (bytes : Bytes) : Action ω Unit :=
  if _h : bytes.isEmpty then pure ()
  else do
    let n ← offer sink bytes
    if _hn : n = 0 then throw (.other "failed to write whole buffer")
    else direct sink (bytes.drop n)
termination_by bytes.length
decreasing_by
  have : bytes ≠ [] := by simpa using _h
  have := List.length_pos_iff.2 this
  simp only [List.length_drop]
  omega

/-- Hands the waiting bytes to the sink; those not taken by a failing sink go on waiting. -/
def drainFrom (sink : Sink ω) (bytes : Bytes) : Action ω Unit :=
  if _h : bytes.isEmpty then modify fun s => ([], s.2)
  else do
    modify fun s => (bytes, s.2)
    let n ← offer sink bytes
    if _hn : n = 0 then throw (.other "failed to write the buffered data")
    else drainFrom sink (bytes.drop n)
termination_by bytes.length
decreasing_by
  have : bytes ≠ [] := by simpa using _h
  have := List.length_pos_iff.2 this
  simp only [List.length_drop]
  omega

/-- Hands all waiting bytes to the sink. -/
def drain (sink : Sink ω) : Action ω Unit := do
  let (pending, _) ← get
  drainFrom sink pending

/-- Lets bytes wait. -/
def hold (bytes : Bytes) : Action ω Unit := modify fun (pending, w) => (pending ++ bytes, w)

/-- Writes one piece. -/
def put (sink : Sink ω) (piece : Bytes) : Action ω Unit := do
  let (pending, _) ← get
  let room := capacity - pending.length
  if piece.length < room then hold piece
  else
    if room < piece.length then drain sink
    if capacity ≤ piece.length then direct sink piece else hold piece

/-- Writes pieces in order, then hands on all that waits. -/
def putAll (sink : Sink ω) (pieces : List Bytes) : Action ω Unit := do
  pieces.forM (put sink)
  drain sink

end Buffered

end Microbench
