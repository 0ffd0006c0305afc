import Microbench.Bytes

/-!
# Pumps

A pump copies bytes from a source to a sink, a chunk at a time, and hands each chunk on before it
reads the next. Between chunks it looks whether it was asked to stop. A source that has nothing
at the moment is asked again; a source that never answers holds the pump where it is.

`Pump.turn` is one step: a look, a read, a write or a flush. `Pump.run` takes steps until the pump
has ended.
-/

namespace Microbench

/-- What a read gives. -/
inductive Reading where
  /-- Bytes; none at all at the end of the stream. -/
  | bytes (bs : Bytes)
  /-- Nothing at the moment. -/
  | wouldBlock
  | interrupted
  | failed
  /-- No answer yet. -/
  | held
  deriving DecidableEq, Repr

/-- What a write gives. -/
inductive Writing where
  /-- How many of the bytes were taken. -/
  | taken (count : Nat)
  | interrupted
  | failed
  deriving DecidableEq, Repr

/-- A source and a sink with the state `ρ`. -/
structure Link (ρ : Type) where
  /-- Reads up to a number of bytes. -/
  read : Nat → ρ → Reading × ρ
  write : Bytes → ρ → Writing × ρ
  /-- Whether what was written could be handed on. -/
  flush : ρ → Bool × ρ
  /-- Whether the state asks to stop. -/
  asksToStop : ρ → Bool := fun _ => false

/-- How a pump ended. -/
inductive PumpEnd where
  | endOfStream
  | stopped
  | failed
  deriving DecidableEq, Repr

/-- What a pump is about to do. -/
inductive Phase where
  /-- To look whether it shall stop. -/
  | looking
  | reading
  /-- To write the rest of a chunk of `size` bytes. -/
  | writing (size : Nat) (rest : Bytes)
  | ended (how : PumpEnd)
  deriving DecidableEq, Repr

/-- A pump between two states of its source and sink. -/
structure Pump (ρ : Type) where
  link : ρ
  phase : Phase := .looking
  /-- The bytes of the chunks that were handed on. -/
  copied : Nat := 0

namespace Pump

/-- The bytes of the longest chunk. -/
def bufferSize : Nat := 2048

variable {ρ : Type}

/-- The pump after its end. -/
def finish (p : Pump ρ) (how : PumpEnd) : Pump ρ := { p with phase := .ended how }

/-- One step. -/
def turn (l : Link ρ) (stop : Bool) (p : Pump ρ) : Pump ρ :=
  match p.phase with
  | .looking => if stop then p.finish .stopped else { p with phase := .reading }
  | .reading =>
    let (reading, link) := l.read bufferSize p.link
    let p := { p with link }
    match reading with
    | .bytes [] => p.finish .endOfStream
    | .bytes chunk => { p with phase := .writing chunk.length chunk }
    | .wouldBlock => { p with phase := .looking }
    | .interrupted => { p with phase := .looking }
    | .failed => p.finish .failed
    | .held => p
  | .writing size [] =>
    let (handedOn, link) := l.flush p.link
    let p := { p with link }
    if handedOn then { p with phase := .looking, copied := p.copied + size } else p.finish .failed
  | .writing size rest =>
    let (writing, link) := l.write rest p.link
    let p := { p with link }
    match writing with
    | .taken 0 => p.finish .failed
    | .taken count => { p with phase := .writing size (rest.drop count) }
    | .interrupted => p
    | .failed => p.finish .failed
  | .ended _ => p

/-- How the pump ended, if it has. -/
def outcome? (p : Pump ρ) : Option (Nat × PumpEnd) :=
  match p.phase with
  | .ended how => some (p.copied, how)
  | _ => none

/-- Takes steps until the pump has ended, `fuel` of them at most. -/
def run (l : Link ρ) : Nat → Pump ρ → Pump ρ
  | 0, p => p
  | fuel + 1, p =>
    match p.phase with
    | .ended _ => p
    | _ => run l fuel (p.turn l (l.asksToStop p.link))

theorem turn_ended (l : Link ρ) (stop : Bool) (p : Pump ρ) {how : PumpEnd}
    (h : p.phase = .ended how) : p.turn l stop = p := by
  simp [turn, h]

end Pump

end Microbench
