import Microbench.Scripted.Document
import Microbench.Scripted.Stream

/-!
# Streams as documents

The bytes of a stream are written as a text, in hexadecimal or as a count of bytes that go up from
zero to 250 and start again.
-/

namespace Microbench.Scripted

/-- Bytes as a text or in hexadecimal, if they are given. -/
def content? (v : Json) : Option Bytes :=
  ((text? (field v "text")).map Bytes.ofText).or ((text? (field v "hex")).bind Bytes.ofHex?)

/-- A number of bytes that go up from zero to 250 and start again. -/
def fill (count : Nat) : Bytes := (List.range count).map fun i => UInt8.ofNat (i % 251)

/-- The bytes of a piece of a stream. -/
def piece (v : Json) : Bytes :=
  match integer? (field v "fill") with
  | some n => fill n.toNat
  | none => (content? v).getD []

/-- The word for a way in which a read fails. -/
def Refusal.word : Refusal → String
  | .wouldBlock => "would_block"
  | .interrupted => "interrupted"
  | .brokenPipe => "broken_pipe"
  | .other => "other"

/-- The way in which a read fails that a word stands for. -/
def Refusal.ofWord? (s : String) : Option Refusal :=
  [Refusal.wouldBlock, .interrupted, .brokenPipe, .other].find? (·.word == s)

@[simp] theorem Refusal.ofWord?_word (r : Refusal) : Refusal.ofWord? r.word = some r := by
  cases r <;> decide

/-- What a source does next. -/
def sourceEvent (v : Json) : SourceEvent :=
  match (text? (field v "err")).bind Refusal.ofWord?, field v "stop" with
  | some r, _ => .refuse r
  | none, .bool true => .askToStop
  | none, _ => .data (piece v)

/-- What a source does after its events. -/
def ending (v : Json) : Ending :=
  match field v "held", field v "idle" with
  | .bool true, _ => .held
  | _, .bool true => .idle
  | _, _ => .endOfStream

/-- How a sink behaves. -/
def SinkScript.ofJson (v : Json) : SinkScript :=
  let count (name : String) : Option Nat := (integer? (field v name)).map Int.toNat
  { most := count "max", failsAfter := count "fail_after", stallsAfter := count "zero_after"
    interruptions := (items (field v "interrupt_at")).map natural
    failingFlush := count "flush_fail_at" }

/-- A source and a sink. -/
def Stream.ofJson (v : Json) : Stream where
  source := { events := (items (field v "source")).map sourceEvent, ending := ending v }
  sink := { script := .ofJson (field v "sink") }

end Microbench.Scripted
