import Microbench.Relay.Pump

/-!
# Pipes

A pipe holds the bytes that were written to it and not yet read. A reader of an empty pipe finds the
end of the stream if no one can write any more, and nothing at the moment otherwise.
-/

namespace Microbench

/-- A pipe between a writer and a reader. -/
structure Pipe where
  held : Bytes := []
  /-- Whether someone may still write. -/
  isOpen : Bool := true

namespace Pipe

/-- Puts bytes into the pipe. -/
def write (bs : Bytes) (p : Pipe) : Pipe := { p with held := p.held ++ bs }

/-- Closes the writing end. -/
def close (p : Pipe) : Pipe := { p with isOpen := false }

/-- Reads up to a number of bytes. -/
def read (count : Nat) (p : Pipe) : Reading × Pipe :=
  if p.held.isEmpty && p.isOpen then (.wouldBlock, p)
  else (.bytes (p.held.take count), { p with held := p.held.drop count })

/-- A pipe as a source, in front of a sink that takes everything. -/
def link : Link (Pipe × Bytes) where
  read count := fun (p, taken) =>
    let (reading, p) := p.read count
    (reading, p, taken)
  write bs := fun (p, taken) => (.taken bs.length, p, taken ++ bs)
  flush s := (true, s)

/-- Steps that suffice to copy a number of bytes: four for each chunk and two for the end. -/
def steps (bytes : Nat) : Nat := 4 * (bytes / Pump.bufferSize + 1) + 2

/-- Copies what a closed pipe holds: the pump at its end. -/
def drain (p : Pipe) : Pump (Pipe × Bytes) := Pump.run link (steps p.held.length) { link := (p, []) }

end Pipe

end Microbench
