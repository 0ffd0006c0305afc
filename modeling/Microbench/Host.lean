/-!
# The host

What a batch notes of the machine it runs on.
-/

namespace Microbench

/-- The machine that a batch runs on. -/
structure Host where
  processors : Nat := 1
  /-- Processes ready to run, on average. -/
  load : Float := 0.0

end Microbench
