import Microbench.Decimal.Digits

/-!
# Durations for a reader

A duration is shown in the largest unit that leaves a whole part, with as many places as it needs.
-/

namespace Microbench.Duration

/-- A whole part and a part of `10 ^ places`, without zeros at the end. -/
def decimal (whole part places : Nat) : String :=
  let ds := ((Decimal.padLeft places '0' (Decimal.digits part)).reverse.dropWhile (· == '0')).reverse
  Decimal.text whole ++ (if ds.isEmpty then "" else "." ++ String.ofList ds)

/-- A number of nanoseconds. -/
def shown (ns : Nat) : String :=
  if 1000000000 ≤ ns then decimal (ns / 1000000000) (ns % 1000000000) 9 ++ "s"
  else if 1000000 ≤ ns then decimal (ns / 1000000) (ns % 1000000) 6 ++ "ms"
  else if 1000 ≤ ns then decimal (ns / 1000) (ns % 1000) 3 ++ "µs"
  else Decimal.text ns ++ "ns"

end Microbench.Duration
