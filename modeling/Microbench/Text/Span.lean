/-!
# Spans of code points

A character class is a list of spans; a span may take every second code point, as the alternating
letters of some alphabets ask for.
-/

namespace Microbench.Text

/-- The code points from `first` to `last` in steps of `step`. -/
structure Span where
  first : Nat
  last : Nat
  step : Nat

/-- Whether a code point belongs to the span. -/
def Span.holds (s : Span) (code : Nat) : Bool :=
  s.first ≤ code && code ≤ s.last && (code - s.first) % s.step == 0

/-- Whether a code point belongs to one of the spans. -/
def inSpans (spans : List Span) (code : Nat) : Bool := spans.any (·.holds code)

end Microbench.Text
