/-!
# The journal

What the program notes about its own work: events with a level, a message and named values.
-/

namespace Microbench

/-- How much an event matters. -/
inductive Level where
  | error
  | warning
  | information
  | detail
  deriving DecidableEq, Repr

/-- The word for a level. -/
def Level.word : Level → String
  | .error => "ERROR"
  | .warning => "WARN"
  | .information => "INFO"
  | .detail => "DEBUG"

/-- The value of a field of an event. -/
inductive FieldValue where
  | text (s : String)
  | number (i : Int)
  | float (x : Float)

/-- One event. -/
structure Event where
  level : Level
  message : String
  fields : List (String × FieldValue)

/-- The events so far, in order. -/
abbrev Journal := Array Event

end Microbench
