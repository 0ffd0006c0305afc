import Microbench.Duration.Shown
import Microbench.Properties
import Microbench.Decimal.Digits

/-!
# Engine settings as properties

Suites get the settings of the engine the way they get all others: as texts under reserved names.
-/

namespace Microbench

/-- The name under which the calls per batch travel. -/
def callsKey : String := "isobench.calls_per_repetition"

/-- The name under which the batches per run travel. -/
def repetitionsKey : String := "isobench.repetitions_per_run"

/-- The name under which the wait before a batch travels, in milliseconds. -/
def delayKey : String := "isobench.warmup_delay_ms"

/-- What the command line and the settings file make of the engine's knobs. -/
structure EngineSettings where
  calls : Nat
  repetitions : Nat
  /-- Nanoseconds. -/
  delay : Nat
  deriving DecidableEq, Repr

/-- The settings under their reserved names; the wait is cut to whole milliseconds. -/
def EngineSettings.entries (s : EngineSettings) : List (String × String) :=
  [(callsKey, Decimal.text s.calls), (repetitionsKey, Decimal.text s.repetitions),
    (delayKey, Decimal.text (s.delay / 1000000))]

/-- The settings as a reader is shown them. -/
def EngineSettings.shown (s : EngineSettings) : String :=
  "EngineSettings \x7b calls_per_repetition: " ++ Decimal.text s.calls ++
    ", repetitions_per_run: " ++ Decimal.text s.repetitions ++ ", warmup_delay: " ++
    Duration.shown s.delay ++ " \x7d"

end Microbench
