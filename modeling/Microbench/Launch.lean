import Microbench.Registry

/-!
# Launching suites

Several suites share a window of overall progress evenly. Each is made and run in turn, whatever
became of those before it: an error is the suite's outcome. Only what crashes on the way to a
suite's outcome ends the launch.
-/

namespace Microbench

/-- What became of one suite of a launch. -/
structure LaunchResult (κ : Type) where
  suite : String
  window : Window κ
  outcome : Except BenchError Summary

namespace Launch

variable {κ : Type} [Arithmetic κ]

/-- The raw times of the suites, by their places in the launch. -/
abbrev Clocks := Nat → Clock

/-- What is noted of an outcome. -/
def outcomeNote (suite : String) : Except BenchError Summary → Event
  | .ok s =>
    ⟨.information, "suite completed",
      [("suite", .text suite), ("completed", .number s.completed.length),
        ("failed", .number s.failed.length)]⟩
  | .error e => ⟨.error, "suite aborted: " ++ e.text, [("suite", .text suite)]⟩

/-- Makes a suite and runs it. -/
def runSuite (registry : Registry κ) (env : Environment) (clock : Clock) (suite : String)
    (window : Window κ) (w : World) : Except Stop Summary × World :=
  match registry.create suite env with
  | .error e => (.error e, w)
  | .ok bench =>
    let (outcome, _, w) := bench.run clock window (w.noteAll bench.notes)
    (outcome, w)

/-- Suites in order from the one at a place, each in its window. -/
def runFrom (registry : Registry κ) (env : Environment) (clocks : Clocks) :
    Nat → List (String × Window κ) → World → Except Crash (List (LaunchResult κ)) × World
  | _, [], w => (.ok [], w)
  | place, (suite, window) :: rest, w =>
    let go (outcome : Except BenchError Summary) (w : World) :=
      let (results, w) :=
        runFrom registry env clocks (place + 1) rest (w.note (outcomeNote suite outcome))
      (results.map (⟨suite, window, outcome⟩ :: ·), w)
    match runSuite registry env (clocks place) suite window w with
    | (.ok summary, w) => go (.ok summary) w
    | (.error (.failure e), w) => go (.error e) w
    | (.error (.crash c), w) => (.error c, w)

/-- Launches suites within a window. -/
def run (registry : Registry κ) (env : Environment) (clocks : Clocks) (window : Window κ)
    (suites : List String) (w : World) : Except Crash (List (LaunchResult κ)) × World :=
  runFrom registry env clocks 0 (suites.zip (window.split suites.length)) w

end Launch

end Microbench
