import Microbench.Proofs.Batch.Orchestrator
import Microbench.Proofs.Launch

/-!
# Batches within one process

A batch without workers is a launch of its suites, each alone within its share of the progress
(`runFrom_here`). So what a suite does comes back to the batch in the same two ways: as an outcome
of the suite, or, where nothing guards against it, as the end of the whole batch.

* `answers_of_suites`: a launch, and a batch within one process, returns exactly if all its suites
  are contained; it then accounts for every one of them.
-/

namespace Microbench

namespace Launch

variable {κ : Type} [Arithmetic κ] {registry : Registry κ} {env : Environment} {clocks : Clocks}
  {window : Window κ} {suites : List String} {w : World}

/-- What is known of a launch: when it returns, and what its results are. -/
structure Answers (registry : Registry κ) (env : Environment) (clocks : Clocks) (window : Window κ)
    (suites : List String) (w : World) : Prop where
  returns_iff : (∃ results, (run registry env clocks window suites w).1 = .ok results) ↔
    AllContained registry env clocks 0 (suites.zip (window.split suites.length)) w
  length_eq : ∀ results, (run registry env clocks window suites w).1 = .ok results →
    results.length = suites.length
  /-- Suites after one that failed are made and run as the others are. -/
  tells : ∀ results, (run registry env clocks window suites w).1 = .ok results →
    ∀ i (h : i < suites.length) (h' : i < results.length),
      Tells registry env (clocks i) suites[i] (window.slice i suites.length)
        (worldAt registry env clocks 0 (suites.zip (window.split suites.length)) w i) results[i]
  failed_iff : ∀ results, (run registry env clocks window suites w).1 = .ok results →
    ∀ i (h : i < suites.length) (h' : i < results.length) e, results[i].outcome = .error e ↔
      Fatal registry env (clocks i) suites[i] (window.slice i suites.length)
        (worldAt registry env clocks 0 (suites.zip (window.split suites.length)) w i) e

theorem answers : Answers registry env clocks window suites w := by
  have length_zip : (suites.zip (window.split suites.length)).length = suites.length := by simp
  have tells : ∀ results, (run registry env clocks window suites w).1 = .ok results →
      results.length = suites.length ∧ ∀ i (h : i < suites.length) (h' : i < results.length),
        Tells registry env (clocks i) suites[i] (window.slice i suites.length)
          (worldAt registry env clocks 0 (suites.zip (window.split suites.length)) w i)
          results[i] := by
    intro results returned
    obtain ⟨length, tells⟩ := tells_of_runFrom returned
    refine ⟨length.trans length_zip, fun i h h' => ?_⟩
    have at' := tells i (by rw [length_zip]; exact h) h'
    rw [Window.getElem_zip_split _ h, Nat.zero_add] at at'
    exact at'
  exact
    { returns_iff := runFrom_returns_iff
      length_eq := fun results returned => (tells results returned).1
      tells := fun results returned => (tells results returned).2
      failed_iff := fun results returned i h h' _ =>
        ((tells results returned).2 i h h').failed_iff }

theorem run_singleton {clock : Clock} {suite : String} :
    run registry env (fun _ => clock) window [suite] w =
      runFrom registry env (fun _ => clock) 0 [(suite, window.slice 0 1)] w := rfl

end Launch

namespace Orchestrator

open Launch

variable {o : Orchestrator} {outputRoot : String} {times : BatchTimes} {s : Stage}

/-! ## A batch is a launch -/

/-- What the suites of a batch are given that run in this process. -/
def environment (o : Orchestrator) (outputRoot : String) : Environment :=
  ⟨outputRoot, o.dispatch.properties⟩

/-- A suite is launched alone within its share. -/
def alone (share : String × Window Float) : String × Window Float := (share.1, share.2.slice 0 1)

/-- The entry of a suite that was launched, from its result. -/
def resultEntry (suite : String) (window : Window Float) (r : LaunchResult Float) : SuiteOutcome :=
  launchedOutcome suite window [r]

section Suite

variable {clock : Clock} {suite : String} {window : Window Float} {w' : World}

theorem runHere_of_answered {outcome : Except BenchError Summary}
    (ran : Launch.runSuite o.registry (o.environment outputRoot) clock suite (window.slice 0 1)
      s.world = (answered outcome, w')) :
    (o.runHere suite window outputRoot clock).run s =
      (.ok (launchedOutcome suite window [⟨suite, window.slice 0 1, outcome⟩]),
        { s with world := w'.note (outcomeNote suite outcome) }) := by
  have launched : Launch.run o.registry (o.environment outputRoot) (fun _ => clock) window [suite]
      s.world = (.ok [⟨suite, window.slice 0 1, outcome⟩], w'.note (outcomeNote suite outcome)) := by
    rw [run_singleton, runFrom_of_answered ran]
    rfl
  unfold runHere environment at *
  simp only [ExceptT.run]
  rw [launched]

theorem runHere_of_crash {c : Crash}
    (ran : Launch.runSuite o.registry (o.environment outputRoot) clock suite (window.slice 0 1)
      s.world = (.error (.crash c), w')) :
    (o.runHere suite window outputRoot clock).run s = (.error c, { s with world := w' }) := by
  have launched : Launch.run o.registry (o.environment outputRoot) (fun _ => clock) window [suite]
      s.world = (.error c, w') := by
    rw [run_singleton, runFrom_of_crash ran]
  unfold runHere environment at *
  simp only [ExceptT.run]
  rw [launched]

end Suite

/-- Without workers, the suites of a batch are launched one after the other. -/
theorem runFrom_here (here : o.dispatch.isolated = false) (outputRoot : String) (times : BatchTimes)
    (place : Nat) (before : Float) (list : List (String × Window Float)) (s : Stage) :
    ∃ t, (o.runFrom outputRoot times place before list).run s =
        ((Launch.runFrom o.registry (o.environment outputRoot) times.clocks place (list.map alone)
          s.world).1.map (entriesFrom times resultEntry place list), t) ∧
      t.world = (Launch.runFrom o.registry (o.environment outputRoot) times.clocks place
        (list.map alone) s.world).2 := by
  induction list generalizing place before s with
  | nil => exact ⟨s, rfl, rfl⟩
  | cons share rest ih =>
    rcases share with ⟨suite, window⟩
    have choice : o.runSuite suite window outputRoot (times.clocks place) =
        o.runHere suite window outputRoot (times.clocks place) := by
      unfold runSuite
      rw [here]
      rfl
    have head : ((suite, window) :: rest).map alone = (suite, window.slice 0 1) :: rest.map alone :=
      rfl
    rcases ran : Launch.runSuite o.registry (o.environment outputRoot) (times.clocks place) suite
      (window.slice 0 1) s.world with ⟨answer, w'⟩
    rcases answered_or_crashed answer with ⟨outcome, rfl⟩ | ⟨c, rfl⟩
    · have entered := runHere_of_answered (s := announced suite s) ran
      rw [← choice] at entered
      obtain ⟨t, later, left⟩ := ih (place + 1) (before + window.size) (advanced (before + window.size)
        { announced suite s with world := w'.note (outcomeNote suite outcome) })
      refine ⟨t, ?_, ?_⟩
      · rw [run_runFrom_of_ok entered, later, head, runFrom_of_answered ran]
        have same : (advanced (before + window.size)
          { announced suite s with world := w'.note (outcomeNote suite outcome) }).world =
            w'.note (outcomeNote suite outcome) := rfl
        rw [same]
        cases (Launch.runFrom o.registry (o.environment outputRoot) times.clocks (place + 1)
          (rest.map alone) (w'.note (outcomeNote suite outcome))).1 <;> rfl
      · rw [left, head, runFrom_of_answered ran]
        rfl
    · have entered := runHere_of_crash (s := announced suite s) ran
      rw [← choice] at entered
      refine ⟨{ announced suite s with world := w' }, ?_, ?_⟩
      · rw [run_runFrom_of_error entered, head, runFrom_of_crash ran]
        rfl
      · rw [head, runFrom_of_crash ran]

/-! ## Reports -/

section Reports

variable {suites : List String}

/-- The launch that a batch within one process is. -/
def launch (o : Orchestrator) (outputRoot : String) (times : BatchTimes) (suites : List String)
    (s : Stage) : Except Crash (List (LaunchResult Float)) × World :=
  Launch.runFrom o.registry (o.environment outputRoot) times.clocks 0 ((shares suites).map alone)
    (opened outputRoot s).world

/-- The world when the batch has come to the suite at a place. -/
def reached (o : Orchestrator) (outputRoot : String) (times : BatchTimes) (suites : List String)
    (s : Stage) (i : Nat) : World :=
  worldAt o.registry (o.environment outputRoot) times.clocks 0 ((shares suites).map alone)
    (opened outputRoot s).world i

theorem length_alone : ((shares suites).map alone).length = suites.length := by
  rw [List.length_map, length_shares]

/-- The batch returns if the launch does, and tries to save its report on the disk that the launch
leaves. -/
theorem run_runBatch_here (here : o.dispatch.isolated = false) :
    ((o.runBatch suites outputRoot times).run s).1 =
        (o.launch outputRoot times suites s).1.map (fun results =>
          o.reportOn outputRoot times s (entriesFrom times resultEntry 0 (shares suites) results)) ∧
      ∀ report, ((o.runBatch suites outputRoot times).run s).1 = .ok report →
        ((o.runBatch suites outputRoot times).run s).2.world.disk =
          ((Access.saveReport report).run (o.launch outputRoot times suites s).2.disk).2 := by
  obtain ⟨t, ran, left⟩ :=
    runFrom_here here outputRoot times 0 0.0 (shares suites) (opened outputRoot s)
  have launched : Launch.runFrom o.registry (o.environment outputRoot) times.clocks 0
    ((shares suites).map alone) (opened outputRoot s).world = o.launch outputRoot times suites s := rfl
  rw [launched] at ran left
  obtain ⟨answer, disk⟩ := run_runBatch ran
  rw [answer]
  cases ended : (o.launch outputRoot times suites s).1 with
  | error c => exact ⟨rfl, nofun⟩
  | ok results =>
    refine ⟨rfl, fun report same => ?_⟩
    cases same
    rw [disk _ (by rw [ended]; rfl), left]

theorem exists_launch_of_report (here : o.dispatch.isolated = false) {report : BatchReport}
    (reported : ((o.runBatch suites outputRoot times).run s).1 = .ok report) :
    ∃ results, (o.launch outputRoot times suites s).1 = .ok results ∧
      report = o.reportOn outputRoot times s (entriesFrom times resultEntry 0 (shares suites) results) := by
  rw [(run_runBatch_here here).1] at reported
  cases ended : (o.launch outputRoot times suites s).1 with
  | error c =>
    rw [ended] at reported
    cases reported
  | ok results =>
    rw [ended] at reported
    cases reported
    exact ⟨results, rfl, rfl⟩

/-- The entry of a suite that was launched in a window from a world. -/
structure Launched (o : Orchestrator) (outputRoot : String) (clock : Clock) (suite : String)
    (window : Window Float) (w : World) (entry : SuiteOutcome) : Prop where
  suite_eq : entry.suite = suite
  window_eq : entry.window = window
  exitCode_eq : entry.exitCode = none
  /-- A suite that is unknown or cannot be prepared failed, and its error is the message. -/
  failed : ∀ e, Fatal o.registry (o.environment outputRoot) clock suite (window.slice 0 1) w e →
    entry.status = .failed ∧ entry.message = some e.text
  completed : (∀ e, ¬ Fatal o.registry (o.environment outputRoot) clock suite (window.slice 0 1) w e) →
    entry.status = .completed ∧ entry.message = none

theorem launched_of_tells {clock : Clock} {suite : String} {window : Window Float} {w : World}
    {r : LaunchResult Float} (elapsed : Nat)
    (tells : Tells o.registry (o.environment outputRoot) clock suite (window.slice 0 1) w r) :
    Launched o outputRoot clock suite window w
      { resultEntry suite window r with elapsed } := by
  rcases r with ⟨id, part, outcome⟩
  cases outcome with
  | ok summary =>
    refine ⟨rfl, rfl, rfl, fun e fatal => ?_, fun _ => ⟨rfl, rfl⟩⟩
    cases tells.failed_iff.mpr fatal
  | error e' =>
    refine ⟨rfl, rfl, rfl, fun e fatal => ?_, fun none => ?_⟩
    · cases tells.failed_iff.mpr fatal
      exact ⟨rfl, rfl⟩
    · exact absurd (tells.failed_iff.mp rfl) (none e')

/-- What is known of a batch within one process: when it returns, and what its report tells. -/
structure Answers (o : Orchestrator) (outputRoot : String) (times : BatchTimes)
    (suites : List String) (s : Stage) : Prop where
  returns_iff : (∃ report, ((o.runBatch suites outputRoot times).run s).1 = .ok report) ↔
    AllContained o.registry (o.environment outputRoot) times.clocks 0 ((shares suites).map alone)
      (opened outputRoot s).world
  length_eq : ∀ report, ((o.runBatch suites outputRoot times).run s).1 = .ok report →
    report.suites.length = suites.length
  launched : ∀ report, ((o.runBatch suites outputRoot times).run s).1 = .ok report →
    ∀ i (h : i < suites.length) (h' : i < report.suites.length),
      Launched o outputRoot (times.clocks i) suites[i] (Window.full.slice i suites.length)
        (reached o outputRoot times suites s i) report.suites[i]
  /-- If the disk that the suites leave takes the report, it is in its file in the end. -/
  saved : ∀ report path d, ((o.runBatch suites outputRoot times).run s).1 = .ok report →
    (Access.saveReport report).run (reached o outputRoot times suites s suites.length).disk =
      (.ok path, d) →
    ((o.runBatch suites outputRoot times).run s).2.world.disk.find?
      (Path.join outputRoot BatchReport.fileName) = some (.file (Bytes.ofText report.render))

/-- A batch within one process answers for all its suites. -/
theorem answers (here : o.dispatch.isolated = false) : Answers o outputRoot times suites s where
  returns_iff := by
    rw [← runFrom_returns_iff]
    constructor
    · intro ⟨report, reported⟩
      obtain ⟨results, launched, -⟩ := exists_launch_of_report here reported
      exact ⟨results, launched⟩
    · intro ⟨results, launched⟩
      have ended : (o.launch outputRoot times suites s).1 = .ok results := launched
      rw [(run_runBatch_here here).1, ended]
      exact ⟨_, rfl⟩
  length_eq := by
    intro report reported
    obtain ⟨results, launched, rfl⟩ := exists_launch_of_report here reported
    have lengths := (tells_of_runFrom launched).1
    rw [length_alone, ← length_shares] at lengths
    exact (length_entriesFrom lengths).trans length_shares
  launched := by
    intro report reported i h h'
    obtain ⟨results, launched, rfl⟩ := exists_launch_of_report here reported
    obtain ⟨length, tells⟩ := tells_of_runFrom launched
    have inside : i < results.length := by rw [length, length_alone]; exact h
    have listed : i < (shares suites).length := by rw [length_shares]; exact h
    have told := tells i (by rw [length_alone]; exact h) inside
    rw [List.getElem_map, Nat.zero_add, getElem_shares listed h] at told
    have entry : (o.reportOn outputRoot times s (entriesFrom times resultEntry 0 (shares suites) results)).suites[i] =
        { resultEntry suites[i] (Window.full.slice i suites.length) results[i] with
          elapsed := times.elapsed i } := by
      have at' := getElem_entriesFrom h' listed inside
      rw [getElem_shares listed h, Nat.zero_add] at at'
      exact at'
    rw [entry]
    exact launched_of_tells (times.elapsed i) told
  saved := by
    intro report path d reported saved
    obtain ⟨results, launched, rfl⟩ := exists_launch_of_report here reported
    have all : reached o outputRoot times suites s suites.length =
        (o.launch outputRoot times suites s).2 := by
      unfold reached worldAt launch
      rw [List.take_of_length_le (Nat.le_of_eq length_alone)]
    rw [all] at saved
    rw [(run_runBatch_here here).2 _ reported, saved]
    obtain ⟨rfl, filed⟩ := find?_of_saveReport saved
    exact filed

/-- A launch returns exactly if all its suites are contained, and then has one result for each, in
order; so does a batch within one process, whose report is then in its file if the disk takes it. -/
theorem answers_of_suites (o : Orchestrator) (here : o.dispatch.isolated = false)
    (suites : List String) (env : Environment) (clocks : Clocks) (window : Window Float) (w : World)
    (outputRoot : String) (times : BatchTimes) (s : Stage) :
    Launch.Answers o.registry env clocks window suites w ∧ Answers o outputRoot times suites s :=
  ⟨Launch.answers, answers here⟩

/-- How to make a suite without state. -/
def stateless (id : String) (suite : Suite Float Unit) : Definition Float where
  id := id
  make env := .ok (.new id suite () env)

/-- Suites that fail, each in its way: one cannot be prepared, one refuses its only group, one panics
at its end. -/
def faulty : Registry Float where
  definitions :=
    [stateless "gone"
        { setUp := throw (.panicking "not today"), operations := pure [] },
      stateless "picky" Engine.refusing,
      stateless "sour"
        { operations := pure [], tearDown := throw (.panicking "no end") }]

/-- A batch of faulty suites within one process. -/
def inOne : Orchestrator where
  dispatch := { isolated := false }
  registry := faulty
  workers := .ofPrograms "" []

/-- When the batches start and end. -/
def epoch : BatchTimes := { started := .ofNanoseconds 0, finished := .ofNanoseconds 0 }

theorem answers_of_suites_faulty : ∃ report,
    ((inOne.runBatch ["gone", "nowhere", "picky"] "" epoch).run (start {})).1 = .ok report ∧
      report.suites.length = 3 ∧
      report.suites.map (·.status) = [.failed, .failed, .completed] := by
  have statuses : ((inOne.runBatch ["gone", "nowhere", "picky"] "" epoch).run (start {})).1.toOption.map
      (fun report => report.suites.map (·.status)) = some [.failed, .failed, .completed] := by
    decide +kernel
  obtain ⟨-, answers⟩ := answers_of_suites inOne rfl ["gone", "nowhere", "picky"] ⟨"", .empty⟩
    (fun _ _ => 0) .full {} "" epoch (start {})
  obtain ⟨report, reported, told⟩ := exists_ok_of_map statuses
  exact ⟨report, reported, answers.length_eq report reported, told⟩

/-- Nothing guards against a panic at the end of a suite: it takes the batch with it. -/
example : ((inOne.runBatch ["sour", "picky"] "" epoch).run (start {})).1.toOption.isNone = true := by
  decide +kernel

end Reports

end Orchestrator

end Microbench
