import Microbench.Batch.Orchestrator
import Microbench.Proofs.Disk.Writing

/-!
# Batches and their reports

What a batch does around its suites: the equations for one suite after the other, and for the report
at the end.

* `run_runBatch`: the batch reports on the entries that its suites come to.
* `find?_of_saveReport`: a report that could be saved is in its file.
-/

namespace Microbench

theorem Window.getElem_zip_split {κ α : Type} [Arithmetic κ] {window : Window κ} {as : List α} {i : Nat}
    (h : i < (as.zip (window.split as.length)).length) (h' : i < as.length) :
    (as.zip (window.split as.length))[i] = (as[i], window.slice i as.length) := by
  simp [Window.split]

namespace Orchestrator

variable {o : Orchestrator} {outputRoot : String} {times : BatchTimes} {s t : Stage}

theorem run_showProgress (f : ProgressBar → ProgressBar) :
    (showProgress f).run s = (.ok (), { s with bar := f s.bar }) := rfl

/-! ## One suite after the other -/

section Suites

variable {place : Nat} {before : Float} {suite : String} {window : Window Float}
  {rest : List (String × Window Float)}

/-- The stage when a suite starts. -/
def announced (suite : String) (s : Stage) : Stage := { s with bar := { s.bar with message := suite } }

/-- The stage when a suite has ended, with the progress after it. -/
def advanced (progress : Float) (s : Stage) : Stage :=
  { s with bar := s.bar.moveTo progress.round.toUInt64.toNat }

theorem run_announce (suite : String) :
    (showProgress fun b => { b with message := suite }).run s = (.ok (), announced suite s) := rfl

theorem run_advance (progress : Float) :
    (showProgress (·.moveTo progress.round.toUInt64.toNat)).run s =
      (.ok (), advanced progress s) := rfl

/-- A suite that comes to an entry adds it to the entries of those after it. -/
theorem run_runFrom_of_ok {outcome : SuiteOutcome}
    (ran : (o.runSuite suite window outputRoot (times.clocks place)).run (announced suite s) =
      (.ok outcome, t)) :
    (o.runFrom outputRoot times place before ((suite, window) :: rest)).run s =
      (((o.runFrom outputRoot times (place + 1) (before + window.size) rest).run
          (advanced (before + window.size) t)).1.map
          ({ outcome with elapsed := times.elapsed place } :: ·),
        ((o.runFrom outputRoot times (place + 1) (before + window.size) rest).run
          (advanced (before + window.size) t)).2) := by
  rw [runFrom, run_bind_of_ok (run_announce suite), run_bind_of_ok ran,
    run_bind_of_ok (run_advance (before + window.size))]
  rcases later : (o.runFrom outputRoot times (place + 1) (before + window.size) rest).run
    (advanced (before + window.size) t) with ⟨answer, u⟩
  cases answer with
  | error c => rw [run_bind_of_error later]; rfl
  | ok outcomes => rw [run_bind_of_ok later]; rfl

/-- A suite that crashes ends the batch. -/
theorem run_runFrom_of_error {c : Crash}
    (ran : (o.runSuite suite window outputRoot (times.clocks place)).run (announced suite s) =
      (.error c, t)) :
    (o.runFrom outputRoot times place before ((suite, window) :: rest)).run s = (.error c, t) := by
  rw [runFrom, run_bind_of_ok (run_announce suite), run_bind_of_error ran]

end Suites

/-! ## What a suite keeps -/

/-- Work that a property of the stage survives. -/
def Keeps {α : Type} (P : Stage → Prop) (x : Orchestration α) : Prop := ∀ s, P s → P (x.run s).2

section Keeps

variable {α β : Type} {P : Stage → Prop}

theorem Keeps.pure (a : α) : Keeps P (pure a : Orchestration α) := fun _ holds => holds

theorem Keeps.bind {x : Orchestration α} {f : α → Orchestration β} (first : Keeps P x)
    (second : ∀ a, Keeps P (f a)) : Keeps P (x >>= f) :=
  fun s holds => second (x.run s).1 (x.run s).2 (first s holds)

variable (world : ∀ s w, P s → P { s with world := w })
  (relay : ∀ run, Keeps P (o.relayOutput run))

include world

theorem keeps_note (e : Event) : Keeps P (note e) := fun s holds => world s _ holds

include relay

theorem keeps_supervise (suite : String) (c : WorkerCommand) : Keeps P (o.supervise suite c) := by
  have started : Keeps P (o.startWorker c) := fun s holds => world s _ holds
  unfold supervise
  refine (keeps_note world _).bind fun _ => started.bind fun run => ?_
  cases run.outcome with
  | error e =>
    cases e with
    | notSpawned e => exact .pure _
    | notWired reason => exact .pure _
    | notAwaited e => exact (relay run).bind fun _ => .pure _
  | ok status => exact (relay run).bind fun _ => (keeps_note world _).bind fun _ => .pure _

theorem keeps_runIsolated (suite : String) (window : Window Float) (outputRoot : String) :
    Keeps P (o.runIsolated suite window outputRoot) := by
  have got : Keeps P (get : Orchestration Stage) := fun _ holds => holds
  unfold runIsolated
  refine got.bind fun s => ?_
  cases o.program s.world.disk with
  | error e => exact (keeps_note world _).bind fun _ => .pure _
  | ok path =>
    refine (keeps_supervise world relay suite _).bind fun fate => ?_
    cases fate with
    | error e => exact (keeps_note world _).bind fun _ => .pure _
    | ok status =>
      cases noise : (endedOutcome suite window status).message with
      | none => simp only [noise]; exact .bind (.pure _) fun _ => .pure _
      | some text => simp only [noise]; exact (keeps_note world _).bind fun _ => .pure _

/-- A property that the world does not matter to and that relaying keeps is kept by a suite, in
whatever way it runs and whatever comes of it. -/
theorem keeps_runSuite (suite : String) (window : Window Float) (outputRoot : String) (clock : Clock)
    (holds : P s) : P ((o.runSuite suite window outputRoot clock).run s).2 := by
  unfold runSuite
  split
  · exact keeps_runIsolated world relay suite window outputRoot s holds
  · show P ((o.runHere suite window outputRoot clock) s).2
    unfold runHere
    simp only
    split <;> exact world s _ holds

end Keeps

/-! ## Entries -/

section Entries

variable {α : Type} {entry : String → Window Float → α → SuiteOutcome}

/-- The entries of suites from the one at a place, each from what came of it and the time that it
took. -/
def entriesFrom (times : BatchTimes) (entry : String → Window Float → α → SuiteOutcome) :
    Nat → List (String × Window Float) → List α → List SuiteOutcome
  | place, (suite, window) :: rest, a :: as =>
    { entry suite window a with elapsed := times.elapsed place } ::
      entriesFrom times entry (place + 1) rest as
  | _, _, _ => []

variable {place : Nat} {list : List (String × Window Float)} {as : List α}

theorem length_entriesFrom (length : as.length = list.length) :
    (entriesFrom times entry place list as).length = list.length := by
  induction list generalizing place as with
  | nil => rfl
  | cons share rest ih =>
    cases as with
    | nil => cases length
    | cons a as => exact congrArg Nat.succ (ih (Nat.succ.inj length))

theorem getElem_entriesFrom {i : Nat} (h : i < (entriesFrom times entry place list as).length)
    (h' : i < list.length) (h'' : i < as.length) :
    (entriesFrom times entry place list as)[i] =
      { entry list[i].1 list[i].2 as[i] with elapsed := times.elapsed (place + i) } := by
  induction list generalizing place as i with
  | nil => cases h'
  | cons share rest ih =>
    cases as with
    | nil => cases h''
    | cons a as =>
      cases i with
      | zero => rfl
      | succ i =>
        have h : i < (entriesFrom times entry (place + 1) rest as).length :=
          Nat.lt_of_succ_lt_succ h
        have later := ih h (Nat.lt_of_succ_lt_succ h') (Nat.lt_of_succ_lt_succ h'')
        rw [Nat.add_right_comm] at later
        exact later

end Entries

/-! ## The report -/

section Report

variable {suites : List String}

/-- The suites of a batch, each with its window. -/
def shares (suites : List String) : List (String × Window Float) :=
  suites.zip (Window.full.split suites.length)

theorem length_shares : (shares suites).length = suites.length := by simp [shares]

theorem getElem_shares {i : Nat} (h : i < (shares suites).length) (h' : i < suites.length) :
    (shares suites)[i] = (suites[i], Window.full.slice i suites.length) :=
  Window.getElem_zip_split h h'

/-- The stage when the first suite of a batch starts. -/
def opened (outputRoot : String) (s : Stage) : Stage where
  relays := s.relays
  bar := s.bar.moveTo 0
  world := s.world.print ("Output directory: " ++ outputRoot ++ "\n")

/-- The report of a batch on some entries. -/
def reportOn (o : Orchestrator) (outputRoot : String) (times : BatchTimes) (s : Stage)
    (outcomes : List SuiteOutcome) : BatchReport where
  started := times.started
  finished := some times.finished
  outputRoot := outputRoot
  isolated := o.dispatch.isolated
  host := s.world.host
  suites := outcomes

/-- The stage when the last suite of a batch has ended. -/
def filled (s : Stage) : Stage := { s with bar := { s.bar.moveTo 100 with message := "done" } }

/-- The first steps of a batch, up to its suites. -/
theorem run_runBatch_eq (o : Orchestrator) (suites : List String) (outputRoot : String)
    (times : BatchTimes) (s : Stage) : (o.runBatch suites outputRoot times).run s =
      (do
        let outcomes ← o.runFrom outputRoot times 0 0.0 (shares suites)
        showProgress fun b => { b.moveTo 100 with message := "done" }
        let report ← writeReport
          { started := times.started, outputRoot, isolated := o.dispatch.isolated
            host := s.world.host, suites := outcomes } times.finished
        change (·.print ("Results written to " ++ outputRoot ++ "\n"))
        return report : Crashing BatchReport).run (opened outputRoot s) := rfl

/-- A batch whose suites come to entries reports on them and tries to save the report. -/
theorem run_runBatch_of_ok {outcomes : List SuiteOutcome}
    (ran : (o.runFrom outputRoot times 0 0.0 (shares suites)).run (opened outputRoot s) =
      (.ok outcomes, t)) :
    ∃ u, (o.runBatch suites outputRoot times).run s = (.ok (o.reportOn outputRoot times s outcomes), u) ∧
      u.bar = (filled t).bar ∧
      u.world.disk = ((Access.saveReport (o.reportOn outputRoot times s outcomes)).run t.world.disk).2 := by
  rw [run_runBatch_eq, run_bind_of_ok ran, run_bind_of_ok (run_showProgress _)]
  exact ⟨_, rfl, rfl, rfl⟩

/-- A suite that crashes ends the batch without a report. -/
theorem run_runBatch_of_error {c : Crash}
    (ran : (o.runFrom outputRoot times 0 0.0 (shares suites)).run (opened outputRoot s) =
      (.error c, t)) :
    (o.runBatch suites outputRoot times).run s = (.error c, t) := by
  rw [run_runBatch_eq, run_bind_of_error ran]

/-- A batch reports on the entries of its suites, if they come to any, and tries to save the
report. -/
theorem run_runBatch {answer : Except Crash (List SuiteOutcome)}
    (ran : (o.runFrom outputRoot times 0 0.0 (shares suites)).run (opened outputRoot s) =
      (answer, t)) :
    ((o.runBatch suites outputRoot times).run s).1 = answer.map (o.reportOn outputRoot times s) ∧
      ∀ outcomes, answer = .ok outcomes →
        ((o.runBatch suites outputRoot times).run s).2.world.disk =
          ((Access.saveReport (o.reportOn outputRoot times s outcomes)).run t.world.disk).2 := by
  cases answer with
  | error c =>
    rw [run_runBatch_of_error ran]
    exact ⟨rfl, nofun⟩
  | ok outcomes =>
    obtain ⟨u, run, -, disk⟩ := run_runBatch_of_ok ran
    rw [run]
    refine ⟨rfl, fun outcomes' same => ?_⟩
    cases same
    exact disk

/-- A report that could be saved is in its file. -/
theorem find?_of_saveReport {r : BatchReport} {path : String} {d d' : Disk}
    (saved : (Access.saveReport r).run d = (.ok path, d')) :
    path = Path.join r.outputRoot BatchReport.fileName ∧
      d'.find? path = some (.file (Bytes.ofText r.render)) := by
  unfold Access.saveReport at saved
  obtain ⟨_, d₁, _, saved⟩ := exists_of_run_bind_ok saved
  obtain ⟨_, d₂, written, saved⟩ := exists_of_run_bind_ok saved
  cases saved
  exact ⟨rfl, Access.find?_of_writeFile written⟩

end Report

end Orchestrator

end Microbench
