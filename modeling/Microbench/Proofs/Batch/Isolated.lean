import Microbench.Proofs.Batch.Orchestrator
import Microbench.Proofs.Launch

/-!
# Batches of workers

What a batch makes of the fates of its workers. The entry of a suite is a function of the fate of its
own worker (`entryOf`), and the batch goes on whatever that fate is.

* `run_runFrom_isolated`: the suites of such a batch come to the entries of their workers' fates.
* `exists_report`: the batch always returns, and its report has one entry for each suite, in order.
-/

namespace Microbench.Orchestrator

variable {o : Orchestrator} {outputRoot : String} {times : BatchTimes} {s t : Stage} {suite : String}
  {window : Window Float}

/-! ## One worker -/

/-- What becomes of a worker: why it was of no use, or how it ended. -/
abbrev WorkerFate := Except WorkerTrouble ExitStatus

/-- The fate of the worker of a suite that starts on a disk, and the disk that it leaves. A worker
whose program cannot be told cannot be started. -/
def attempt (o : Orchestrator) (outputRoot : String) (suite : String) (window : Window Float)
    (disk : Disk) : WorkerFate × Disk :=
  match o.program disk with
  | .error e => (.error (.notSpawned e), disk)
  | .ok path =>
    let (run, disk) := o.workers.run (WorkerCommand.new o.dispatch path suite window outputRoot) disk
    (run.outcome, disk)

/-- The entry of a suite, from the fate of its worker. -/
def entryOf (suite : String) (window : Window Float) : WorkerFate → SuiteOutcome
  | .ok status => endedOutcome suite window status
  | .error e => troubledOutcome suite window e.message

/-- The stage after an event was noted. -/
def noted (e : Event) (s : Stage) : Stage := { s with world := s.world.note e }

theorem run_then {α β : Type} {x : Orchestration α} {f : α → Orchestration β} {a : α}
    (h : x.run s = (a, t)) : (x >>= f).run s = (f a).run t := by
  have step : (x >>= f).run s = (f (x.run s).1).run (x.run s).2 := rfl
  rw [step, h]

theorem run_note (e : Event) : (note e).run s = ((), noted e s) := rfl

theorem run_startWorker {c : WorkerCommand} {run : WorkerRun} {disk : Disk}
    (started : o.workers.run c s.world.disk = (run, disk)) :
    (o.startWorker c).run s = (run, { s with world := { s.world with disk } }) := by
  have step : (o.startWorker c).run s = ((o.workers.run c s.world.disk).1,
    { s with world := { s.world with disk := (o.workers.run c s.world.disk).2 } }) := rfl
  rw [step, started]

/-- Relaying leaves the disk as it is. -/
theorem run_relayOutput (o : Orchestrator) (run : WorkerRun) (s : Stage) :
    ∃ t, (o.relayOutput run).run s = ((), t) ∧ t.world.disk = s.world.disk :=
  ⟨((o.relayOutput run).run s).2, rfl, World.disk_noteAll _ _⟩

/-- Supervising a worker answers its fate. -/
theorem run_supervise (suite : String) {c : WorkerCommand} {run : WorkerRun} {disk : Disk}
    (started : o.workers.run c s.world.disk = (run, disk)) :
    ∃ t, (o.supervise suite c).run s = (run.outcome, t) ∧ t.world.disk = disk := by
  have started : ∀ e, o.workers.run c (noted e s).world.disk = (run, disk) := fun _ => started
  unfold supervise
  rw [run_then (run_note _), run_then (run_startWorker (started _))]
  cases run.outcome with
  | error e =>
    cases e with
    | notSpawned e => exact ⟨_, rfl, rfl⟩
    | notWired reason => exact ⟨_, rfl, rfl⟩
    | notAwaited e =>
      obtain ⟨t, relayed, left⟩ := run_relayOutput o run _
      rw [run_then relayed]
      exact ⟨t, rfl, left⟩
  | ok status =>
    obtain ⟨t, relayed, left⟩ := run_relayOutput o run _
    rw [run_then relayed]
    exact ⟨_, rfl, left⟩

/-- A suite comes to the entry of its worker's fate, whatever that is. -/
theorem run_runIsolated (o : Orchestrator) (suite : String) (window : Window Float)
    (outputRoot : String) (s : Stage) :
    ∃ t, (o.runIsolated suite window outputRoot).run s =
        (entryOf suite window (o.attempt outputRoot suite window s.world.disk).1, t) ∧
      t.world.disk = (o.attempt outputRoot suite window s.world.disk).2 := by
  have got : (get : Orchestration Stage).run s = (s, s) := rfl
  unfold runIsolated attempt
  rw [run_then got]
  cases program : o.program s.world.disk with
  | error e => exact ⟨_, rfl, rfl⟩
  | ok path =>
    rcases started : o.workers.run (WorkerCommand.new o.dispatch path suite window outputRoot)
      s.world.disk with ⟨run, disk⟩
    obtain ⟨t, supervised, left⟩ := run_supervise suite started
    simp only [started]
    rw [run_then supervised]
    cases run.outcome with
    | error e => exact ⟨_, rfl, left⟩
    | ok status =>
      cases noise : (endedOutcome suite window status).message with
      | none => simp only [noise]; exact ⟨_, rfl, left⟩
      | some text => simp only [noise]; exact ⟨_, rfl, left⟩

/-! ## Entries and fates -/

/-- Whether a worker ended well. -/
def succeeded : WorkerFate → Bool
  | .ok status => status.isSuccess
  | .error _ => false

/-- The entry of a suite in a window, as the fate of its worker has it. -/
structure Recorded (suite : String) (window : Window Float) (fate : WorkerFate)
    (entry : SuiteOutcome) : Prop where
  suite_eq : entry.suite = suite
  window_eq : entry.window = window
  completed_iff : entry.status = .completed ↔ fate = .ok (.exited 0)
  /-- The worker could not be built, spawned, wired or waited for. -/
  launchFailed_iff : entry.status = .launchFailed ↔ ∃ e, fate = .error e
  failed_iff : entry.status = .failed ↔ ∃ status, fate = .ok status ∧ status ≠ .exited 0
  exitCode_iff : ∀ code, entry.exitCode = some code ↔ fate = .ok (.exited code)
  message_iff : entry.message.isSome = true ↔ entry.status ≠ .completed

theorem recorded_troubled (suite : String) (window : Window Float) (e : WorkerTrouble) :
    Recorded suite window (.error e) (troubledOutcome suite window e.message) :=
  ⟨rfl, rfl, ⟨nofun, nofun⟩, ⟨fun _ => ⟨e, rfl⟩, fun _ => rfl⟩, ⟨nofun, nofun⟩,
    fun _ => ⟨nofun, nofun⟩, ⟨nofun, fun _ => rfl⟩⟩

theorem code?_eq_some_iff {status : ExitStatus} {code : Int} :
    status.code? = some code ↔ status = .exited code := by
  cases status <;> simp [ExitStatus.code?]

theorem recorded_ended (suite : String) (window : Window Float) (status : ExitStatus) :
    Recorded suite window (.ok status) (endedOutcome suite window status) := by
  have codes : ∀ code, status.code? = some code ↔ (.ok status : WorkerFate) = .ok (.exited code) := by
    intro code
    rw [code?_eq_some_iff, Except.ok.injEq]
  unfold endedOutcome
  by_cases well : status.isSuccess = true
  · have same : status = .exited 0 := eq_of_beq well
    rw [if_pos well]
    refine ⟨rfl, rfl, ⟨fun _ => congrArg _ same, fun _ => rfl⟩, ⟨nofun, nofun⟩, ⟨nofun, ?_⟩, codes,
      ⟨nofun, fun other => absurd rfl other⟩⟩
    intro ⟨status', same', other⟩
    cases same'
    exact absurd same other
  · have other : status ≠ .exited 0 := fun same => well (beq_iff_eq.mpr same)
    rw [if_neg well]
    refine ⟨rfl, rfl, ⟨nofun, ?_⟩, ⟨nofun, nofun⟩, ⟨fun _ => ⟨status, rfl, other⟩, fun _ => rfl⟩, codes,
      ⟨nofun, fun _ => rfl⟩⟩
    intro same
    exact absurd (Except.ok.inj same) other

theorem recorded_entryOf (suite : String) (window : Window Float) (fate : WorkerFate) :
    Recorded suite window fate (entryOf suite window fate) := by
  cases fate with
  | error e => exact recorded_troubled suite window e
  | ok status => exact recorded_ended suite window status

/-- How long a suite took is nothing to the fate of its worker. -/
theorem Recorded.timed {suite : String} {window : Window Float} {fate : WorkerFate}
    {entry : SuiteOutcome} (recorded : Recorded suite window fate entry) (elapsed : Nat) :
    Recorded suite window fate { entry with elapsed } :=
  ⟨recorded.suite_eq, recorded.window_eq, recorded.completed_iff, recorded.launchFailed_iff,
    recorded.failed_iff, recorded.exitCode_iff, recorded.message_iff⟩

/-! ## One worker after the other -/

/-- The fates of the workers of some suites, each started on the disk that those before it leave. -/
def attempts (o : Orchestrator) (outputRoot : String) :
    List (String × Window Float) → Disk → List WorkerFate
  | [], _ => []
  | (suite, window) :: rest, disk =>
    (o.attempt outputRoot suite window disk).1 ::
      attempts o outputRoot rest (o.attempt outputRoot suite window disk).2

theorem length_attempts (list : List (String × Window Float)) (disk : Disk) :
    (o.attempts outputRoot list disk).length = list.length := by
  induction list generalizing disk with
  | nil => rfl
  | cons share rest ih => exact congrArg Nat.succ (ih _)

/-- The suites of a batch of workers come to the entries of their workers' fates. -/
theorem run_runFrom_isolated (isolated : o.dispatch.isolated = true) (outputRoot : String)
    (times : BatchTimes) (place : Nat) (before : Float) (list : List (String × Window Float))
    (s : Stage) :
    ∃ t, (o.runFrom outputRoot times place before list).run s =
      (.ok (entriesFrom times entryOf place list (o.attempts outputRoot list s.world.disk)), t) := by
  induction list generalizing place before s with
  | nil => exact ⟨s, rfl⟩
  | cons share rest ih =>
    rcases share with ⟨suite, window⟩
    obtain ⟨t, ran, left⟩ := run_runIsolated o suite window outputRoot (announced suite s)
    have entered : (o.runSuite suite window outputRoot (times.clocks place)).run (announced suite s) =
        (.ok (entryOf suite window (o.attempt outputRoot suite window s.world.disk).1), t) := by
      unfold runSuite
      rw [if_pos isolated]
      exact congrArg (fun r => (Except.ok r.1, r.2)) ran
    obtain ⟨u, later⟩ := ih (place + 1) (before + window.size) (advanced (before + window.size) t)
    refine ⟨u, ?_⟩
    have disk : (advanced (before + window.size) t).world.disk =
        (o.attempt outputRoot suite window s.world.disk).2 := left
    rw [run_runFrom_of_ok entered, later, disk]
    rfl

/-! ## Reports -/

/-- The fates of the workers of a batch. -/
def fates (o : Orchestrator) (outputRoot : String) (suites : List String) (s : Stage) :
    List WorkerFate :=
  o.attempts outputRoot (shares suites) s.world.disk

theorem failed_entryOf (suite : String) (window : Window Float) (fate : WorkerFate) :
    ((entryOf suite window fate).status != .completed) = !succeeded fate := by
  cases fate with
  | error e => rfl
  | ok status =>
    have entry : entryOf suite window (.ok status) = endedOutcome suite window status := rfl
    have good : succeeded (.ok status) = status.isSuccess := rfl
    rw [entry, good]
    unfold endedOutcome
    cases status.isSuccess <;> rfl

theorem failed_entriesFrom (times : BatchTimes) (place : Nat) {list : List (String × Window Float)}
    {fates : List WorkerFate} (length : fates.length = list.length) :
    ((entriesFrom times entryOf place list fates).filter fun e => e.status != .completed).length =
      (fates.filter fun fate => !succeeded fate).length := by
  induction list generalizing place fates with
  | nil =>
    cases List.eq_nil_of_length_eq_zero length
    rfl
  | cons share rest ih =>
    rcases share with ⟨suite, window⟩
    cases fates with
    | nil => cases length
    | cons fate fates =>
      have later := ih (place + 1) (Nat.succ.inj length)
      have first := failed_entryOf suite window fate
      unfold entriesFrom
      simp only [List.filter_cons, first]
      cases succeeded fate with
      | true => exact later
      | false => exact congrArg Nat.succ later

/-- What the report of a batch of workers tells. -/
structure Tells (o : Orchestrator) (outputRoot : String) (times : BatchTimes)
    (suites : List String) (s : Stage) (report : BatchReport) : Prop where
  length_eq : report.suites.length = suites.length
  recorded : ∀ i (h : i < suites.length) (h' : i < report.suites.length)
    (h'' : i < (o.fates outputRoot suites s).length),
    Recorded suites[i] (Window.full.slice i suites.length) (o.fates outputRoot suites s)[i]
      report.suites[i]
  /-- An entry is made of the fate of its own worker and of no other one. -/
  own : ∀ i (h : i < suites.length) (h' : i < report.suites.length)
    (h'' : i < (o.fates outputRoot suites s).length),
    report.suites[i] =
      { entryOf suites[i] (Window.full.slice i suites.length) (o.fates outputRoot suites s)[i] with
        elapsed := times.elapsed i }
  failedCount_eq : report.failedCount =
    ((o.fates outputRoot suites s).filter fun fate => !succeeded fate).length

/-- A batch of workers always comes to a report. -/
theorem exists_report (isolated : o.dispatch.isolated = true) (outputRoot : String)
    (times : BatchTimes) (suites : List String) (s : Stage) :
    ∃ report, ((o.runBatch suites outputRoot times).run s).1 = .ok report ∧
      Tells o outputRoot times suites s report := by
  obtain ⟨t, ran⟩ := run_runFrom_isolated isolated outputRoot times 0 0.0 (shares suites)
    (opened outputRoot s)
  have lengths : (o.fates outputRoot suites s).length = (shares suites).length := length_attempts _ _
  have entry : ∀ i (h : i < suites.length)
      (h' : i < (entriesFrom times entryOf 0 (shares suites) (o.fates outputRoot suites s)).length)
      (h'' : i < (o.fates outputRoot suites s).length),
      (entriesFrom times entryOf 0 (shares suites) (o.fates outputRoot suites s))[i] =
        { entryOf suites[i] (Window.full.slice i suites.length) (o.fates outputRoot suites s)[i] with
          elapsed := times.elapsed i } := by
    intro i h h' h''
    have listed : i < (shares suites).length := by rw [length_shares]; exact h
    have at' := getElem_entriesFrom h' listed h''
    rw [getElem_shares listed h, Nat.zero_add] at at'
    exact at'
  refine ⟨_, (run_runBatch ran).1, ?_⟩
  exact
    { length_eq := (length_entriesFrom lengths).trans length_shares
      recorded := by
        intro i h h' h''
        have same := entry i h h' h''
        exact same ▸ (recorded_entryOf _ _ _).timed _
      own := entry
      failedCount_eq := failed_entriesFrom times 0 lengths }

end Microbench.Orchestrator
