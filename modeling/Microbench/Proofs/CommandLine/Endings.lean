import Microbench.CommandLine.Process
import Microbench.Proofs.Batch.InProcess
import Microbench.Proofs.Batch.Isolated

/-!
# How command lines end

What comes of a batch comes out as the end of the command line: on the side of a worker, which ends
well exactly if its suites came to summaries, and on the side of the batch, which ends well exactly if
its workers did.

* `run_runWorker`: a worker ends as its suites did.
* `run_runPrepared`: a batch that has run ends as its report has it.
* `worker_fates_decide`: both, with the report on the fates of the workers.
-/

namespace Microbench.CommandLine

open Orchestrator (WorkerFate)

variable {w w' : World}

/-! ## Workers -/

/-- How a worker ends whose suites came to some results. -/
def workerVerdict (results : List (LaunchResult Float)) : Except RunStop Unit :=
  match abortedOf results with
  | [] => .ok ()
  | suites => .error (.failure (.aborted suites))

theorem abortedOf_eq_nil_iff {results : List (LaunchResult Float)} :
    abortedOf results = [] ↔ ∀ r ∈ results, ∃ summary, r.outcome = .ok summary := by
  unfold abortedOf
  rw [List.filterMap_eq_nil_iff]
  refine forall₂_congr fun r _ => ?_
  cases r.outcome with
  | ok summary => exact ⟨fun _ => ⟨summary, rfl⟩, fun _ => rfl⟩
  | error e => exact ⟨nofun, nofun⟩

/-- A worker ends well exactly if all its suites came to summaries. -/
theorem workerVerdict_eq_ok_iff {results : List (LaunchResult Float)} :
    workerVerdict results = .ok () ↔ ∀ r ∈ results, ∃ summary, r.outcome = .ok summary := by
  rw [← abortedOf_eq_nil_iff]
  unfold workerVerdict
  cases abortedOf results with
  | nil => exact ⟨fun _ => rfl, fun _ => rfl⟩
  | cons first rest => exact ⟨nofun, nofun⟩

/-- The launch that a worker is. -/
def launched (s : Surroundings) (c : CommandLine) (a : Assignment) (w : World) :
    Except Crash (List (LaunchResult Float)) × World :=
  Launch.run (Registry.ofDefinitions s.definitions).1 ⟨a.outputDirectory, .ofList c.properties⟩
    s.times.clocks a.window a.suites (w.noteAll (Registry.ofDefinitions s.definitions).2)

theorem run_launch_of_ok {registry : Registry Float} {clocks : Launch.Clocks} {p : Properties}
    {a : Assignment} {results : List (LaunchResult Float)}
    (ran : Launch.run registry ⟨a.outputDirectory, p⟩ clocks a.window a.suites w = (.ok results, w')) :
    (launch registry clocks p a).run w = (.ok results, w') := by
  change launch registry clocks p a w = _
  unfold launch
  rw [ran]

theorem run_launch_of_error {registry : Registry Float} {clocks : Launch.Clocks} {p : Properties}
    {a : Assignment} {crash : Crash}
    (ran : Launch.run registry ⟨a.outputDirectory, p⟩ clocks a.window a.suites w = (.error crash, w')) :
    (launch registry clocks p a).run w = (.error (.crash crash), w') := by
  change launch registry clocks p a w = _
  unfold launch
  rw [ran]

/-- A worker with well-formed arguments launches their suites, and ends as these did. -/
theorem run_runWorker {s : Surroundings} {c : CommandLine} {arguments : List String} {a : Assignment}
    (read : Assignment.ofArguments arguments = .ok a) :
    (runWorker s c arguments).run w =
      (match (launched s c a w).1 with
        | .ok results => workerVerdict results
        | .error crash => .error (.crash crash), (launched s c a w).2) := by
  have assigned : (orFail .badAssignment (Assignment.ofArguments arguments) : Running Assignment).run w =
      (.ok a, w) := by
    rw [read]
    rfl
  have noting : (modify (·.noteAll (Registry.ofDefinitions s.definitions).2) : Running Unit).run w =
    (.ok (), w.noteAll (Registry.ofDefinitions s.definitions).2) := rfl
  unfold runWorker
  rw [run_bind_of_ok assigned, run_bind_of_ok noting]
  rcases ran : launched s c a w with ⟨answer, w'⟩
  cases answer with
  | error crash => rw [run_bind_of_error (run_launch_of_error ran)]
  | ok results =>
    rw [run_bind_of_ok (run_launch_of_ok ran)]
    unfold workerVerdict
    dsimp only
    cases abortedOf results <;> rfl

/-- What another process sees of a worker whose suites came to some results. -/
theorem outcome_workerVerdict (results : List (LaunchResult Float)) (w : World) :
    (ending (workerVerdict results) w).outcome = .ok (.exited 0) ↔
      ∀ r ∈ results, ∃ summary, r.outcome = .ok summary := by
  rw [← workerVerdict_eq_ok_iff]
  unfold workerVerdict
  cases abortedOf results with
  | nil => exact ⟨fun _ => rfl, fun _ => rfl⟩
  | cons first rest =>
    refine ⟨fun well => ?_, nofun⟩
    have other : (.ok (.exited 1) : WorkerFate) = .ok (.exited 0) := well
    cases other

/-! ## Batches -/

/-- How a batch ends the command line. -/
def batchVerdict (report : BatchReport) : Except RunStop Unit :=
  if 0 < report.failedCount then
    .error (.failure (.incomplete report.failedCount report.suites.length))
  else .ok ()

theorem batchVerdict_eq_ok_iff {report : BatchReport} :
    batchVerdict report = .ok () ↔ report.failedCount = 0 := by
  unfold batchVerdict
  by_cases some : 0 < report.failedCount
  · rw [if_pos some]
    exact ⟨nofun, fun none => absurd none (Nat.ne_of_gt some)⟩
  · rw [if_neg some]
    exact ⟨fun _ => Nat.eq_zero_of_not_pos some, fun _ => rfl⟩

/-- How the command line ends with a batch: as its report has it, or in the crash that broke it off. -/
def batchEnd : Except Crash BatchReport → Except RunStop Unit
  | .ok report => batchVerdict report
  | .error c => .error (.crash c)

/-- The orchestrator of a prepared batch. -/
def orchestrator (s : Surroundings) (registry : Registry Float) (c : CommandLine) (f : SettingsFile)
    (p : Prepared) : Orchestrator :=
  { dispatch := dispatchOf c f p, registry, workers := s.workers }

/-- The stage on which a prepared batch starts. -/
def stageOf (c : CommandLine) (f : SettingsFile) (p : Prepared) (w : World) : Stage :=
  Orchestrator.start ((w.print ("Running " ++ Decimal.text p.suites.length ++ " suite(s)" ++
      (if (dispatchOf c f p).isolated then " (isolated)" else " (in-process)") ++ "...\n")).note
    ⟨.detail, "engine settings", [("settings", .text p.settings.shown)]⟩)

theorem run_orchestrate {o : Orchestrator} {suites : List String} {root : String}
    {times : BatchTimes} {answer : Except Crash BatchReport} {stage : Stage}
    (ran : (o.runBatch suites root times).run (Orchestrator.start w) = (answer, stage)) :
    (orchestrate o suites root times).run w = (answer.mapError .crash, stage.world) := by
  change orchestrate o suites root times w = _
  unfold orchestrate
  rw [ran]
  cases answer <;> rfl

section Prepared

variable {s : Surroundings} {registry : Registry Float} {c : CommandLine} {f : SettingsFile}
  {p : Prepared}

/-- Once its directory is there, a prepared batch is run, and how it ends is all that counts for how
the command line ends. -/
theorem run_runPrepared {root : String} {answer : Except Crash BatchReport} {stage : Stage}
    (made : (makeOutputRoot (OutputRoot.resolve c.output f.output s.temporary s.clock)).run w =
      (.ok root, w'))
    (ran : ((orchestrator s registry c f p).runBatch p.suites root s.times).run (stageOf c f p w') =
      (answer, stage)) :
    (runPrepared s registry c f p).run w = (batchEnd answer, stage.world) := by
  have printing : ∀ text, (print text).run w' = (.ok (), w'.print text) := fun _ => rfl
  have noting : ∀ e w, (modify (·.note e) : Running Unit).run w = (.ok (), w.note e) :=
    fun _ _ => rfl
  have step := run_orchestrate ran
  unfold orchestrator at step
  unfold runPrepared
  rw [run_bind_of_ok made, run_bind_of_ok (printing _), run_bind_of_ok (noting _ _)]
  cases answer with
  | error crash =>
    rw [run_bind_of_error step]
    rfl
  | ok report =>
    rw [run_bind_of_ok step]
    unfold batchEnd batchVerdict
    by_cases some : 0 < report.failedCount
    · rw [if_pos some]
      dsimp only
      rw [if_pos some]
      rfl
    · rw [if_neg some]
      dsimp only
      rw [if_neg some]
      rfl

/-- Without its directory a prepared batch is not run at all. -/
theorem run_runPrepared_of_refused {stop : RunStop}
    (refused : (makeOutputRoot (OutputRoot.resolve c.output f.output s.temporary s.clock)).run w =
      (.error stop, w')) :
    (runPrepared s registry c f p).run w = (.error stop, w') := by
  unfold runPrepared
  rw [run_bind_of_error refused]

end Prepared

/-- A directory that cannot be made is named by the error. -/
theorem eq_cannotCreate_of_makeOutputRoot {path : String} {stop : RunStop}
    (refused : (makeOutputRoot path).run w = (.error stop, w')) :
    ∃ e, stop = .failure (.cannotCreate path e) := by
  rcases made : w.access (Access.makeDirectories path) with ⟨answer, w₁⟩
  have asked : (access (Access.makeDirectories path) : Running _).run w = (.ok answer, w₁) := by
    change access (Access.makeDirectories path) w = _
    unfold access
    rw [made]
  unfold makeOutputRoot accessing at refused
  cases answer with
  | error e =>
    have failed : (do orFail (.cannotCreate path) (← access (Access.makeDirectories path)) :
        Running Unit).run w = (.error (.failure (.cannotCreate path e)), w₁) := by
      rw [run_bind_of_ok asked]
      rfl
    rw [run_bind_of_error failed] at refused
    cases refused
    exact ⟨e, rfl⟩
  | ok _ =>
    have done : (do orFail (.cannotCreate path) (← access (Access.makeDirectories path)) :
        Running Unit).run w = (.ok (), w₁) := by
      rw [run_bind_of_ok asked]
      rfl
    rw [run_bind_of_ok done] at refused
    cases refused

theorem run_runSuites {s : Surroundings} {registry : Registry Float} {c : CommandLine}
    {selects : String → Bool} {f : SettingsFile} {p : Prepared} {root : String} {w₁ w₂ : World}
    {report : BatchReport} (found : findSettings.run w = (.ok f, w₁))
    (prepared : prepare registry c f selects = .ok (some p))
    (made : (makeOutputRoot (OutputRoot.resolve c.output f.output s.temporary s.clock)).run w₁ =
      (.ok root, w₂))
    (ran : (((orchestrator s registry c f p).runBatch p.suites root s.times).run
      (stageOf c f p w₂)).1 = .ok report) :
    ((runSuites s registry c selects).run w).1 = batchVerdict report := by
  rcases batch : ((orchestrator s registry c f p).runBatch p.suites root s.times).run
    (stageOf c f p w₂) with ⟨answer, stage⟩
  rw [batch] at ran
  cases ran
  unfold runSuites runPlanned
  rw [run_bind_of_ok found, prepared]
  exact congrArg Prod.fst (run_runPrepared made batch)

/-! ## Both sides -/

/-- How the command line of a batch ends: badly exactly if an entry of the report is not that of a
completed suite. -/
def BatchEnds (s : Surroundings) (registry : Registry Float) (c : CommandLine)
    (selects : String → Bool) (w : World) : Prop :=
  ∀ f p root w₁ w₂ report, findSettings.run w = (.ok f, w₁) →
    prepare registry c f selects = .ok (some p) →
    (makeOutputRoot (OutputRoot.resolve c.output f.output s.temporary s.clock)).run w₁ =
      (.ok root, w₂) →
    (((orchestrator s registry c f p).runBatch p.suites root s.times).run (stageOf c f p w₂)).1 =
      .ok report →
    (((runSuites s registry c selects).run w).1 = .ok () ↔ report.failedCount = 0) ∧
      (report.failedCount ≠ 0 → ((runSuites s registry c selects).run w).1 =
        .error (.failure (.incomplete report.failedCount report.suites.length)))

/-- How a worker with well-formed arguments ends whose launch returns: well exactly if every suite
came to a summary, and so for the process that waits for it. -/
def WorkerEnds (s : Surroundings) (c : CommandLine) (w : World) : Prop :=
  ∀ arguments a results w', Assignment.ofArguments arguments = .ok a →
    launched s c a w = (.ok results, w') →
    (((runWorker s c arguments).run w).1 = .ok () ↔
        ∀ r ∈ results, ∃ summary, r.outcome = .ok summary) ∧
      ((ending ((runWorker s c arguments).run w).1 w').outcome = .ok (.exited 0) ↔
        ∀ r ∈ results, ∃ summary, r.outcome = .ok summary)

theorem batchEnds (s : Surroundings) (registry : Registry Float) (c : CommandLine)
    (selects : String → Bool) (w : World) : BatchEnds s registry c selects w := by
  intro f p root w₁ w₂ report found prepared made ran
  rw [run_runSuites found prepared made ran]
  refine ⟨batchVerdict_eq_ok_iff, fun some => ?_⟩
  unfold batchVerdict
  rw [if_pos (Nat.pos_of_ne_zero some)]

theorem workerEnds (s : Surroundings) (c : CommandLine) (w : World) : WorkerEnds s c w := by
  intro arguments a results w' read ran
  rw [run_runWorker read, ran]
  exact ⟨workerVerdict_eq_ok_iff, outcome_workerVerdict results w'⟩

/-- The fates of the workers decide on a batch: there is an entry for each, and the command line ends
as the entries are. On their side, workers end as their suites do. -/
theorem worker_fates_decide (o : Orchestrator) (isolated : o.dispatch.isolated = true)
    (suites : List String) (outputRoot : String) (times : BatchTimes) (stage : Stage)
    (s : Surroundings) (registry : Registry Float) (c : CommandLine) (selects : String → Bool)
    (w : World) :
    (∃ report, ((o.runBatch suites outputRoot times).run stage).1 = .ok report ∧
        o.Tells outputRoot times suites stage report) ∧
      BatchEnds s registry c selects w ∧ WorkerEnds s c w :=
  ⟨Orchestrator.exists_report isolated outputRoot times suites stage,
    batchEnds s registry c selects w, workerEnds s c w⟩

/-- Workers whose fate is up to the suite that they are for; after one was lost, their program cannot
be told any more. -/
def moody : Workers where
  self disk := if disk.here.isEmpty then .ok "bench" else .error (.system .noEntry)
  run command disk :=
    match command.arguments.getLast? with
    | some "good" => (.ended (.exited 0) "" "", disk)
    | some "bad" => (.ended (.exited 3) "" "", disk)
    | some "killed" => (.ended (.signalled 9) "" "", disk)
    | some "mute" => ({ outcome := .error (.notWired "no pipe") }, disk)
    | some "lost" =>
      ({ outcome := .error (.notAwaited (.system .noEntry)) }, { disk with here := ["lost"] })
    | _ => (.notSpawned (.system .accessDenied), disk)

/-- Suites by the fates of their workers. -/
def moods : List String := ["good", "bad", "killed", "mute", "shy", "lost", "good"]

/-- Where all workers are moody. -/
def hapless : Surroundings where
  definitions := moods.map fun id => Orchestrator.stateless id Engine.refusing
  workers := moody
  clock := ⟨2024, 3, 9, 14, 5, 7⟩
  times := Orchestrator.epoch

/-- The batch that a command line asks for with all of them. -/
def moodyBatch : Prepared where
  suites := moods
  settings := ⟨100000, 10, 1000000000⟩
  properties := suiteProperties { suites := moods } {} ⟨100000, 10, 1000000000⟩
  relayGrace := 2000000000

/-- What is left when the directory of the batch was made. -/
def moodyMade : Except RunStop String × World :=
  (makeOutputRoot (OutputRoot.resolve none {} hapless.temporary hapless.clock)).run
    (findSettings.run {}).2

theorem fst_moodyMade : moodyMade.1 = .ok "/tmp/isobench/20240309-140507" :=
  eq_ok_of_toOption (by decide +kernel)

theorem worker_fates_decide_moody :
    ((runSuites hapless ⟨hapless.definitions⟩ { suites := moods } fun _ => true).run {}).1 =
        .error (.failure (.incomplete 6 7)) ∧
      ∃ a results, Assignment.ofArguments ["out", "0", "100", "good"] = .ok a ∧
        (launched hapless {} a {}).1 = .ok results ∧
        (∀ r ∈ results, ∃ summary, r.outcome = .ok summary) ∧
        ((runWorker hapless {} ["out", "0", "100", "good"]).run {}).1 = .ok () := by
  obtain ⟨⟨report, ran, tells⟩, batch, worker⟩ := worker_fates_decide
    (orchestrator hapless ⟨hapless.definitions⟩ { suites := moods } {} moodyBatch) rfl moods
    "/tmp/isobench/20240309-140507" Orchestrator.epoch
    (stageOf { suites := moods } {} moodyBatch moodyMade.2) hapless ⟨hapless.definitions⟩
    { suites := moods } (fun _ => true) {}
  have count : report.failedCount = 6 := by
    rw [tells.failedCount_eq]
    decide +kernel
  constructor
  · have ends := batch {} moodyBatch _ _ _ report rfl rfl (Prod.ext fst_moodyMade rfl) ran
    rw [ends.2 (by rw [count]; decide), count, tells.length_eq]
    rfl
  · have good : ((Assignment.ofArguments ["out", "0", "100", "good"]).toOption.any fun a =>
        (launched hapless {} a {}).1.toOption.any fun results =>
          results.all fun r => r.outcome.toOption.isSome) = true := by
      decide +kernel
    obtain ⟨a, read, good⟩ := exists_ok_of_any good
    obtain ⟨results, returned, good⟩ := exists_ok_of_any good
    have all : ∀ r ∈ results, ∃ summary, r.outcome = .ok summary := by
      intro r mem
      obtain ⟨summary, there⟩ := Option.isSome_iff_exists.mp (List.all_eq_true.mp good r mem)
      exact ⟨summary, eq_ok_of_toOption there⟩
    refine ⟨a, results, read, returned, all, ?_⟩
    exact (worker _ a results _ read (Prod.ext returned rfl)).1.mpr all

end Microbench.CommandLine
