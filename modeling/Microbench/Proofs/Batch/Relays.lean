import Microbench.Proofs.Batch.Orchestrator
import Microbench.Proofs.Relay.Shifts

/-!
# The relay pool of a batch

Between the suites of a batch nothing is at work on the relay pool (`Ready`), if it can be replaced
where a relay does not end. Each step of a batch keeps this, whatever came of the suites, so every
worker finds a thread for its output and one for its errors.
-/

namespace Microbench.Orchestrator

variable {o : Orchestrator} {s : Stage}

/-- The relay pool is free for the relays of a worker. -/
structure Ready (s : Stage) : Prop where
  idle : s.relays.Idle
  threads : s.relays.threads = relayThreads

theorem ready_start (world : World) : Ready (start world) :=
  ⟨fun _ there => absurd there (Nat.not_lt_zero _), rfl⟩

/-- On a free pool the output and the errors of a worker are relayed at once. -/
theorem Ready.runs (ready : Ready s) (run : WorkerRun) :
    (RelayPool.startEach Pipe.link (o.shift run s.relays).relays s.relays).2.running =
      [s.relays.tasks.length, s.relays.tasks.length + 1] := by
  have first := RelayPool.atWork_start (p := s.relays) "stdout" (run.stdout, [])
  have second := RelayPool.atWork_start (p := (s.relays.start "stdout" (run.stdout, [])).2) "stderr"
    (run.stderr, [])
  rw [first, ready.idle.atWork_eq] at second
  have length : (s.relays.start "stdout" (run.stdout, [])).2.tasks.length =
      s.relays.tasks.length + 1 := by simp [RelayPool.start]
  rw [length] at second
  have threads : (RelayPool.startEach Pipe.link (o.shift run s.relays).relays s.relays).2.threads =
      relayThreads := RelayPool.keeps_startEach.threads.trans ready.threads
  rw [RelayPool.running_eq, threads]
  exact congrArg (List.take relayThreads) second

/-! ## Steps of a batch -/

theorem keeps_ready_relayOutput (replaceable : o.refusal = none) (run : WorkerRun) :
    Keeps Ready (o.relayOutput run) := fun s ready => by
  obtain ⟨idle, threads, -⟩ :
      (RelayPool.serve Pipe.link (o.shift run s.relays) s.relays).pool.Idle ∧ _ ∧ _ :=
    RelayPool.idle_serve ready.idle replaceable
  exact ⟨idle, threads.trans ready.threads⟩

/-- A suite leaves the pool free, in whatever way it runs and whatever comes of it. -/
theorem ready_runSuite (replaceable : o.refusal = none) (suite : String) (window : Window Float)
    (outputRoot : String) (clock : Clock) (ready : Ready s) :
    Ready ((o.runSuite suite window outputRoot clock).run s).2 :=
  keeps_runSuite (fun _ _ ready => ⟨ready.idle, ready.threads⟩) (keeps_ready_relayOutput replaceable)
    suite window outputRoot clock ready

/-- Suites in order leave the pool free. -/
theorem ready_runFrom (replaceable : o.refusal = none) (outputRoot : String) (times : BatchTimes)
    (place : Nat) (before : Float) (list : List (String × Window Float)) (ready : Ready s) :
    Ready ((o.runFrom outputRoot times place before list).run s).2 := by
  induction list generalizing place before s with
  | nil => exact ready
  | cons share rest ih =>
    rcases share with ⟨suite, window⟩
    have announced : Ready (announced suite s) := ⟨ready.idle, ready.threads⟩
    have left := ready_runSuite replaceable suite window outputRoot (times.clocks place) announced
    rcases ran : (o.runSuite suite window outputRoot (times.clocks place)).run
      (Orchestrator.announced suite s) with ⟨answer, t⟩
    rw [ran] at left
    cases answer with
    | error c =>
      rw [run_runFrom_of_error ran]
      exact left
    | ok outcome =>
      rw [run_runFrom_of_ok ran]
      exact ih (place + 1) (before + window.size) ⟨left.idle, left.threads⟩

end Microbench.Orchestrator
