import Microbench.Proofs.Engine.Protocol

/-!
# The calls of a run

`Engine.calls` is the list of calls that a run of the engine makes of a suite.

* `calls_regular_iff`: a run ends in a crash exactly if it made a call that is not regular, that is,
  one that panicked where nothing guards against it or that ended the process. So the calls tell of
  every suite whether the engine comes back from it.
-/

namespace Microbench

variable {κ σ α : Type}

/-! ## Answers -/

/-- An answer of a process that goes on. -/
def Alive (answer : Except Stop α) : Prop := ∀ f, answer ≠ .error (.crash (.halt f))

/-- An answer that is no crash. -/
def Calm (answer : Except Stop α) : Prop := ∀ c, answer ≠ .error (.crash c)

theorem alive_ok (a : α) : Alive (.ok a : Except Stop α) := nofun

theorem calm_ok (a : α) : Calm (.ok a : Except Stop α) := nofun

theorem alive_of_caught {e : Stop} {c : Caught} (caught : e.caught? = some c) :
    Alive (.error e : Except Stop α) := by
  intro f same
  cases same
  cases caught

theorem alive_of_ne_none {answer : Except Stop α} (lives : ∀ e, answer = .error e → e.caught? ≠ none) :
    Alive answer :=
  fun _ same => lives _ same rfl

/-- What nothing keeps from going further is a crash. -/
theorem Calm.caught_ne_none {e : Stop} (calm : Calm (.error e : Except Stop α)) :
    e.caught? ≠ none := by
  intro uncaught
  cases e with
  | failure e => cases uncaught
  | crash c => exact calm c rfl

/-- What would have been returned is of no matter to an error. -/
theorem Alive.error {β : Type} {e : Stop} (alive : Alive (.error e : Except Stop α)) :
    Alive (.error e : Except Stop β) :=
  fun f same => alive f (congrArg _ (Except.error.inj same))

theorem Calm.error {β : Type} {e : Stop} (calm : Calm (.error e : Except Stop α)) :
    Calm (.error e : Except Stop β) :=
  fun c same => calm c (congrArg _ (Except.error.inj same))

/-- What is returned of a value is of no matter either. -/
theorem Alive.of_map {β : Type} {answer : Except Stop α} {f : α → β} (alive : Alive (answer.map f)) :
    Alive answer := by
  intro fate same
  rw [same] at alive
  exact alive fate rfl

theorem Calm.of_map {β : Type} {answer : Except Stop α} {f : α → β} (calm : Calm (answer.map f)) :
    Calm answer := by
  intro crash same
  rw [same] at calm
  exact calm crash rfl

/-- What stops a call ends the process exactly if it does so as what stops the run. -/
theorem alive_of_callStop {group run : String} {e : Stop}
    (alive : Alive (.error (Engine.callStop group run e) : Except Stop α)) :
    Alive (.error e : Except Stop α) := by
  intro f same
  cases same
  exact alive f rfl

/-- A guarded call that was stopped without ending the process is regular. -/
theorem Visit.regular_of_stopped {v : Visit κ σ} {e : Stop}
    (alive : Alive (.error e : Except Stop α)) (guarded : v.call.isGuarded = true)
    (stopped : v.answer = .stopped e) : v.Regular := by
  unfold Visit.Regular
  rw [stopped, guarded]
  cases e with
  | failure e => rfl
  | crash c =>
    cases c with
    | panic p => rfl
    | halt f => exact absurd rfl (alive f)

theorem Visit.regular_of_alive {v : Visit κ σ} {answer : Except Stop Unit} (alive : Alive answer)
    (guarded : v.call.isGuarded = true) (answered : v.answer = .of id (fun _ => .returned) answer) :
    v.Regular := by
  cases answer with
  | ok _ =>
    unfold Visit.Regular
    rw [answered]
    rfl
  | error e => exact regular_of_stopped alive guarded answered

/-- A call that was not stopped by a crash is regular, guarded or not. -/
theorem Visit.regular_of_calm {v : Visit κ σ} {answer : Except Stop Unit} (calm : Calm answer)
    (answered : v.answer = .of id (fun _ => .returned) answer) : v.Regular := by
  unfold Visit.Regular
  rw [answered]
  cases answer with
  | ok _ => rfl
  | error e =>
    cases e with
    | failure e => rfl
    | crash c => exact absurd rfl (calm c)

/-- The protocol ends in a summary or in an error of the preparation. -/
theorem Protocol.calm {suite : Suite κ σ} {clock : Clock} {s : Scene κ σ} {log : List (Visit κ σ)}
    {answer : Except Stop Summary} (protocol : Protocol suite clock s log answer) : Calm answer := by
  cases protocol with
  | noDirectory _ => nofun
  | refused _ _ _ => nofun
  | finished _ _ _ _ _ _ _ => nofun

namespace Engine

open CodeWith Scene

variable {suite : Suite κ σ} {clock : Clock} {operation : Operation σ} {s t : Scene κ σ}
  {log : List (Visit κ σ)}

/-! ## Walks that a process outlives -/

theorem CallsWalk.regular {place n : Nat} {answer : Except Stop Unit}
    (walk : CallsWalk operation place n s log answer t) (alive : Alive answer) :
    ∀ v ∈ log, v.Regular := by
  induction walk with
  | none => exact List.forall_mem_nil _
  | next _ _ ih => exact List.forall_mem_cons.mpr ⟨rfl, ih alive⟩
  | stop _ => exact List.forall_mem_singleton.mpr (Visit.regular_of_stopped alive rfl rfl)

theorem StartWalk.regular {run : Run} {answer : Except Stop Unit}
    (walk : StartWalk suite run s log answer t) (alive : Alive answer) : ∀ v ∈ log, v.Regular := by
  cases walk with
  | single _ => exact List.forall_mem_nil _
  | several _ _ _ => exact List.forall_mem_singleton.mpr (Visit.regular_of_alive alive rfl rfl)

section Runs

variable [Arithmetic κ] {run : Run} {calls : Nat}

theorem RepetitionWalk.regular {place : BatchPlace} {window : Window κ}
    {answer : Except Stop Measurement}
    (walk : RepetitionWalk suite clock operation run calls place window s log answer t)
    (alive : Alive answer) : ∀ v ∈ log, v.Regular := by
  cases walk with
  | refused _ _ => exact List.forall_mem_singleton.mpr (Visit.regular_of_stopped alive rfl rfl)
  | stopped _ _ _ batch =>
    exact List.forall_mem_cons.mpr ⟨rfl, batch.regular (alive_of_callStop alive).error⟩
  | measured _ _ _ batch _ => exact List.forall_mem_cons.mpr ⟨rfl, batch.regular (alive_ok ())⟩

theorem RepetitionsWalk.regular {place : BatchPlace} {windows : List (Window κ)}
    {answer : Except Stop (List Measurement)}
    (walk : RepetitionsWalk suite clock operation run calls place windows s log answer t)
    (alive : Alive answer) : ∀ v ∈ log, v.Regular := by
  induction walk with
  | none => exact List.forall_mem_nil _
  | stop walk => exact walk.regular alive.error
  | next walk _ ih =>
    exact List.forall_mem_append.mpr ⟨walk.regular (alive_ok _), ih alive.of_map⟩

theorem RunWalk.regular {place : BatchPlace} {window : Window κ} {answer : Except Stop Unit}
    (walk : RunWalk suite clock operation run place window s log answer t) (alive : Alive answer) :
    ∀ v ∈ log, v.Regular := by
  cases walk with
  | refused start => exact start.regular alive
  | stopped start walk =>
    exact List.forall_mem_append.mpr ⟨start.regular (alive_ok ()), walk.regular alive.error⟩
  | ended start walk _ _ _ =>
    refine List.forall_mem_append.mpr ⟨start.regular (alive_ok ()), ?_⟩
    refine List.forall_mem_append.mpr ⟨walk.regular (alive_ok _), ?_⟩
    exact List.forall_mem_singleton.mpr (Visit.regular_of_alive alive rfl rfl)

theorem RunsWalk.regular {place : BatchPlace} {rs : List (Run × Window κ)}
    {answer : Except Stop Unit} (walk : RunsWalk suite clock operation place rs s log answer t)
    (alive : Alive answer) : ∀ v ∈ log, v.Regular := by
  induction walk with
  | none => exact List.forall_mem_nil _
  | stop walk => exact walk.regular alive
  | next walk _ ih => exact List.forall_mem_append.mpr ⟨walk.regular (alive_ok ()), ih alive⟩

theorem BodyWalk.regular {index : Nat} {window : Window κ} {answer : Except Stop Nat}
    (walk : BodyWalk suite clock operation index window s log answer t) (alive : Alive answer) :
    ∀ v ∈ log, v.Regular := by
  cases walk with
  | refused _ _ => exact List.forall_mem_singleton.mpr (Visit.regular_of_stopped alive rfl rfl)
  | started _ _ walk => exact List.forall_mem_cons.mpr ⟨rfl, walk.regular alive.of_map⟩

end Runs

/-! ## Walks that end in no crash -/

theorem FailureWalk.regular {group : String} {error : BenchError} {ended : Bool}
    {answer : Except Stop Unit} (walk : FailureWalk suite group error ended s log answer t)
    (calm : Calm answer) : ∀ v ∈ log, v.Regular := by
  cases walk with
  | crashed _ _ => exact absurd rfl (calm _)
  | told _ _ _ => exact List.forall_mem_singleton.mpr rfl
  | ended _ _ _ lives _ =>
    refine List.forall_mem_cons.mpr ⟨rfl, List.forall_mem_singleton.mpr ?_⟩
    exact Visit.regular_of_alive (alive_of_ne_none lives) rfl rfl
  | halted _ _ _ uncaught => exact absurd uncaught calm.caught_ne_none

variable [Arithmetic κ]

theorem OutcomeWalk.regular {index : Nat} {window : Window κ} {answer : Except Stop Bool}
    (walk : OutcomeWalk suite clock operation index window s log answer t) (calm : Calm answer) :
    ∀ v ∈ log, v.Regular := by
  cases walk with
  | halted _ uncaught => exact absurd uncaught calm.caught_ne_none
  | failed body caught failure =>
    exact List.forall_mem_append.mpr
      ⟨body.regular (alive_of_caught caught), failure.regular calm.of_map⟩
  | endHalted _ _ uncaught => exact absurd uncaught calm.caught_ne_none
  | endFailed body _ caught failure =>
    have alive : Alive (.error _ : Except Stop Unit) := alive_of_caught caught
    refine List.forall_mem_append.mpr ⟨body.regular (alive_ok _), List.forall_mem_cons.mpr ?_⟩
    exact ⟨Visit.regular_of_stopped alive rfl rfl, failure.regular calm.of_map⟩
  | completed body _ _ =>
    exact List.forall_mem_append.mpr ⟨body.regular (alive_ok _), List.forall_mem_singleton.mpr rfl⟩

theorem GroupsWalk.regular {index : Nat} {summary : Summary} {list : List (Operation σ × Window κ)}
    {answer : Except Stop Summary}
    (walk : GroupsWalk suite clock index summary list s log answer t) (calm : Calm answer) :
    ∀ v ∈ log, v.Regular := by
  induction walk with
  | none => exact List.forall_mem_nil _
  | stop walk =>
    cases walk with
    | stop walk => exact walk.regular calm.error
  | next walk _ ih =>
    cases walk with
    | finished walk => exact List.forall_mem_append.mpr ⟨walk.regular (calm_ok _), ih calm⟩

theorem SuiteWalk.regular {window : Window κ} {answer : Except Stop Summary}
    (walk : SuiteWalk suite clock window s log answer t) (calm : Calm answer) :
    ∀ v ∈ log, v.Regular := by
  cases walk with
  | unready _ setUp =>
    cases setUp with
    | noDirectory _ => exact List.forall_mem_nil _
    | refused _ _ _ caught =>
      have alive : Alive (.error _ : Except Stop Unit) := alive_of_caught caught
      exact List.forall_mem_singleton.mpr (Visit.regular_of_stopped alive rfl rfl)
    | halted _ _ _ uncaught => exact absurd uncaught calm.caught_ne_none
  | undeclared _ _ _ => exact absurd rfl (calm _)
  | halted _ setUp _ walk =>
    cases setUp with
    | ready _ _ _ =>
      exact List.forall_mem_cons.mpr ⟨rfl, List.forall_mem_cons.mpr ⟨rfl, walk.regular calm.error⟩⟩
  | crashed _ _ _ _ _ => exact absurd rfl (calm _)
  | finished _ setUp _ walk _ gentle _ =>
    cases setUp with
    | ready _ _ _ =>
      refine List.forall_mem_cons.mpr ⟨rfl, List.forall_mem_cons.mpr ⟨rfl, ?_⟩⟩
      refine List.forall_mem_append.mpr ⟨walk.regular (calm_ok _), List.forall_mem_singleton.mpr ?_⟩
      exact Visit.regular_of_calm gentle rfl

/-! ## The calls of a run -/

/-- The calls that a run makes of a suite, in order. -/
def calls (suite : Suite κ σ) (clock : Clock) (window : Window κ) (s : Scene κ σ) :
    List (Visit κ σ) :=
  ((run suite.watched clock window).run (s.watching [])).2.state.2

/-- The watched suite behaves as the suite does and lists the calls after those that were listed
before. -/
theorem run_watched (suite : Suite κ σ) (clock : Clock) (window : Window κ) (s : Scene κ σ)
    (past : List (Visit κ σ)) : (run suite.watched clock window).run (s.watching past) =
      (((run suite clock window).run s).1,
        ((run suite clock window).run s).2.watching (past ++ calls suite clock window s)) :=
  (follows_run suite clock window s).listed_fresh.1 past

theorem walk_calls (suite : Suite κ σ) (clock : Clock) (window : Window κ) (s : Scene κ σ) :
    SuiteWalk suite clock window s (calls suite clock window s) ((run suite clock window).run s).1
      ((run suite clock window).run s).2 :=
  (follows_run suite clock window s).listed_fresh.2

/-- A run ends in no crash exactly if all its calls were regular. -/
theorem calls_regular_iff (suite : Suite κ σ) (clock : Clock) (window : Window κ) (s : Scene κ σ) :
    (∀ v ∈ calls suite clock window s, v.Regular) ↔ Calm ((run suite clock window).run s).1 :=
  ⟨fun regular => ((walk_calls suite clock window s).protocol regular).calm,
    fun calm => (walk_calls suite clock window s).regular calm⟩

end Engine

end Microbench
