import Microbench.Proofs.Engine.Walk

/-!
# The protocol of hooks

Which calls the engine makes of a suite, and in which order. A block of calls belongs to every
declared operation: the group starts, its runs are made as planned, the group ends. A call that is
stopped breaks off the plan that it belongs to; the suite is then told of the failure, and the group
is ended if that had not begun.

* `run_protocol`: every run of the engine keeps to the protocol, whichever calls are stopped.
-/

namespace Microbench

variable {κ σ : Type}

/-! ## Plans -/

/-- Calls of a plan in order: all of them, or those up to one that was stopped. -/
inductive Carried : List Call → List (Visit κ σ) → Option (Call × Stop) → Prop
  | done : Carried [] [] none
  | next {v : Visit κ σ} {call : Call} {plan : List Call} {log : List (Visit κ σ)}
      {reason? : Option (Call × Stop)} :
    v.call = call → v.answer = .returned → Carried plan log reason? →
    Carried (call :: plan) (v :: log) reason?
  | stop {v : Visit κ σ} {call : Call} {plan : List Call} {e : Stop} :
    v.call = call → v.answer = .stopped e → Carried (call :: plan) [v] (some (call, e))

namespace Carried

variable {plan plan' : List Call} {log log' : List (Visit κ σ)}

theorem append {reason? : Option (Call × Stop)} (first : Carried plan log none)
    (second : Carried plan' log' reason?) : Carried (plan ++ plan') (log ++ log') reason? := by
  induction plan generalizing log with
  | nil => cases first; exact second
  | cons call plan ih => cases first with
    | next made returned rest => exact .next made returned (ih rest)

theorem stop_append {reason : Call × Stop} (first : Carried plan log (some reason)) :
    Carried (plan ++ plan') log (some reason) := by
  induction plan generalizing log with
  | nil => cases first
  | cons call plan ih => cases first with
    | next made returned rest => exact .next made returned (ih rest)
    | stop made stopped => exact .stop made stopped

theorem call_mem {reason? : Option (Call × Stop)} (carried : Carried plan log reason?) :
    ∀ v ∈ log, v.call ∈ plan := by
  induction plan generalizing log with
  | nil =>
    cases carried
    exact List.forall_mem_nil _
  | cons call plan ih =>
    cases carried with
    | next made _ rest =>
      refine List.forall_mem_cons.mpr ⟨made ▸ List.mem_cons_self, fun v mem => ?_⟩
      exact List.mem_cons_of_mem _ (ih rest v mem)
    | stop made _ => exact List.forall_mem_singleton.mpr (made ▸ List.mem_cons_self)

theorem call_mem_of_stop {call : Call} {e : Stop} (h : Carried plan log (some (call, e))) :
    call ∈ plan := by
  induction plan generalizing log with
  | nil => cases h
  | cons first plan ih => cases h with
    | next made returned rest => exact List.mem_cons_of_mem _ (ih rest)
    | stop made stopped => exact List.mem_cons_self

/-- What stopped a plan is what came of one of its calls. -/
theorem mem_of_stop {call : Call} {e : Stop} (h : Carried plan log (some (call, e))) :
    ∃ v ∈ log, v.call = call ∧ v.answer = .stopped e := by
  induction plan generalizing log with
  | nil => cases h
  | cons first plan ih => cases h with
    | next made returned rest =>
      obtain ⟨v, mem, holds⟩ := ih rest
      exact ⟨v, List.mem_cons_of_mem _ mem, holds⟩
    | stop made stopped => exact ⟨_, List.mem_singleton_self _, made, stopped⟩

end Carried

/-- The calls of a repetition: its hook, then the batch. -/
def repetitionPlan (run : Run) (calls place : Nat) (repetition : Nat) : List Call :=
  .repetitionStarts run repetition :: List.replicate calls (.operation place)

/-- A run with the statistics of the times that the clock takes, under some knobs. -/
def Run.timed (clock : Clock) (run : Run) (place : BatchPlace) (knobs : Knobs) : Run :=
  run.complete (.ofMeasurements ((List.range knobs.repetitions).map fun r =>
    ⟨run.scaling.apply (clock { place with repetition := r }), knobs.calls⟩))

/-- The calls of a run under some knobs. -/
def runPlan (clock : Clock) (run : Run) (place : BatchPlace) (knobs : Knobs) : List Call :=
  (if 1 < knobs.repetitions then [.runStarts run] else []) ++
    (List.range knobs.repetitions).flatMap (repetitionPlan run knobs.calls place.group) ++
      [.runEnds (run.timed clock place knobs)]

/-! ## Blocks -/

/-- The first of the calls sees the knobs. -/
def StartsWith (knobs : Knobs) (log : List (Visit κ σ)) : Prop :=
  ∃ v rest c, log = v :: rest ∧ v.context = some c ∧ c.knobs = knobs

theorem StartsWith.append {knobs : Knobs} {log : List (Visit κ σ)} (h : StartsWith knobs log)
    (log' : List (Visit κ σ)) : StartsWith knobs (log ++ log') := by
  rcases h with ⟨v, rest, c, rfl, seen, same⟩
  exact ⟨v, rest ++ log', c, rfl, seen, same⟩

/-- What a group is stopped by when a call of one of its runs was stopped. -/
def stopOf (group run : String) : Call → Stop → Stop
  | .operation _, e => Engine.callStop group run e
  | _, e => e

/-- The runs of a group from one on. Each is planned with the knobs that its first call sees. -/
inductive RunsCalls (clock : Clock) (group : String) (index : Nat) :
    Nat → List Run → List (Visit κ σ) → Except Stop Unit → Prop
  | none {i : Nat} : RunsCalls clock group index i [] [] (.ok ())
  | next {i : Nat} {run : Run} {rest : List Run} {knobs : Knobs} {log log' : List (Visit κ σ)}
      {answer : Except Stop Unit} :
    StartsWith knobs log → Carried (runPlan clock run ⟨index, i, 0⟩ knobs) log none →
    RunsCalls clock group index (i + 1) rest log' answer →
    RunsCalls clock group index i (run :: rest) (log ++ log') answer
  | stop {i : Nat} {run : Run} {rest : List Run} {knobs : Knobs} {log : List (Visit κ σ)}
      {call : Call} {e : Stop} :
    StartsWith knobs log → Carried (runPlan clock run ⟨index, i, 0⟩ knobs) log (some (call, e)) →
    RunsCalls clock group index i (run :: rest) log (.error (stopOf group run.name call e))

/-- The start of a group and its runs. -/
inductive BodyCalls (clock : Clock) (group : String) (index : Nat) :
    List (Visit κ σ) → Except Stop Unit → Prop
  | refused {start : Visit κ σ} {e : Stop} :
    start.call = .groupStarts group → start.answer = .stopped e →
    BodyCalls clock group index [start] (.error e)
  | started {start : Visit κ σ} {rs : List Run} {log : List (Visit κ σ)}
      {answer : Except Stop Unit} :
    start.call = .groupStarts group → start.answer = .runs rs →
    RunsCalls clock group index 0 rs log answer →
    BodyCalls clock group index (start :: log) answer

/-- The calls for one operation, and whether its group completed. -/
inductive Block (clock : Clock) (index : Nat) (group : String) : List (Visit κ σ) → Bool → Prop
  | completed {log : List (Visit κ σ)} {closing : Visit κ σ} :
    BodyCalls clock group index log (.ok ()) →
    closing.call = .groupEnds group → closing.answer = .returned →
    Block clock index group (log ++ [closing]) true
  | failed {log : List (Visit κ σ)} {e : Stop} {c : Caught} {told closing : Visit κ σ} :
    BodyCalls clock group index log (.error e) → e.caught? = some c →
    told.call = .groupFailed group (c.groupError group) → closing.call = .groupEnds group →
    Block clock index group (log ++ [told, closing]) false
  | endFailed {log : List (Visit κ σ)} {e : Stop} {c : Caught} {told closing : Visit κ σ} :
    BodyCalls clock group index log (.ok ()) →
    closing.call = .groupEnds group → closing.answer = .stopped e → e.caught? = some c →
    told.call = .groupFailed group (c.groupError group) →
    Block clock index group (log ++ [closing, told]) false

/-- One block for every group from one on, and which of them completed. -/
inductive Blocks (clock : Clock) : Nat → List String → List (Visit κ σ) → List Bool → Prop
  | none {index : Nat} : Blocks clock index [] [] []
  | next {index : Nat} {group : String} {groups : List String} {log log' : List (Visit κ σ)}
      {completed : Bool} {others : List Bool} :
    Block clock index group log completed → Blocks clock (index + 1) groups log' others →
    Blocks clock index (group :: groups) (log ++ log') (completed :: others)

/-- How groups fared of which it is known whether they completed. -/
def Summary.ofFates (suite : String) (groups : List String) (fates : List Bool) : Summary where
  suite := suite
  completed := ((groups.zip fates).filter (·.2)).map (·.1)
  failed := ((groups.zip fates).filter (!·.2)).map (·.1)

/-- The calls of a suite that starts at a scene, and the answer of the engine. The error of a suite
that refuses to start goes by the name that its hook leaves in the context. -/
inductive Protocol (suite : Suite κ σ) (clock : Clock) (s : Scene κ σ) :
    List (Visit κ σ) → Except Stop Summary → Prop
  | noDirectory {e : IoFailure} :
    ((Access.makeDirectories s.context.outputDirectory).run s.world.disk).1 = .error e →
    Protocol suite clock s [] (.error (.failure (.setUp s.context.suite (.io e))))
  | refused {before after : Scene κ σ} {e : Stop} {c : Caught} :
    ((Access.makeDirectories s.context.outputDirectory).run s.world.disk).1 = .ok () →
    suite.setUp.run before = (.error e, after) → e.caught? = some c →
    Protocol suite clock s [before.visit .setUp (.stopped e)]
      (.error (.failure (.setUp after.context.suite c.error)))
  | finished {first declared last : Visit κ σ} {groups : List String} {log : List (Visit κ σ)}
      {fates : List Bool} :
    ((Access.makeDirectories s.context.outputDirectory).run s.world.disk).1 = .ok () →
    first.call = .setUp → first.answer = .returned →
    declared.call = .operations → declared.answer = .declared groups →
    Blocks clock 0 groups log fates → last.call = .tearDown →
    Protocol suite clock s (first :: declared :: (log ++ [last]))
      (.ok (.ofFates s.context.suite groups fates))

/-! ## Regular calls -/

/-- Whether an error or a panic of the call stays with the engine. -/
def Call.isGuarded : Call → Bool
  | .operations | .groupFailed _ _ | .tearDown => false
  | _ => true

/-- Whether the process outlives a call, and a panic of it is one that is guarded against. -/
def Answer.isRegular (guarded : Bool) : Answer → Bool
  | .stopped (.crash (.panic _)) => guarded
  | .stopped (.crash (.halt _)) => false
  | _ => true

/-- The call ended in a way that the engine answers for. -/
def Visit.Regular (v : Visit κ σ) : Prop := v.answer.isRegular v.call.isGuarded = true

instance (v : Visit κ σ) : Decidable v.Regular := inferInstanceAs (Decidable (_ = true))

theorem Visit.Regular.caught {v : Visit κ σ} (regular : v.Regular) {e : Stop}
    (stopped : v.answer = .stopped e) : ∃ c, e.caught? = some c := by
  unfold Visit.Regular at regular
  rw [stopped] at regular
  cases e with
  | failure e => exact ⟨_, rfl⟩
  | crash c =>
    cases c with
    | panic p => exact ⟨_, rfl⟩
    | halt f => cases regular

/-- What nothing guards does not panic. -/
theorem Visit.Regular.not_crash {v : Visit κ σ} (regular : v.Regular) {c : Crash}
    (unguarded : v.call.isGuarded = false) : v.answer ≠ .stopped (.crash c) := by
  intro stopped
  unfold Visit.Regular at regular
  rw [stopped, unguarded] at regular
  cases c <;> cases regular

/-- What ends the process is not regular. -/
theorem Visit.Regular.not_uncaught {v : Visit κ σ} (regular : v.Regular) {e : Stop}
    (uncaught : e.caught? = none) : v.answer ≠ .stopped e := by
  intro stopped
  obtain ⟨c, caught⟩ := regular.caught stopped
  rw [uncaught] at caught
  cases caught

/-! ## Walks keep to the protocol -/

/-- A plan was carried out with `value` for an answer, or the call that stopped it gave the answer. -/
def Kept {α : Type} (plan : List Call) (stop : Call → Stop → Stop) (value : α)
    (log : List (Visit κ σ)) (answer : Except Stop α) : Prop :=
  (Carried plan log none ∧ answer = .ok value) ∨
    ∃ call e, Carried plan log (some (call, e)) ∧ answer = .error (stop call e)

namespace Engine

open CodeWith Scene

variable {suite : Suite κ σ} {clock : Clock} {operation : Operation σ}

theorem CallsWalk.kept {place n : Nat} {s t : Scene κ σ} {log : List (Visit κ σ)}
    {answer : Except Stop Unit} (walk : CallsWalk operation place n s log answer t) :
    Kept (List.replicate n (.operation place)) (fun _ e => e) () log answer := by
  induction walk with
  | none => exact .inl ⟨.done, rfl⟩
  | next returned later ih =>
    rcases ih with ⟨carried, rfl⟩ | ⟨call, e, carried, rfl⟩
    · exact .inl ⟨.next rfl rfl carried, rfl⟩
    · exact .inr ⟨call, e, .next rfl rfl carried, rfl⟩
  | stop stopped => exact .inr ⟨_, _, .stop rfl rfl, rfl⟩

section Repetitions

variable [Arithmetic κ] {run : Run} {calls : Nat}

theorem RepetitionWalk.kept {place : BatchPlace} {window : Window κ} {s t : Scene κ σ}
    {log : List (Visit κ σ)} {answer : Except Stop Measurement}
    (walk : RepetitionWalk suite clock operation run calls place window s log answer t) :
    Kept (repetitionPlan run calls place.group place.repetition) (stopOf operation.name run.name)
      ⟨run.scaling.apply (clock place), calls⟩ log answer := by
  cases walk with
  | refused _ _ => exact .inr ⟨_, _, .stop rfl rfl, rfl⟩
  | stopped _ _ _ batch =>
    rcases batch.kept with ⟨_, ended⟩ | ⟨call, e, carried, ended⟩
    · cases ended
    · cases ended
      have same := List.eq_of_mem_replicate carried.call_mem_of_stop
      subst same
      exact .inr ⟨_, e, .next rfl rfl carried, rfl⟩
  | measured _ _ _ batch _ =>
    rcases batch.kept with ⟨carried, _⟩ | ⟨call, e, _, ended⟩
    · exact .inl ⟨.next rfl rfl carried, rfl⟩
    · cases ended

/-- A repetition starts with its hook, whatever comes of it. -/
theorem RepetitionWalk.startsWith {place : BatchPlace} {window : Window κ} {s t : Scene κ σ}
    {log : List (Visit κ σ)} {answer : Except Stop Measurement}
    (walk : RepetitionWalk suite clock operation run calls place window s log answer t) :
    StartsWith s.context.knobs log := by
  cases walk with
  | refused at' _ => subst at'; exact ⟨_, _, _, rfl, rfl, rfl⟩
  | stopped at' _ _ _ => subst at'; exact ⟨_, _, _, rfl, rfl, rfl⟩
  | measured at' _ _ _ _ => subst at'; exact ⟨_, _, _, rfl, rfl, rfl⟩

theorem RepetitionsWalk.kept {place : BatchPlace} {windows : List (Window κ)} {s t : Scene κ σ}
    {log : List (Visit κ σ)} {answer : Except Stop (List Measurement)}
    (walk : RepetitionsWalk suite clock operation run calls place windows s log answer t) :
    Kept ((List.range' place.repetition windows.length).flatMap (repetitionPlan run calls place.group))
      (stopOf operation.name run.name)
      ((List.range' place.repetition windows.length).map fun r =>
        ⟨run.scaling.apply (clock { place with repetition := r }), calls⟩) log answer := by
  induction walk with
  | none => exact .inl ⟨.done, rfl⟩
  | stop walk =>
    rcases walk.kept with ⟨_, ended⟩ | ⟨call, e, carried, ended⟩
    · cases ended
    · cases ended
      exact .inr ⟨call, e, carried.stop_append, rfl⟩
  | next walk later ih =>
    rcases walk.kept with ⟨first, ended⟩ | ⟨_, _, _, ended⟩
    · cases ended
      rcases ih with ⟨carried, rfl⟩ | ⟨call, e, carried, rfl⟩
      · exact .inl ⟨first.append carried, rfl⟩
      · exact .inr ⟨call, e, first.append carried, rfl⟩
    · cases ended

theorem RepetitionsWalk.startsWith {place : BatchPlace} {window : Window κ}
    {rest : List (Window κ)} {s t : Scene κ σ} {log : List (Visit κ σ)}
    {answer : Except Stop (List Measurement)}
    (walk : RepetitionsWalk suite clock operation run calls place (window :: rest) s log answer t) :
    StartsWith s.context.knobs log := by
  cases walk with
  | stop walk => exact walk.startsWith
  | next walk _ => exact walk.startsWith.append _

end Repetitions

section Runs

theorem StartWalk.kept {run : Run} {s t : Scene κ σ} {log : List (Visit κ σ)}
    {answer : Except Stop Unit} (operation : Operation σ)
    (walk : StartWalk suite run s log answer t) :
    Kept (if 1 < s.context.knobs.repetitions then [.runStarts run] else [])
      (stopOf operation.name run.name) () log answer := by
  cases walk with
  | single one =>
    rw [if_neg one]
    exact .inl ⟨.done, rfl⟩
  | several more _ _ =>
    rw [if_pos more]
    cases answer with
    | ok _ => exact .inl ⟨.next rfl rfl .done, rfl⟩
    | error e => exact .inr ⟨_, e, .stop rfl rfl, rfl⟩

/-- Either the start of a run calls its hook or it leaves the knobs to the repetitions. -/
theorem StartWalk.startsWith {run : Run} {s t : Scene κ σ} {log : List (Visit κ σ)}
    {answer : Except Stop Unit} (walk : StartWalk suite run s log answer t) :
    StartsWith s.context.knobs log ∨
      log = [] ∧ answer = .ok () ∧ t.context.knobs = s.context.knobs := by
  cases walk with
  | single _ => exact .inr ⟨rfl, rfl, rfl⟩
  | several _ at' _ => subst at'; exact .inl ⟨_, _, _, rfl, rfl, rfl⟩

variable [Arithmetic κ] {index : Nat}

theorem RunWalk.kept {run : Run} {i : Nat} {window : Window κ} {s t : Scene κ σ}
    {log : List (Visit κ σ)} {answer : Except Stop Unit}
    (walk : RunWalk suite clock operation run ⟨index, i, 0⟩ window s log answer t) :
    Kept (runPlan clock run ⟨index, i, 0⟩ s.context.knobs) (stopOf operation.name run.name) ()
      log answer := by
  have split : List.range s.context.knobs.repetitions =
      List.range' 0 (window.split s.context.knobs.repetitions).length := by
    rw [Window.length_split, List.range_eq_range']
  unfold runPlan Run.timed
  rw [split]
  cases walk with
  | refused start =>
    rcases start.kept operation with ⟨_, ended⟩ | ⟨call, e, carried, ended⟩
    · cases ended
    · cases ended
      exact .inr ⟨call, e, carried.stop_append.stop_append, rfl⟩
  | stopped start walk =>
    rcases start.kept operation with ⟨started, _⟩ | ⟨_, _, _, ended⟩
    · rcases walk.kept with ⟨_, ended⟩ | ⟨call, e, carried, ended⟩
      · cases ended
      · cases ended
        exact .inr ⟨call, e, (started.append carried).stop_append, rfl⟩
    · cases ended
  | ended start walk measured _ _ =>
    rcases start.kept operation with ⟨started, _⟩ | ⟨_, _, _, ended⟩
    · rcases walk.kept with ⟨carried, ended⟩ | ⟨_, _, _, ended⟩
      · cases ended
        subst measured
        rw [← List.append_assoc]
        have first := started.append carried
        cases answer with
        | ok _ => exact .inl ⟨first.append (.next rfl rfl .done), rfl⟩
        | error e => exact .inr ⟨_, e, first.append (.stop rfl rfl), rfl⟩
      · cases ended
    · cases ended

/-- A run has a repetition, so the knobs that it starts with are seen by a call. -/
theorem RunWalk.startsWith {run : Run} {place : BatchPlace} {window : Window κ} {s t : Scene κ σ}
    {log : List (Visit κ σ)} {answer : Except Stop Unit}
    (walk : RunWalk suite clock operation run place window s log answer t) :
    StartsWith s.context.knobs log := by
  obtain ⟨first, rest, split⟩ : ∃ first rest,
      window.split s.context.knobs.repetitions = first :: rest := by
    have positive := s.context.knobs.repetitions_pos
    apply List.exists_cons_of_length_pos
    rw [Window.length_split]
    exact positive
  cases walk with
  | refused start =>
    rcases start.startsWith with seen | ⟨_, ended, _⟩
    · exact seen
    · cases ended
  | stopped start walk =>
    rcases start.startsWith with seen | ⟨rfl, _, same⟩
    · exact seen.append _
    · rw [split] at walk
      rw [← same]
      exact walk.startsWith
  | ended start walk _ _ _ =>
    rcases start.startsWith with seen | ⟨rfl, _, same⟩
    · exact seen.append _
    · rw [split] at walk
      rw [← same]
      exact walk.startsWith.append _

theorem RunsWalk.calls {i : Nat} {rs : List (Run × Window κ)} {s t : Scene κ σ}
    {log : List (Visit κ σ)} {answer : Except Stop Unit}
    (walk : RunsWalk suite clock operation ⟨index, i, 0⟩ rs s log answer t) :
    RunsCalls clock operation.name index i (rs.map (·.1)) log answer := by
  generalize at' : BatchPlace.mk index i 0 = place at walk
  induction walk generalizing i with
  | none => exact .none
  | stop walk =>
    subst at'
    rcases walk.kept with ⟨_, ended⟩ | ⟨call, e, carried, ended⟩
    · cases ended
    · cases ended
      exact .stop walk.startsWith carried
  | next walk later ih =>
    subst at'
    rcases walk.kept with ⟨carried, _⟩ | ⟨_, _, _, ended⟩
    · exact .next walk.startsWith carried (ih rfl)
    · cases ended

theorem BodyWalk.calls {window : Window κ} {s t : Scene κ σ} {log : List (Visit κ σ)}
    {answer : Except Stop Nat}
    (walk : BodyWalk suite clock operation index window s log answer t) :
    BodyCalls clock operation.name index log (answer.map fun _ => ()) := by
  cases walk with
  | refused _ _ => exact .refused rfl rfl
  | @started _ _ _ rs _ answer _ _ walk =>
    have lengths : rs.length ≤ (window.split rs.length).length :=
      Nat.le_of_eq (Window.length_split _ _).symm
    have runs := walk.calls
    rw [List.map_fst_zip lengths] at runs
    refine .started rfl rfl ?_
    cases answer with
    | ok _ => exact runs
    | error e => exact runs

end Runs

end Engine

/-! ## Regular walks -/

theorem caught_stopOf {group run : String} {call : Call} {e : Stop} {c : Caught}
    (caught : e.caught? = some c) : ∃ c', (stopOf group run call e).caught? = some c' := by
  cases call with
  | operation place =>
    cases e with
    | failure e => exact ⟨_, rfl⟩
    | crash crash => exact ⟨c, caught⟩
  | _ => exact ⟨c, caught⟩

theorem RunsCalls.caught {clock : Clock} {group : String} {index i : Nat} {rs : List Run}
    {log : List (Visit κ σ)} {e : Stop} (calls : RunsCalls clock group index i rs log (.error e))
    (regular : ∀ v ∈ log, v.Regular) : ∃ c, e.caught? = some c := by
  generalize same : (Except.error e : Except Stop Unit) = answer at calls
  induction calls with
  | none => cases same
  | next _ _ _ ih => exact ih (fun v mem => regular v (List.mem_append_right _ mem)) same
  | stop _ carried =>
    cases same
    rcases carried.mem_of_stop with ⟨v, mem, _, stopped⟩
    obtain ⟨c, caught⟩ := (regular v mem).caught stopped
    exact caught_stopOf caught

theorem BodyCalls.caught {clock : Clock} {group : String} {index : Nat} {log : List (Visit κ σ)}
    {e : Stop} (calls : BodyCalls clock group index log (.error e))
    (regular : ∀ v ∈ log, v.Regular) : ∃ c, e.caught? = some c := by
  cases calls with
  | refused _ stopped => exact (regular _ (List.mem_singleton_self _)).caught stopped
  | started _ _ runs => exact runs.caught fun v mem => regular v (List.mem_cons_of_mem _ mem)

namespace Engine

open CodeWith Scene

variable {suite : Suite κ σ} {clock : Clock} {group : String}

/-- After a failure before the end of its group the suite is told, then the group is ended. -/
theorem FailureWalk.calls_of_open {error : BenchError} {s t : Scene κ σ} {log : List (Visit κ σ)}
    {answer : Except Stop Unit} (walk : FailureWalk suite group error false s log answer t)
    (regular : ∀ v ∈ log, v.Regular) :
    answer = .ok () ∧ ∃ told closing : Visit κ σ, log = [told, closing] ∧
      told.call = .groupFailed group error ∧ closing.call = .groupEnds group := by
  cases walk with
  | crashed _ _ => exact absurd rfl ((regular _ (List.mem_singleton_self _)).not_crash rfl)
  | ended _ _ _ _ _ => exact ⟨rfl, _, _, rfl, rfl, rfl⟩
  | halted _ _ _ uncaught =>
    have last := regular _ (List.mem_cons_of_mem _ (List.mem_singleton_self _))
    exact absurd rfl (last.not_uncaught uncaught)

/-- After a failure of the end of its group the suite is told. -/
theorem FailureWalk.calls_of_ended {error : BenchError} {s t : Scene κ σ} {log : List (Visit κ σ)}
    {answer : Except Stop Unit} (walk : FailureWalk suite group error true s log answer t)
    (regular : ∀ v ∈ log, v.Regular) :
    answer = .ok () ∧ ∃ told : Visit κ σ, log = [told] ∧ told.call = .groupFailed group error := by
  cases walk with
  | crashed _ _ => exact absurd rfl ((regular _ (List.mem_singleton_self _)).not_crash rfl)
  | told _ _ _ => exact ⟨rfl, _, rfl, rfl⟩

variable [Arithmetic κ]

theorem OutcomeWalk.block {operation : Operation σ} {index : Nat} {window : Window κ}
    {s t : Scene κ σ} {log : List (Visit κ σ)} {answer : Except Stop Bool}
    (walk : OutcomeWalk suite clock operation index window s log answer t)
    (regular : ∀ v ∈ log, v.Regular) :
    ∃ completed, answer = .ok completed ∧ Block clock index operation.name log completed := by
  cases walk with
  | halted body uncaught =>
    obtain ⟨c, caught⟩ := body.calls.caught regular
    rw [uncaught] at caught
    cases caught
  | failed body caught failure =>
    obtain ⟨rfl, told, closing, rfl, tell, ends⟩ :=
      failure.calls_of_open fun v mem => regular v (List.mem_append_right _ mem)
    exact ⟨false, rfl, .failed body.calls caught tell ends⟩
  | endHalted _ _ uncaught =>
    have last := regular _ (List.mem_append_right _ (List.mem_singleton_self _))
    exact absurd rfl (last.not_uncaught uncaught)
  | endFailed body _ caught failure =>
    obtain ⟨rfl, told, rfl, tell⟩ := failure.calls_of_ended fun v mem =>
      regular v (List.mem_append_right _ (List.mem_cons_of_mem _ mem))
    exact ⟨false, rfl, .endFailed body.calls rfl rfl caught tell⟩
  | completed body _ _ => exact ⟨true, rfl, .completed body.calls rfl rfl⟩

theorem GroupsWalk.blocks {index : Nat} {summary : Summary} {list : List (Operation σ × Window κ)}
    {s t : Scene κ σ} {log : List (Visit κ σ)} {answer : Except Stop Summary}
    (walk : GroupsWalk suite clock index summary list s log answer t)
    (regular : ∀ v ∈ log, v.Regular) :
    ∃ fates, answer = .ok (tallied summary ((list.map (·.1.name)).zip fates)) ∧
      Blocks clock index (list.map (·.1.name)) log fates := by
  induction walk with
  | none => exact ⟨[], rfl, .none⟩
  | stop walk =>
    cases walk with
    | stop walk =>
      obtain ⟨_, ended, _⟩ := walk.block regular
      cases ended
  | next walk later ih =>
    obtain ⟨fates, rfl, blocks⟩ := ih fun v mem => regular v (List.mem_append_right _ mem)
    cases walk with
    | finished walk =>
      obtain ⟨_, ended, block⟩ := walk.block fun v mem => regular v (List.mem_append_left _ mem)
      cases ended
      exact ⟨_ :: fates, rfl, .next block blocks⟩

omit [Arithmetic κ] in
/-- Notes and progress are nothing to the directory of the suite. -/
theorem made_of_access {window : Window κ} {s s' : Scene κ σ} {a : Except IoFailure Unit}
    {w : World} (same : SameButNotes (s.adjusted (·.advance window.start)) s')
    (made : s'.world.access (Access.makeDirectories s'.context.outputDirectory) = (a, w)) :
    ((Access.makeDirectories s.context.outputDirectory).run s.world.disk).1 = a := by
  have first : ((Access.makeDirectories s'.context.outputDirectory).run s'.world.disk).1 = a :=
    congrArg Prod.fst made
  rw [same.context, same.disk] at first
  exact first

theorem SuiteWalk.protocol {window : Window κ} {s t : Scene κ σ} {log : List (Visit κ σ)}
    {answer : Except Stop Summary} (walk : SuiteWalk suite clock window s log answer t)
    (regular : ∀ v ∈ log, v.Regular) : Protocol suite clock s log answer := by
  cases walk with
  | unready same setUp =>
    cases setUp with
    | noDirectory failed =>
      have id := congrArg Context.suite same.context
      rw [id]
      exact .noDirectory (made_of_access same failed)
    | refused made _ stopped caught => exact .refused (made_of_access same made) stopped caught
    | halted _ _ _ uncaught =>
      exact absurd rfl ((regular _ (List.mem_singleton_self _)).not_uncaught uncaught)
  | undeclared _ _ _ =>
    have last := regular _ (List.mem_append_right _ (List.mem_singleton_self _))
    exact absurd rfl (last.not_crash rfl)
  | halted same setUp declared walk =>
    obtain ⟨_, ended, _⟩ := walk.blocks fun v mem =>
      regular v (List.mem_append_right _ (List.mem_cons_of_mem _ mem))
    cases ended
  | crashed same setUp declared walk ended =>
    have last := regular _ (List.mem_append_right _
      (List.mem_cons_of_mem _ (List.mem_append_right _ (List.mem_singleton_self _))))
    exact absurd rfl (last.not_crash rfl)
  | finished same setUp declared walk ended calm _ =>
    obtain ⟨fates, ended, blocks⟩ := walk.blocks fun v mem =>
      regular v (List.mem_append_right _ (List.mem_cons_of_mem _ (List.mem_append_left _ mem)))
    cases ended
    rw [map_name_scheduled] at blocks ⊢
    rw [tallied_eq]
    cases setUp with
    | ready made _ _ =>
      exact .finished (made_of_access same made) rfl rfl rfl rfl blocks rfl

/-- The calls that the engine makes of a suite, in order, are those of the protocol, provided that
none of them ends the process and nothing unguarded panics. -/
theorem run_protocol (suite : Suite κ σ) (clock : Clock) (window : Window κ) (s : Scene κ σ) :
    ∃ log, (∀ past, (run suite.watched clock window).run (s.watching past) =
        (((run suite clock window).run s).1,
          ((run suite clock window).run s).2.watching (past ++ log))) ∧
      ((∀ v ∈ log, v.Regular) → Protocol suite clock s log ((run suite clock window).run s).1) := by
  obtain ⟨log, listed, walk⟩ := follows_run suite clock window s
  exact ⟨log, listed, fun regular => walk.protocol regular⟩

/-- A suite of three groups of two runs each. The operation of the second group counts its calls and
fails at the eighth; the third group panics at its end. -/
def tiring : Suite Float Nat where
  operations := pure [⟨"fresh", pure ()⟩,
    ⟨"tired", fun s => (if s.1 = 7 then .error (.failure (.message "spent")) else .ok (), s.1 + 1, s.2)⟩,
    ⟨"last", pure ()⟩]
  groupStarts group := pure [.named (group ++ " one"), .named (group ++ " two")]
  groupEnds group := if group = "last" then throw (.panicking "asleep") else pure ()

/-- Where the suite starts: its runs have two repetitions of two calls. -/
def rested : Scene Float Nat where
  state := 0
  context :=
    { suite := "tiring", outputDirectory := "", properties := .empty
      knobs := ⟨2, 2, 0, Nat.two_pos, Nat.two_pos⟩, progress := 0 }
  world := {}

/-- The second group fails at the last call of its last repetition. -/
theorem run_protocol_tiring : ∃ log : List (Visit Float Nat), log.length = 58 ∧
    ((run tiring (fun _ => 0) .full).run rested).1.toOption =
      some { suite := "tiring", completed := ["fresh"], failed := ["tired", "last"] } ∧
    ((run tiring (fun _ => 0) .full).run rested).2.state = 8 ∧ (∀ v ∈ log, v.Regular) ∧
    Protocol tiring (fun _ => 0) rested log ((run tiring (fun _ => 0) .full).run rested).1 := by
  obtain ⟨log, listed, protocol⟩ := run_protocol tiring (fun _ => 0) .full rested
  have same : ((run tiring.watched (fun _ => 0) .full).run (rested.watching [])).2.state.2 = log :=
    congrArg (fun result => result.2.state.2) (listed [])
  have length : log.length = 58 := by
    rw [← same]
    decide +kernel
  have regular : ∀ v ∈ log, v.Regular := by
    rw [← same]
    decide +kernel
  exact ⟨log, length, by decide +kernel, by decide +kernel, regular, protocol regular⟩

/-- A suite that refuses to start its only group. -/
def refusing : Suite Float Unit where
  operations := pure [⟨"only", pure ()⟩]
  groupStarts _ := throw (.failure (.message "no runs"))

end Engine

end Microbench
