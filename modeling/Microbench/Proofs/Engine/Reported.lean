import Microbench.Proofs.Engine.Protocol

/-!
# Reported failures

A suite is told of the failure of a group if and only if the summary counts the group among those
that failed.

* `run_reported_iff`: whichever groups there are and however each of them ends.
-/

namespace Microbench

variable {κ σ : Type}

/-- The call tells the suite that the group failed. -/
def Call.Reports : Call → String → Prop
  | .groupFailed failed _, group => group = failed
  | _, _ => False

/-- One of the calls tells the suite that the group failed. -/
def Reported (log : List (Visit κ σ)) (group : String) : Prop := ∃ v ∈ log, v.call.Reports group

section Lists

variable {log log' : List (Visit κ σ)} {v : Visit κ σ} {group : String}

theorem not_reported_nil : ¬ Reported ([] : List (Visit κ σ)) group := by
  rintro ⟨_, mem, _⟩
  cases mem

theorem reported_cons :
    Reported (v :: log) group ↔ v.call.Reports group ∨ Reported log group := by
  unfold Reported
  simp only [List.mem_cons, exists_eq_or_imp]

theorem reported_append :
    Reported (log ++ log') group ↔ Reported log group ∨ Reported log' group := by
  unfold Reported
  simp only [List.mem_append, or_and_right, exists_or]

theorem reported_singleton : Reported [v] group ↔ v.call.Reports group := by
  rw [reported_cons]
  exact or_iff_left not_reported_nil

theorem reported_concat_of_silent (silent : ¬ v.call.Reports group) :
    Reported (log ++ [v]) group ↔ Reported log group := by
  rw [reported_append, reported_singleton]
  exact or_iff_left silent

end Lists

/-! ## Runs report nothing -/

theorem not_reports_of_mem_runPlan {clock : Clock} {run : Run} {place : BatchPlace} {knobs : Knobs}
    {call : Call} (mem : call ∈ runPlan clock run place knobs) (group : String) :
    ¬ call.Reports group := by
  rw [runPlan, List.mem_append, List.mem_append, List.mem_flatMap] at mem
  rcases mem with (first | ⟨_, _, inside⟩) | last
  · split at first
    · rw [List.mem_singleton.mp first]
      exact id
    · cases first
  · rcases List.mem_cons.mp inside with rfl | same
    · exact id
    · rw [List.eq_of_mem_replicate same]
      exact id
  · rw [List.mem_singleton.mp last]
    exact id

theorem RunsCalls.not_reported {clock : Clock} {group : String} {index i : Nat} {rs : List Run}
    {log : List (Visit κ σ)} {answer : Except Stop Unit}
    (h : RunsCalls clock group index i rs log answer) (other : String) : ¬ Reported log other := by
  have silent : ∀ {i : Nat} {run : Run} {knobs : Knobs} {log : List (Visit κ σ)}
      {reason? : Option (Call × Stop)},
      Carried (runPlan clock run ⟨index, i, 0⟩ knobs) log reason? → ¬ Reported log other := by
    rintro i run knobs log reason? carried ⟨v, mem, reports⟩
    exact not_reports_of_mem_runPlan (carried.call_mem _ mem) other reports
  induction h with
  | none => exact not_reported_nil
  | next _ carried _ ih =>
    rw [reported_append]
    exact not_or.mpr ⟨silent carried, ih⟩
  | stop _ carried => exact silent carried

theorem BodyCalls.not_reported {clock : Clock} {group : String} {index : Nat}
    {log : List (Visit κ σ)} {answer : Except Stop Unit}
    (h : BodyCalls clock group index log answer) (other : String) : ¬ Reported log other := by
  cases h with
  | refused made _ =>
    rw [reported_singleton, made]
    exact id
  | started made _ runs =>
    rw [reported_cons, made]
    exact not_or.mpr ⟨id, runs.not_reported other⟩

/-! ## Groups -/

namespace Engine

variable {suite : Suite κ σ} {clock : Clock} {other : String}

/-- After a failure the suite is told of it, and of nothing else. -/
theorem FailureWalk.reported_iff {group : String} {error : BenchError} {ended : Bool}
    {s t : Scene κ σ} {log : List (Visit κ σ)} {answer : Except Stop Unit}
    (walk : FailureWalk suite group error ended s log answer t) :
    Reported log other ↔ other = group := by
  cases walk with
  | crashed _ _ => exact reported_singleton
  | told _ _ _ => exact reported_singleton
  | ended _ _ _ _ _ =>
    rw [reported_cons, reported_singleton]
    exact or_iff_left id
  | halted _ _ _ _ =>
    rw [reported_cons, reported_singleton]
    exact or_iff_left id

variable [Arithmetic κ]

theorem OutcomeWalk.reported_iff {operation : Operation σ} {index : Nat} {window : Window κ}
    {s t : Scene κ σ} {log : List (Visit κ σ)} {answer : Except Stop Bool}
    (walk : OutcomeWalk suite clock operation index window s log answer t) {completed : Bool}
    (returned : answer = .ok completed) :
    Reported log other ↔ completed = false ∧ other = operation.name := by
  cases walk with
  | halted _ _ => cases returned
  | endHalted _ _ _ => cases returned
  | @failed _ _ _ _ _ _ answer body _ failure =>
    rw [reported_append, failure.reported_iff]
    cases answer with
    | error _ => cases returned
    | ok _ =>
      cases returned
      simp only [body.calls.not_reported other, false_or, true_and]
  | @endFailed _ _ _ _ _ _ _ _ answer body _ _ failure =>
    have ends : ¬ (Call.groupEnds operation.name).Reports other := id
    rw [reported_append, reported_cons, failure.reported_iff]
    cases answer with
    | error _ => cases returned
    | ok _ =>
      cases returned
      simp only [body.calls.not_reported other, Scene.visit, ends, false_or, true_and]
  | completed body _ _ =>
    have ends : ¬ (Call.groupEnds operation.name).Reports other := id
    cases returned
    rw [reported_append, reported_singleton]
    simp only [body.calls.not_reported other, Scene.visit, ends, or_self, Bool.true_eq_false,
      false_and]

theorem GroupsWalk.reported_iff {index : Nat} {summary : Summary}
    {list : List (Operation σ × Window κ)} {s t : Scene κ σ} {log : List (Visit κ σ)}
    {answer : Except Stop Summary}
    (walk : GroupsWalk suite clock index summary list s log answer t) {final : Summary}
    (returned : answer = .ok final) :
    other ∈ final.failed ↔ other ∈ summary.failed ∨ Reported log other := by
  induction walk with
  | none =>
    cases returned
    exact (or_iff_left not_reported_nil).symm
  | stop _ => cases returned
  | @next _ _ _ _ _ _ _ _ _ _ completed _ walk _ ih =>
    cases walk with
    | finished walk =>
      rw [ih returned, reported_append, walk.reported_iff rfl, ← or_assoc]
      apply or_congr_left
      cases completed <;> simp [Summary.tally]

omit [Arithmetic κ] in
theorem SetUpWalk.not_reported {s t : Scene κ σ} {log : List (Visit κ σ)} {answer : Except Stop Unit}
    (walk : SetUpWalk suite s log answer t) : ¬ Reported log other := by
  cases walk with
  | noDirectory _ => exact not_reported_nil
  | _ =>
    rw [reported_singleton]
    exact id

/-- The groups that failed are those that the suite was told of. -/
theorem run_reported_iff (suite : Suite κ σ) (clock : Clock) (window : Window κ) (s : Scene κ σ) :
    ∃ log, (∀ past, (run suite.watched clock window).run (s.watching past) =
        (((run suite clock window).run s).1,
          ((run suite clock window).run s).2.watching (past ++ log))) ∧
      ∀ summary, ((run suite clock window).run s).1 = .ok summary →
        ∀ group, group ∈ summary.failed ↔ Reported log group := by
  obtain ⟨log, listed, walk⟩ := follows_run suite clock window s
  refine ⟨log, listed, fun summary returned group => ?_⟩
  rw [returned] at walk
  cases walk with
  | finished _ setUp _ groups _ _ _ =>
    rw [groups.reported_iff rfl, reported_append, reported_cons, reported_append, reported_singleton]
    have operations : ¬ Call.operations.Reports group := id
    have last : ¬ Call.tearDown.Reports group := id
    simp only [List.not_mem_nil, setUp.not_reported, Scene.invocation, Scene.visit, operations, last,
      false_or, or_false]

end Engine

end Microbench
