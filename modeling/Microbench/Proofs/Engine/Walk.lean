import Microbench.Proofs.Engine.Watched

/-!
# Walks of the engine

A walk is what the engine does from one scene to another: the calls that it makes of the suite, and
its answer. There is an inductive relation for every level of the engine (calls, repetition, run,
group, suite), with a rule for each way in which that level can end; the premises of a rule are the
calls themselves, made from the scenes that the engine makes them from. Behind each relation stands
the lemma that the engine follows it at that level.

* `follows_run`: every run of the engine is a walk, and the calls of the walk are those that the
  watched suite lists.

What holds of all walks is proved by induction on them; nothing else unfolds the engine.
-/

namespace Microbench.Engine

open CodeWith Scene

variable {κ σ : Type}

/-! ## Calls of an operation -/

section Calls

variable (operation : Operation σ) (place : Nat)

/-- Calls of the operation at a place, up to the first that does not return. -/
inductive CallsWalk :
    Nat → Scene κ σ → List (Visit κ σ) → Except Stop Unit → Scene κ σ → Prop
  | none {s : Scene κ σ} : CallsWalk 0 s [] (.ok ()) s
  | next {n : Nat} {s t u : Scene κ σ} {log : List (Visit κ σ)} {answer : Except Stop Unit} :
    (ofWork operation.call).run s = (.ok (), t) → CallsWalk n t log answer u →
    CallsWalk (n + 1) s (s.invocation (.operation place) .returned :: log) answer u
  | stop {n : Nat} {s t : Scene κ σ} {e : Stop} :
    (ofWork operation.call).run s = (.error e, t) →
    CallsWalk (n + 1) s [s.invocation (.operation place) (.stopped e)] (.error e) t

variable {operation place}

theorem run_ofWork {ε α : Type} (x : Work ε σ α) (s : Scene κ σ) :
    (ofWork x : CodeWith ε κ σ α).run s =
      ((x.run (s.state, s.world)).1,
        ⟨(x.run (s.state, s.world)).2.1, s.context, (x.run (s.state, s.world)).2.2⟩) := rfl

theorem run_callTimes_succ (call : Work Stop σ Unit) (n : Nat) (w : σ × World) :
    (callTimes call (n + 1)).run w =
      match call.run w with
      | (.ok (), w') => (callTimes call n).run w'
      | (.error e, w') => (.error e, w') := rfl

theorem run_ofWork_callTimes_of_ok {call : Work Stop σ Unit} {n : Nat} {s t : Scene κ σ}
    (h : (ofWork call : Code κ σ Unit).run s = (.ok (), t)) :
    (ofWork (callTimes call (n + 1))).run s = (ofWork (callTimes call n)).run t := by
  rw [run_ofWork] at h
  rcases hc : call.run (s.state, s.world) with ⟨a, state, world⟩
  rw [hc] at h
  cases h
  simp only [run_ofWork, run_callTimes_succ, hc]

theorem run_ofWork_callTimes_of_error {call : Work Stop σ Unit} {n : Nat} {s t : Scene κ σ}
    {e : Stop} (h : (ofWork call : Code κ σ Unit).run s = (.error e, t)) :
    (ofWork (callTimes call (n + 1))).run s = (.error e, t) := by
  rw [run_ofWork] at h
  rcases hc : call.run (s.state, s.world) with ⟨a, state, world⟩
  rw [hc] at h
  cases h
  simp only [run_ofWork, run_callTimes_succ, hc]

theorem run_watched_call {s t : Scene κ σ} {a : Except Stop Unit}
    (h : (ofWork operation.call).run s = (a, t)) (past : List (Visit κ σ)) :
    (ofWork (operation.watched place).call).run (s.watching past) =
      (a, t.watching (past ++ [s.invocation (.operation place) (.of id (fun _ => .returned) a)])) := by
  cases h
  rfl

theorem follows_callTimes (operation : Operation σ) (place n : Nat) (s : Scene κ σ) :
    Follows s (ofWork (callTimes operation.call n))
      (ofWork (callTimes (operation.watched place).call n)) (CallsWalk operation place n s) := by
  induction n generalizing s with
  | zero => exact ⟨[], fun past => by rw [List.append_nil]; rfl, .none⟩
  | succ n ih =>
    rcases h : (ofWork operation.call : Code κ σ Unit).run s with ⟨a, t⟩
    have watched := @run_watched_call _ _ _ place _ _ _ h
    cases a with
    | error e =>
      refine ⟨[s.invocation (.operation place) (.stopped e)], fun past => ?_, ?_⟩
      · rw [run_ofWork_callTimes_of_error h, run_ofWork_callTimes_of_error (watched past)]
        rfl
      · rw [run_ofWork_callTimes_of_error h]
        exact .stop h
    | ok a =>
      obtain ⟨log, run, walk⟩ := ih t
      refine ⟨s.invocation (.operation place) .returned :: log, fun past => ?_, ?_⟩
      · rw [run_ofWork_callTimes_of_ok h, run_ofWork_callTimes_of_ok (watched past), run,
          List.append_assoc]
        rfl
      · rw [run_ofWork_callTimes_of_ok h]
        exact .next h walk

/-- What stops a group when a call of its operation during a run was stopped. -/
def callStop (group run : String) : Stop → Stop
  | .failure e => .failure (.operation group run e none)
  | .crash c => .crash c

theorem run_batch (operation : Operation σ) (run : Run) (n : Nat) (s : Scene κ σ) :
    (batch operation run n).run s =
      (((ofWork (callTimes operation.call n)).run s).1.mapError (callStop operation.name run.name),
        ((ofWork (callTimes operation.call n)).run s).2) := by
  unfold batch
  simp only [ExceptT.run]
  rcases (ofWork (callTimes operation.call n) : Code κ σ Unit) s with ⟨a, t⟩
  cases a with
  | ok _ => rfl
  | error e => cases e <;> rfl

theorem follows_batch (operation : Operation σ) (run : Run) (place n : Nat) (s : Scene κ σ) :
    Follows s (batch operation run n) (batch (operation.watched place) run n)
      fun log answer t => ∃ raw, CallsWalk operation place n s log raw t ∧
        answer = raw.mapError (callStop operation.name run.name) := by
  obtain ⟨log, calls, walk⟩ := follows_callTimes (κ := κ) operation place n s
  refine ⟨log, fun past => ?_, ((ofWork (callTimes operation.call n)).run s).1, ?_, ?_⟩
  · rw [run_batch, run_batch, calls]
    rfl
  · rw [run_batch]
    exact walk
  · rw [run_batch]

end Calls

/-! ## Repetitions -/

section Repetitions

variable [Arithmetic κ] (suite : Suite κ σ) (clock : Clock) (operation : Operation σ) (run : Run)
  (calls : Nat)

/-- One repetition: its hook, then the calls of a batch. -/
inductive RepetitionWalk (place : BatchPlace) (window : Window κ) :
    Scene κ σ → List (Visit κ σ) → Except Stop Measurement → Scene κ σ → Prop
  | refused {s s' t : Scene κ σ} {e : Stop} :
    s' = s.adjusted (·.advance window.start) →
    (suite.repetitionStarts run place.repetition).run s' = (.error e, t) →
    RepetitionWalk place window s
      [s'.visit (.repetitionStarts run place.repetition) (.stopped e)] (.error e) t
  | stopped {s s' t t' u : Scene κ σ} {log : List (Visit κ σ)} {e : Stop} :
    s' = s.adjusted (·.advance window.start) →
    (suite.repetitionStarts run place.repetition).run s' = (.ok (), t) →
    SameButNotes t t' → CallsWalk operation place.group calls t' log (.error e) u →
    RepetitionWalk place window s
      (s'.visit (.repetitionStarts run place.repetition) .returned :: log)
      (.error (callStop operation.name run.name e)) u
  | measured {s s' t t' u v : Scene κ σ} {log : List (Visit κ σ)} :
    s' = s.adjusted (·.advance window.start) →
    (suite.repetitionStarts run place.repetition).run s' = (.ok (), t) →
    SameButNotes t t' → CallsWalk operation place.group calls t' log (.ok ()) u →
    SameButNotes (u.adjusted (·.advance window.finish)) v →
    RepetitionWalk place window s
      (s'.visit (.repetitionStarts run place.repetition) .returned :: log)
      (.ok ⟨run.scaling.apply (clock place), calls⟩) v

/-- The repetitions of a run from the one at a place. -/
inductive RepetitionsWalk :
    BatchPlace → List (Window κ) → Scene κ σ → List (Visit κ σ) →
      Except Stop (List Measurement) → Scene κ σ → Prop
  | none {place : BatchPlace} {s : Scene κ σ} : RepetitionsWalk place [] s [] (.ok []) s
  | stop {place : BatchPlace} {window : Window κ} {rest : List (Window κ)} {s t : Scene κ σ}
      {log : List (Visit κ σ)} {e : Stop} :
    RepetitionWalk suite clock operation run calls place window s log (.error e) t →
    RepetitionsWalk place (window :: rest) s log (.error e) t
  | next {place : BatchPlace} {window : Window κ} {rest : List (Window κ)} {s t u : Scene κ σ}
      {log log' : List (Visit κ σ)} {m : Measurement} {answer : Except Stop (List Measurement)} :
    RepetitionWalk suite clock operation run calls place window s log (.ok m) t →
    RepetitionsWalk { place with repetition := place.repetition + 1 } rest t log' answer u →
    RepetitionsWalk place (window :: rest) s (log ++ log') (answer.map (m :: ·)) u

theorem follows_repetition (place : BatchPlace) (window : Window κ) (s : Scene κ σ) :
    Follows s (repetition suite clock operation run calls place window)
      (repetition suite.watched clock (operation.watched place.group) run calls place window)
      (RepetitionWalk suite clock operation run calls place window s) := by
  refine .adjust (.bind (.called _ _ _ _ _) ?_ ?_)
  · rintro log e t ⟨rfl, refused⟩
    exact .refused rfl refused
  · rintro log _ t ⟨rfl, entered⟩
    refine .context (.note (.bind (follows_batch _ _ _ _ _) ?_ ?_))
    · rintro log e u ⟨raw, walk, stopped⟩
      cases raw with
      | ok _ => cases stopped
      | error e =>
        cases stopped
        exact .stopped rfl entered (.noted _ _) walk
    · rintro log _ u ⟨raw, walk, returned⟩
      cases raw with
      | error e => cases returned
      | ok _ =>
        refine .adjust (.note (.pure ?_))
        rw [List.append_nil]
        exact .measured rfl entered (.noted _ _) walk (.noted _ _)

theorem follows_repetitions (place : BatchPlace) (windows : List (Window κ)) (s : Scene κ σ) :
    Follows s (repetitions suite clock operation run calls place windows)
      (repetitions suite.watched clock (operation.watched place.group) run calls place windows)
      (RepetitionsWalk suite clock operation run calls place windows s) := by
  induction windows generalizing place s with
  | nil => exact .pure .none
  | cons window rest ih =>
    refine .bind (follows_repetition suite clock operation run calls place window s) ?_ ?_
    · intro log e t walk
      exact .stop walk
    · intro log m t walk
      refine .bind (ih _ t) ?_ ?_
      · intro log' e u later
        exact .next walk later
      · intro log' ms u later
        refine .pure ?_
        rw [List.append_nil]
        exact .next walk later

end Repetitions

/-! ## Runs -/

section Runs

variable (suite : Suite κ σ) (clock : Clock) (operation : Operation σ)

/-- The start of a run; its hook is for runs of several repetitions. -/
inductive StartWalk (run : Run) :
    Scene κ σ → List (Visit κ σ) → Except Stop Unit → Scene κ σ → Prop
  | single {s : Scene κ σ} :
    ¬ 1 < s.context.knobs.repetitions →
    StartWalk run s [] (.ok ()) (s.adjusted fun c => { c with current := some run })
  | several {s s' t : Scene κ σ} {answer : Except Stop Unit} :
    1 < s.context.knobs.repetitions → s' = s.adjusted (fun c => { c with current := some run }) →
    (suite.runStarts run).run s' = (answer, t) →
    StartWalk run s [s'.visit (.runStarts run) (.of id (fun _ => .returned) answer)] answer t

/-- The context after a run was measured. -/
def measured (done : Run) (c : Context κ) : Context κ :=
  { c with current := none, terminated := c.terminated ++ [done] }

theorem follows_runStart (run : Run) (s : Scene κ σ) :
    Follows s (runStart suite run s.context.knobs.repetitions)
      (runStart suite.watched run s.context.knobs.repetitions) (StartWalk suite run s) := by
  refine .adjust ?_
  by_cases several : 1 < s.context.knobs.repetitions
  · rw [if_pos several, if_pos several]
    apply (Follows.called _ _ _ _ _).mono
    rintro log answer t ⟨rfl, entered⟩
    exact .several several rfl entered
  · rw [if_neg several, if_neg several]
    exact .pure (.single several)

theorem follows_runEnd (run : Run) (place : Nat) (ms : List Measurement) (s : Scene κ σ) :
    Follows s (runEnd suite operation run ms)
      (runEnd suite.watched (operation.watched place) run ms) fun log answer t =>
        ∃ done s', done = run.complete (.ofMeasurements ms) ∧
          log = [s'.visit (.runEnds done) (.of id (fun _ => .returned) answer)] ∧
          (suite.runEnds done).run s' = (answer, t) ∧
          SameButNotes (s.adjusted (measured done)) s' := by
  unfold runEnd
  by_cases twice : run.isCompleted = true
  · simp only [twice, if_true]
    refine .note (.adjust (.note (.adjust ((Follows.called _ _ _ _ _).mono ?_))))
    rintro log answer t ⟨listed, entered⟩
    exact ⟨_, _, rfl, listed, entered, ⟨rfl, rfl, rfl, rfl, rfl, rfl, rfl⟩⟩
  · simp only [twice]
    refine .adjust (.note (.adjust ((Follows.called _ _ _ _ _).mono ?_)))
    rintro log answer t ⟨listed, entered⟩
    exact ⟨_, _, rfl, listed, entered, ⟨rfl, rfl, rfl, rfl, rfl, rfl, rfl⟩⟩

variable [Arithmetic κ]

/-- One run. The knobs of its first scene hold to its end. -/
inductive RunWalk (run : Run) (place : BatchPlace) (window : Window κ) :
    Scene κ σ → List (Visit κ σ) → Except Stop Unit → Scene κ σ → Prop
  | refused {s t : Scene κ σ} {log : List (Visit κ σ)} {e : Stop} :
    StartWalk suite run s log (.error e) t → RunWalk run place window s log (.error e) t
  | stopped {s t u : Scene κ σ} {log log' : List (Visit κ σ)} {e : Stop} :
    StartWalk suite run s log (.ok ()) t →
    RepetitionsWalk suite clock operation run s.context.knobs.calls place
      (window.split s.context.knobs.repetitions) t log' (.error e) u →
    RunWalk run place window s (log ++ log') (.error e) u
  | ended {s t u u' v : Scene κ σ} {log log' : List (Visit κ σ)} {ms : List Measurement}
      {done : Run} {answer : Except Stop Unit} :
    StartWalk suite run s log (.ok ()) t →
    RepetitionsWalk suite clock operation run s.context.knobs.calls place
      (window.split s.context.knobs.repetitions) t log' (.ok ms) u →
    done = run.complete (.ofMeasurements ms) → SameButNotes (u.adjusted (measured done)) u' →
    (suite.runEnds done).run u' = (answer, v) →
    RunWalk run place window s
      (log ++ (log' ++ [u'.visit (.runEnds done) (.of id (fun _ => .returned) answer)])) answer v

/-- The runs of a group from the one at a place. -/
inductive RunsWalk :
    BatchPlace → List (Run × Window κ) → Scene κ σ → List (Visit κ σ) → Except Stop Unit →
      Scene κ σ → Prop
  | none {place : BatchPlace} {s : Scene κ σ} : RunsWalk place [] s [] (.ok ()) s
  | stop {place : BatchPlace} {run : Run} {window : Window κ} {rest : List (Run × Window κ)}
      {s t : Scene κ σ} {log : List (Visit κ σ)} {e : Stop} :
    RunWalk suite clock operation run place window s log (.error e) t →
    RunsWalk place ((run, window) :: rest) s log (.error e) t
  | next {place : BatchPlace} {run : Run} {window : Window κ} {rest : List (Run × Window κ)}
      {s t u : Scene κ σ} {log log' : List (Visit κ σ)} {answer : Except Stop Unit} :
    RunWalk suite clock operation run place window s log (.ok ()) t →
    RunsWalk { place with run := place.run + 1 } rest t log' answer u →
    RunsWalk place ((run, window) :: rest) s (log ++ log') answer u

theorem follows_runOne (run : Run) (place : BatchPlace) (window : Window κ) (s : Scene κ σ) :
    Follows s (runOne suite clock operation run place window)
      (runOne suite.watched clock (operation.watched place.group) run place window)
      (RunWalk suite clock operation run place window s) := by
  refine Follows.context (.bind (follows_runStart suite run s) ?_ ?_)
  · intro log e t start
    exact .refused start
  · intro log _ t start
    refine .bind (follows_repetitions suite clock operation run _ place _ t) ?_ ?_
    · intro log' e u walk
      exact .stopped start walk
    · intro log' ms u walk
      apply (follows_runEnd suite operation run place.group ms u).mono
      rintro log'' answer v ⟨done, u', complete, rfl, ended, same⟩
      exact .ended start walk complete same ended

theorem follows_runs (place : BatchPlace) (rs : List (Run × Window κ)) (s : Scene κ σ) :
    Follows s (runs suite clock operation place rs)
      (runs suite.watched clock (operation.watched place.group) place rs)
      (RunsWalk suite clock operation place rs s) := by
  induction rs generalizing place s with
  | nil => exact .pure .none
  | cons head rest ih =>
    rcases head with ⟨run, window⟩
    refine .bind (follows_runOne suite clock operation run place window s) ?_ ?_
    · intro log e t walk
      exact .stop walk
    · intro log _ t walk
      apply (ih _ t).mono
      intro log' answer u later
      exact .next walk later

end Runs

/-! ## Groups -/

section GroupBody

variable [Arithmetic κ] (suite : Suite κ σ) (clock : Clock) (operation : Operation σ)

/-- The context when a group starts. -/
def opened (window : Window κ) (c : Context κ) : Context κ :=
  { c with terminated := [] }.advance window.start

/-- The start of a group and its runs: how many there were. -/
inductive BodyWalk (index : Nat) (window : Window κ) :
    Scene κ σ → List (Visit κ σ) → Except Stop Nat → Scene κ σ → Prop
  | refused {s s' t : Scene κ σ} {e : Stop} :
    SameButNotes (s.adjusted (opened window)) s' →
    (suite.groupStarts operation.name).run s' = (.error e, t) →
    BodyWalk index window s [s'.visit (.groupStarts operation.name) (.stopped e)] (.error e) t
  | started {s s' t u : Scene κ σ} {rs : List Run} {log : List (Visit κ σ)}
      {answer : Except Stop Unit} :
    SameButNotes (s.adjusted (opened window)) s' →
    (suite.groupStarts operation.name).run s' = (.ok rs, t) →
    RunsWalk suite clock operation ⟨index, 0, 0⟩ (rs.zip (window.split rs.length)) t log answer u →
    BodyWalk index window s (s'.visit (.groupStarts operation.name) (.runs rs) :: log)
      (answer.map fun _ => rs.length) u

theorem follows_groupBody (index : Nat) (window : Window κ) (s : Scene κ σ) :
    Follows s (groupBody suite clock operation index window)
      (groupBody suite.watched clock (operation.watched index) index window)
      (BodyWalk suite clock operation index window s) := by
  refine .adjust (.adjust (.context (.note (.bind (.called _ _ _ _ _) ?_ ?_))))
  · rintro log e t ⟨rfl, refused⟩
    exact .refused (.noted _ _) refused
  · rintro log rs t ⟨rfl, started⟩
    refine .bind (follows_runs suite clock operation ⟨index, 0, 0⟩ _ t) ?_ ?_
    · intro log' e u walk
      exact .started (s := s) (.noted _ _) started walk
    · intro log' _ u walk
      refine .pure ?_
      rw [List.append_nil]
      exact .started (s := s) (.noted _ _) started walk

end GroupBody

section GroupFailure

variable (suite : Suite κ σ)

/-- The context between two runs. -/
def idle (c : Context κ) : Context κ := { c with current := none }

/-- What becomes of a failed group. Whether its end had begun comes first. -/
inductive FailureWalk (group : String) (error : BenchError) :
    Bool → Scene κ σ → List (Visit κ σ) → Except Stop Unit → Scene κ σ → Prop
  | crashed {ended : Bool} {s s' t : Scene κ σ} {c : Crash} :
    s' = s.adjusted idle → (suite.groupFailed group error).run s' = (.error c, t) →
    FailureWalk group error ended s
      [s'.visit (.groupFailed group error) (.stopped (.crash c))] (.error (.crash c)) t
  | told {s s' t t' : Scene κ σ} :
    s' = s.adjusted idle → (suite.groupFailed group error).run s' = (.ok (), t) →
    SameButNotes t t' →
    FailureWalk group error true s [s'.visit (.groupFailed group error) .returned] (.ok ()) t'
  | ended {s s' t u u' : Scene κ σ} {answer : Except Stop Unit} :
    s' = s.adjusted idle → (suite.groupFailed group error).run s' = (.ok (), t) →
    (suite.groupEnds group).run t = (answer, u) →
    (∀ e, answer = .error e → e.caught? ≠ none) → SameButNotes u u' →
    FailureWalk group error false s
      [s'.visit (.groupFailed group error) .returned,
        t.visit (.groupEnds group) (.of id (fun _ => .returned) answer)] (.ok ()) u'
  | halted {s s' t u : Scene κ σ} {e : Stop} :
    s' = s.adjusted idle → (suite.groupFailed group error).run s' = (.ok (), t) →
    (suite.groupEnds group).run t = (.error e, u) → e.caught? = none →
    FailureWalk group error false s
      [s'.visit (.groupFailed group error) .returned, t.visit (.groupEnds group) (.stopped e)]
      (.error e) u

theorem follows_failedGroupEnd_false (name group : String) (s : Scene κ σ) :
    Follows s (failedGroupEnd suite name group false) (failedGroupEnd suite.watched name group false)
      fun log answer t => ∃ a u, (suite.groupEnds group).run s = (a, u) ∧
        log = [s.visit (.groupEnds group) (.of id (fun _ => .returned) a)] ∧
        ((∀ e, a = .error e → e.caught? ≠ none) ∧ answer = .ok () ∧ SameButNotes u t ∨
          ∃ e, a = .error e ∧ e.caught? = none ∧ answer = .error e ∧ t = u) := by
  refine .bind (.contain (.called _ _ _ _ _)) ?_ ?_
  · rintro log e t (⟨_, _, done⟩ | ⟨_, _, _, _, done⟩ | ⟨e', ⟨rfl, ended⟩, uncaught, done⟩)
    · cases done
    · cases done
    · cases done
      exact ⟨_, _, ended, rfl, .inr ⟨e, rfl, uncaught, rfl, rfl⟩⟩
  · rintro log a t (⟨_, ⟨rfl, ended⟩, done⟩ | ⟨e, c, ⟨rfl, ended⟩, caught, done⟩ | ⟨_, _, _, done⟩)
    · cases done
      refine .pure ?_
      rw [List.append_nil]
      exact ⟨_, _, ended, rfl, .inl ⟨nofun, rfl, .refl _⟩⟩
    · cases done
      refine .noting ?_
      rw [List.append_nil]
      refine ⟨_, _, ended, rfl, .inl ⟨?_, rfl, .noted _ _⟩⟩
      intro e' same
      cases same
      rw [caught]
      nofun
    · cases done

theorem follows_groupFailure (name group : String) (error : BenchError) (ended : Bool)
    (s : Scene κ σ) :
    Follows s (groupFailure suite name group error ended)
      (groupFailure suite.watched name group error ended)
      (FailureWalk suite group error ended s) := by
  refine .adjust (.bind (.ofCrashing (.called _ _ _ _ _)) ?_ ?_)
  · rintro log e t ⟨a, ⟨rfl, told⟩, crashed⟩
    cases a with
    | ok _ => cases crashed
    | error c =>
      cases crashed
      exact .crashed rfl told
  · rintro log _ t ⟨a, ⟨rfl, told⟩, returned⟩
    cases a with
    | error c => cases returned
    | ok _ =>
      cases ended with
      | true =>
        refine .noting ?_
        rw [List.append_nil]
        exact .told rfl told (.noted _ _)
      | false =>
        apply (follows_failedGroupEnd_false suite name group t).mono
        rintro log answer u' ⟨a, u, end', rfl, ⟨lives, rfl, same⟩ | ⟨e, rfl, uncaught, rfl, rfl⟩⟩
        · exact .ended rfl told end' lives same
        · exact .halted rfl told end' uncaught

end GroupFailure

section Groups

variable [Arithmetic κ] (suite : Suite κ σ) (clock : Clock)

/-- What comes of a group: whether it completed. -/
inductive OutcomeWalk (operation : Operation σ) (index : Nat) (window : Window κ) :
    Scene κ σ → List (Visit κ σ) → Except Stop Bool → Scene κ σ → Prop
  | halted {s t : Scene κ σ} {log : List (Visit κ σ)} {e : Stop} :
    BodyWalk suite clock operation index window s log (.error e) t → e.caught? = none →
    OutcomeWalk operation index window s log (.error e) t
  | failed {s t u : Scene κ σ} {log log' : List (Visit κ σ)} {e : Stop} {c : Caught}
      {answer : Except Stop Unit} :
    BodyWalk suite clock operation index window s log (.error e) t → e.caught? = some c →
    FailureWalk suite operation.name (c.groupError operation.name) false t log' answer u →
    OutcomeWalk operation index window s (log ++ log') (answer.map fun _ => false) u
  | endHalted {s t u : Scene κ σ} {log : List (Visit κ σ)} {count : Nat} {e : Stop} :
    BodyWalk suite clock operation index window s log (.ok count) t →
    (suite.groupEnds operation.name).run t = (.error e, u) → e.caught? = none →
    OutcomeWalk operation index window s
      (log ++ [t.visit (.groupEnds operation.name) (.stopped e)]) (.error e) u
  | endFailed {s t u v : Scene κ σ} {log log' : List (Visit κ σ)} {count : Nat} {e : Stop}
      {c : Caught} {answer : Except Stop Unit} :
    BodyWalk suite clock operation index window s log (.ok count) t →
    (suite.groupEnds operation.name).run t = (.error e, u) → e.caught? = some c →
    FailureWalk suite operation.name (c.groupError operation.name) true u log' answer v →
    OutcomeWalk operation index window s
      (log ++ (t.visit (.groupEnds operation.name) (.stopped e) :: log'))
      (answer.map fun _ => false) v
  | completed {s t u v : Scene κ σ} {log : List (Visit κ σ)} {count : Nat} :
    BodyWalk suite clock operation index window s log (.ok count) t →
    (suite.groupEnds operation.name).run t = (.ok (), u) →
    SameButNotes (u.adjusted idle) v →
    OutcomeWalk operation index window s
      (log ++ [t.visit (.groupEnds operation.name) .returned]) (.ok true) v

/-- One group within its window. -/
inductive GroupWalk (operation : Operation σ) (index : Nat) (window : Window κ) :
    Scene κ σ → List (Visit κ σ) → Except Stop Bool → Scene κ σ → Prop
  | stop {s t : Scene κ σ} {log : List (Visit κ σ)} {e : Stop} :
    OutcomeWalk suite clock operation index window s log (.error e) t →
    GroupWalk operation index window s log (.error e) t
  | finished {s t : Scene κ σ} {log : List (Visit κ σ)} {completed : Bool} :
    OutcomeWalk suite clock operation index window s log (.ok completed) t →
    GroupWalk operation index window s log (.ok completed) (t.adjusted (·.advance window.finish))

/-- The groups from the one at a place. -/
inductive GroupsWalk :
    Nat → Summary → List (Operation σ × Window κ) → Scene κ σ → List (Visit κ σ) →
      Except Stop Summary → Scene κ σ → Prop
  | none {index : Nat} {summary : Summary} {s : Scene κ σ} :
    GroupsWalk index summary [] s [] (.ok summary) s
  | stop {index : Nat} {summary : Summary} {operation : Operation σ} {window : Window κ}
      {rest : List (Operation σ × Window κ)} {s t : Scene κ σ} {log : List (Visit κ σ)} {e : Stop} :
    GroupWalk suite clock operation index window s log (.error e) t →
    GroupsWalk index summary ((operation, window) :: rest) s log (.error e) t
  | next {index : Nat} {summary : Summary} {operation : Operation σ} {window : Window κ}
      {rest : List (Operation σ × Window κ)} {s t u : Scene κ σ} {log log' : List (Visit κ σ)}
      {completed : Bool} {answer : Except Stop Summary} :
    GroupWalk suite clock operation index window s log (.ok completed) t →
    GroupsWalk (index + 1) (summary.tally operation.name completed) rest t log' answer u →
    GroupsWalk index summary ((operation, window) :: rest) s (log ++ log') answer u

theorem follows_groupEnd (operation : Operation σ) (place : Nat) (window : Window κ) (count : Nat)
    (s : Scene κ σ) :
    Follows s (groupEnd suite operation window count)
      (groupEnd suite.watched (operation.watched place) window count) fun log answer t =>
        log = [s.visit (.groupEnds operation.name) (.of id (fun _ => .returned) answer)] ∧
          ((∃ e, answer = .error e ∧ (suite.groupEnds operation.name).run s = (.error e, t)) ∨
            ∃ u, answer = .ok () ∧ (suite.groupEnds operation.name).run s = (.ok (), u) ∧
              SameButNotes u t) := by
  refine .bind (.called _ _ _ _ _) ?_ ?_
  · rintro log e t ⟨rfl, ended⟩
    exact ⟨rfl, .inl ⟨e, rfl, ended⟩⟩
  · rintro log _ t ⟨rfl, ended⟩
    refine .context (.noting ?_)
    rw [List.append_nil]
    exact ⟨rfl, .inr ⟨t, rfl, ended, .noted _ _⟩⟩

theorem follows_groupOutcome (name : String) (operation : Operation σ) (index : Nat)
    (window : Window κ) (s : Scene κ σ) :
    Follows s (groupOutcome suite clock name operation index window)
      (groupOutcome suite.watched clock name (operation.watched index) index window)
      (OutcomeWalk suite clock operation index window s) := by
  refine .bind (.contain (follows_groupBody suite clock operation index window s)) ?_ ?_
  · rintro log e t (⟨_, _, done⟩ | ⟨_, _, _, _, done⟩ | ⟨e', walk, uncaught, done⟩)
    · cases done
    · cases done
    · cases done
      exact .halted walk uncaught
  · rintro log a t (⟨count, walk, done⟩ | ⟨e, c, walk, caught, done⟩ | ⟨_, _, _, done⟩)
    · cases done
      refine .bind (.contain (follows_groupEnd suite operation index window count t)) ?_ ?_
      · rintro log' e u (⟨_, _, done⟩ | ⟨_, _, _, _, done⟩ | ⟨e', ⟨rfl, ended⟩, uncaught, done⟩)
        · cases done
        · cases done
        · cases done
          rcases ended with ⟨_, same, ended⟩ | ⟨_, same, _⟩
          · cases same
            exact .endHalted walk ended uncaught
          · cases same
      · rintro log' a u (⟨_, ⟨rfl, ended⟩, done⟩ | ⟨e, c, ⟨rfl, ended⟩, caught, done⟩ |
          ⟨_, _, _, done⟩)
        · cases done
          rcases ended with ⟨_, same, _⟩ | ⟨u', _, ended, same⟩
          · cases same
          · refine .adjust (.pure ?_)
            rw [List.append_nil]
            exact .completed walk ended (same.adjusted idle)
        · cases done
          rcases ended with ⟨_, same, ended⟩ | ⟨_, same, _⟩
          · cases same
            refine .bind
              (follows_groupFailure suite name operation.name (c.groupError operation.name) true u) ?_ ?_
            · intro log'' e' v failure
              exact .endFailed walk ended caught failure
            · intro log'' _ v failure
              refine .pure ?_
              rw [List.append_nil]
              exact .endFailed walk ended caught failure
          · cases same
        · cases done
    · cases done
      refine .bind
        (follows_groupFailure suite name operation.name (c.groupError operation.name) false t) ?_ ?_
      · intro log' e' u failure
        exact .failed walk caught failure
      · intro log' _ u failure
        refine .pure ?_
        rw [List.append_nil]
        exact .failed walk caught failure
    · cases done

theorem follows_group (name : String) (operation : Operation σ) (index : Nat) (window : Window κ)
    (s : Scene κ σ) :
    Follows s (group suite clock name operation index window)
      (group suite.watched clock name (operation.watched index) index window)
      (GroupWalk suite clock operation index window s) := by
  refine .bind (follows_groupOutcome suite clock name operation index window s) ?_ ?_
  · intro log e t walk
    exact .stop walk
  · intro log completed t walk
    refine .adjust (.pure ?_)
    rw [List.append_nil]
    exact .finished walk

/-- The operations of a watched suite from the one at a place, each with its window. -/
def watchedFrom (index : Nat) (list : List (Operation σ × Window κ)) :
    List (Operation (Watched κ σ) × Window κ) :=
  list.mapIdx fun i (operation, window) => (operation.watched (index + i), window)

omit [Arithmetic κ] in
theorem watchedFrom_cons (index : Nat) (operation : Operation σ) (window : Window κ)
    (rest : List (Operation σ × Window κ)) : watchedFrom index ((operation, window) :: rest) =
      (operation.watched index, window) :: watchedFrom (index + 1) rest := by
  simp [watchedFrom, List.mapIdx_cons, Nat.add_assoc, Nat.add_comm 1]

omit [Arithmetic κ] in
theorem take_watchedFrom (index count : Nat) (list : List (Operation σ × Window κ)) :
    (watchedFrom index list).take count = watchedFrom index (list.take count) := by
  apply List.ext_getElem (by simp [watchedFrom])
  intro i h h'
  simp [watchedFrom]

omit [Arithmetic κ] in
theorem drop_watchedFrom (index count : Nat) (list : List (Operation σ × Window κ)) :
    (watchedFrom index list).drop count = watchedFrom (index + count) (list.drop count) := by
  apply List.ext_getElem (by simp [watchedFrom])
  intro i h h'
  simp [watchedFrom, Nat.add_assoc]

omit [Arithmetic κ] in
theorem map_name_watchedFrom (index : Nat) (list : List (Operation σ × Window κ)) :
    (watchedFrom index list).map (·.1.name) = list.map (·.1.name) := by
  apply List.ext_getElem (by simp [watchedFrom])
  intro i h h'
  simp [watchedFrom, Operation.watched]

theorem follows_groups (index : Nat) (summary : Summary) (list : List (Operation σ × Window κ))
    (s : Scene κ σ) :
    Follows s (groups suite clock index summary list)
      (groups suite.watched clock index summary (watchedFrom index list))
      (GroupsWalk suite clock index summary list s) := by
  induction list generalizing index summary s with
  | nil => exact .pure .none
  | cons head rest ih =>
    rcases head with ⟨operation, window⟩
    rw [watchedFrom_cons]
    refine .bind (follows_group suite clock summary.suite operation index window s) ?_ ?_
    · intro log e t walk
      exact .stop walk
    · intro log completed t walk
      apply (ih _ _ t).mono
      intro log' answer u later
      exact .next walk later

end Groups

theorem suite_tally (summary : Summary) (group : String) (completed : Bool) :
    (summary.tally group completed).suite = summary.suite := by
  cases completed <;> rfl

/-- A summary after groups of which it is known whether they completed. -/
def tallied (summary : Summary) (fates : List (String × Bool)) : Summary :=
  fates.foldl (fun sum fate => sum.tally fate.1 fate.2) summary

theorem tallied_eq (summary : Summary) (fates : List (String × Bool)) :
    tallied summary fates =
      { summary with
        completed := summary.completed ++ (fates.filter (·.2)).map (·.1)
        failed := summary.failed ++ (fates.filter (!·.2)).map (·.1) } := by
  induction fates generalizing summary with
  | nil => simp [tallied]
  | cons fate fates ih =>
    rcases fate with ⟨group, completed⟩
    have step : tallied summary ((group, completed) :: fates) =
        tallied (summary.tally group completed) fates := rfl
    rw [step, ih]
    cases completed <;> simp [Summary.tally]

/-! ## Suites -/

section Suites

variable (suite : Suite κ σ)

/-- The directory and the hook that a suite starts with. -/
inductive SetUpWalk : Scene κ σ → List (Visit κ σ) → Except Stop Unit → Scene κ σ → Prop
  | noDirectory {s : Scene κ σ} {w : World} {e : IoFailure} :
    s.world.access (Access.makeDirectories s.context.outputDirectory) = (.error e, w) →
    SetUpWalk s [] (.error (.failure (.setUp s.context.suite (.io e)))) { s with world := w }
  | refused {s s' t : Scene κ σ} {w : World} {e : Stop} {c : Caught} :
    s.world.access (Access.makeDirectories s.context.outputDirectory) = (.ok (), w) →
    s' = { s with world := w } → suite.setUp.run s' = (.error e, t) →
    e.caught? = some c →
    SetUpWalk s [s'.visit .setUp (.stopped e)]
      (.error (.failure (.setUp t.context.suite c.error))) t
  | halted {s s' t : Scene κ σ} {w : World} {e : Stop} :
    s.world.access (Access.makeDirectories s.context.outputDirectory) = (.ok (), w) →
    s' = { s with world := w } → suite.setUp.run s' = (.error e, t) →
    e.caught? = none → SetUpWalk s [s'.visit .setUp (.stopped e)] (.error e) t
  | ready {s s' t : Scene κ σ} {w : World} :
    s.world.access (Access.makeDirectories s.context.outputDirectory) = (.ok (), w) →
    s' = { s with world := w } → suite.setUp.run s' = (.ok (), t) →
    SetUpWalk s [s'.visit .setUp .returned] (.ok ()) t

theorem follows_setUp (s : Scene κ σ) :
    Follows s (setUp suite) (setUp suite.watched) (SetUpWalk suite s) := by
  rcases made : s.world.access (Access.makeDirectories s.context.outputDirectory) with ⟨a, w⟩
  refine .context (.access made ?_)
  cases a with
  | error e => exact .context (.throw (.noDirectory made))
  | ok _ =>
    refine .bind (.contain (.called _ _ _ _ _)) ?_ ?_
    · rintro log e t (⟨_, _, done⟩ | ⟨_, _, _, _, done⟩ | ⟨e', ⟨rfl, stopped⟩, uncaught, done⟩)
      · cases done
      · cases done
      · cases done
        exact .halted made rfl stopped uncaught
    · rintro log a t (⟨_, ⟨rfl, ready⟩, done⟩ | ⟨e, c, ⟨rfl, stopped⟩, caught, done⟩ |
        ⟨_, _, _, done⟩)
      · cases done
        refine .pure ?_
        rw [List.append_nil]
        exact .ready made rfl ready
      · cases done
        refine .context (.throw ?_)
        rw [List.append_nil]
        exact .refused made rfl stopped caught
      · cases done

theorem run_tearDown (name : String) (s : Scene κ σ) : (tearDown suite name).run s =
    match suite.tearDown.run s with
    | (.error (.failure e), t) =>
      (.ok (), t.noted ⟨.warning, "dispose failed: " ++ e.text, [("suite", .text name)]⟩)
    | done => done := rfl

theorem follows_tearDown (name : String) (s : Scene κ σ) :
    Follows s (tearDown suite name) (tearDown suite.watched name) fun log answer t => ∃ a u,
      log = [s.visit .tearDown (.of id (fun _ => .returned) a)] ∧
      suite.tearDown.run s = (a, u) ∧
      ((∃ c, a = .error (.crash c) ∧ answer = .error (.crash c) ∧ t = u) ∨
        (∀ c, a ≠ .error (.crash c)) ∧ answer = .ok () ∧ SameButNotes u t) := by
  obtain ⟨log, run, rfl, -⟩ :=
    Follows.called s .tearDown id (fun _ => .returned) suite.tearDown
  rcases h : suite.tearDown.run s with ⟨a, u⟩
  rw [h] at run
  refine ⟨[s.visit .tearDown (.of id (fun _ => .returned) a)], fun past => ?_, a, u, rfl, rfl, ?_⟩
  · have watched : suite.watched.tearDown.run (s.watching past) = _ := run past
    rw [run_tearDown, run_tearDown, h, watched]
    cases a with
    | ok _ => rfl
    | error e => cases e <;> rfl
  · rw [run_tearDown, h]
    cases a with
    | ok _ => exact .inr ⟨nofun, rfl, .refl _⟩
    | error e =>
      cases e with
      | failure e => exact .inr ⟨nofun, rfl, .noted _ _⟩
      | crash c => exact .inl ⟨c, rfl, rfl, rfl⟩

/-- Declaring operations is listed, and the declared ones are watched. -/
theorem run_watched_operations {s t : Scene κ σ} {answer : Except Crash (List (Operation σ))}
    (declared : (ofWork suite.operations).run s = (answer, t)) (past : List (Visit κ σ)) :
    (ofWork suite.watched.operations).run (s.watching past) =
      (answer.map (·.mapIdx Operation.watched),
        t.watching (past ++ [s.invocation .operations (.of Stop.crash Operation.names answer)])) := by
  cases declared
  rfl

variable [Arithmetic κ] (clock : Clock)

/-- The operations that a suite declares and the windows of their groups. -/
def scheduled (window : Window κ) (operations : List (Operation σ)) :
    List (Operation σ × Window κ) :=
  operations.zip (window.split operations.length)

/-- The life of a suite. -/
inductive SuiteWalk (window : Window κ) :
    Scene κ σ → List (Visit κ σ) → Except Stop Summary → Scene κ σ → Prop
  | unready {s s' t : Scene κ σ} {log : List (Visit κ σ)} {e : Stop} :
    SameButNotes (s.adjusted (·.advance window.start)) s' →
    SetUpWalk suite s' log (.error e) t → SuiteWalk window s log (.error e) t
  | undeclared {s s' t u : Scene κ σ} {log : List (Visit κ σ)} {c : Crash} :
    SameButNotes (s.adjusted (·.advance window.start)) s' →
    SetUpWalk suite s' log (.ok ()) t → (ofWork suite.operations).run t = (.error c, u) →
    SuiteWalk window s (log ++ [t.invocation .operations (.stopped (.crash c))])
      (.error (.crash c)) u
  | halted {s s' t u v : Scene κ σ} {log log' : List (Visit κ σ)}
      {operations : List (Operation σ)} {e : Stop} :
    SameButNotes (s.adjusted (·.advance window.start)) s' →
    SetUpWalk suite s' log (.ok ()) t → (ofWork suite.operations).run t = (.ok operations, u) →
    GroupsWalk suite clock 0 { suite := s.context.suite } (scheduled window operations) u log'
      (.error e) v →
    SuiteWalk window s
      (log ++ (t.invocation .operations (.declared (operations.map (·.name))) :: log')) (.error e) v
  | crashed {s s' t u v w : Scene κ σ} {log log' : List (Visit κ σ)}
      {operations : List (Operation σ)} {summary : Summary} {c : Crash} :
    SameButNotes (s.adjusted (·.advance window.start)) s' →
    SetUpWalk suite s' log (.ok ()) t → (ofWork suite.operations).run t = (.ok operations, u) →
    GroupsWalk suite clock 0 { suite := s.context.suite } (scheduled window operations) u log'
      (.ok summary) v →
    suite.tearDown.run v = (.error (.crash c), w) →
    SuiteWalk window s
      (log ++ (t.invocation .operations (.declared (operations.map (·.name))) ::
        (log' ++ [v.visit .tearDown (.stopped (.crash c))]))) (.error (.crash c)) w
  | finished {s s' t u v w w' : Scene κ σ} {log log' : List (Visit κ σ)}
      {operations : List (Operation σ)} {summary : Summary} {answer : Except Stop Unit} :
    SameButNotes (s.adjusted (·.advance window.start)) s' →
    SetUpWalk suite s' log (.ok ()) t → (ofWork suite.operations).run t = (.ok operations, u) →
    GroupsWalk suite clock 0 { suite := s.context.suite } (scheduled window operations) u log'
      (.ok summary) v →
    suite.tearDown.run v = (answer, w) → (∀ c, answer ≠ .error (.crash c)) →
    SameButNotes w w' →
    SuiteWalk window s
      (log ++ (t.invocation .operations (.declared (operations.map (·.name))) ::
        (log' ++ [v.visit .tearDown (.of id (fun _ => .returned) answer)]))) (.ok summary) w'

theorem length_scheduled (operations : List (Operation σ)) (window : Window κ) :
    (scheduled window operations).length = operations.length := by
  simp [scheduled]

theorem mem_of_mem_scheduled {window : Window κ} {operations : List (Operation σ)}
    {o : Operation σ × Window κ} (mem : o ∈ scheduled window operations) : o.1 ∈ operations :=
  (List.of_mem_zip mem).1

theorem map_name_scheduled (operations : List (Operation σ)) (window : Window κ) :
    (scheduled window operations).map (·.1.name) = operations.map (·.name) := by
  have names : (scheduled window operations).map (·.1.name) =
      ((scheduled window operations).map (·.1)).map (·.name) := by rw [List.map_map]; rfl
  rw [names, scheduled, List.map_fst_zip (Nat.le_of_eq (Window.length_split _ _).symm)]

theorem drop_scheduled (count : Nat) (operations : List (Operation σ)) (window : Window κ) :
    (scheduled window operations).drop count =
      (operations.drop count).zip ((window.split operations.length).drop count) :=
  List.drop_zipWith

theorem map_name_drop_scheduled (count : Nat) (operations : List (Operation σ)) (window : Window κ) :
    ((scheduled window operations).drop count).map (·.1.name) =
      (operations.drop count).map (·.name) := by
  rw [List.map_drop, map_name_scheduled, List.map_drop]

theorem watchedFrom_scheduled (operations : List (Operation σ)) (window : Window κ) :
    watchedFrom 0 (scheduled window operations) =
      (operations.mapIdx Operation.watched).zip
        (window.split (operations.mapIdx (Operation.watched (κ := κ))).length) := by
  apply List.ext_getElem (by simp [watchedFrom, scheduled])
  intro i h h'
  simp [watchedFrom, scheduled]

/-- Every run of the engine is a walk. -/
theorem follows_run (window : Window κ) (s : Scene κ σ) :
    Follows s (run suite clock window) (run suite.watched clock window)
      (SuiteWalk suite clock window s) := by
  refine .adjust (.context (.note (.bind (follows_setUp suite _) ?_ ?_)))
  · intro log e t walk
    exact .unready (.noted _ _) walk
  · intro log _ t ready
    rcases declared : (ofWork suite.operations : CodeWith Crash κ σ _).run t with ⟨answer, u⟩
    have watched := run_watched_operations suite declared
    have declared' := Code.run_ofCrashing declared
    have watched' := fun past => Code.run_ofCrashing (watched past)
    cases answer with
    | error c =>
      refine .stopped declared' watched' ?_
      exact .undeclared (.noted _ _) ready declared
    | ok operations =>
      refine .listed declared' watched' ?_
      rw [← watchedFrom_scheduled]
      refine .bind (follows_groups suite clock 0 _ _ u) ?_ ?_
      · intro log' e v walk
        exact .halted (.noted _ _) ready declared walk
      · intro log' summary v walk
        refine .bind (follows_tearDown suite _ v) ?_ ?_
        · rintro log'' e w ⟨a, w', rfl, ended, ⟨c, rfl, crashed, rfl⟩ | ⟨_, other, _⟩⟩
          · cases crashed
            exact .crashed (.noted _ _) ready declared walk ended
          · cases other
        · rintro log'' _ w ⟨a, w', rfl, ended, ⟨c, _, crashed, _⟩ | ⟨calm, _, same⟩⟩
          · cases crashed
          · refine .note (.pure ?_)
            rw [List.append_nil]
            exact .finished (.noted _ _) ready declared walk ended calm (same.trans (.noted _ _))

end Suites

end Microbench.Engine
