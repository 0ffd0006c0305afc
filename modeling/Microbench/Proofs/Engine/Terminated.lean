import Microbench.Proofs.Engine.Sight

/-!
# Runs that contexts show as measured

A context that no hook replaces shows a run as measured only if the suite is told that the run is
over: nothing else adds to the list. `Shown` says so from one scene to another, and `SuiteWalk.shown`
for the whole life of a suite, even if the engine does not come back from it.
-/

namespace Microbench.Engine

open CodeWith Scene

variable {ε κ σ α : Type} {suite : Suite κ σ} {clock : Clock} {operation : Operation σ}
  {s s' t u : Scene κ σ} {log log' : List (Visit κ σ)} {index : Nat}

/-- From one scene to another, the runs that contexts show as measured were there before or are over
with one of the calls in between. -/
structure Shown (s : Scene κ σ) (log : List (Visit κ σ)) (t : Scene κ σ) : Prop where
  left : ∀ done ∈ t.context.terminated, done ∈ s.context.terminated ∨ done ∈ log.filterMap Visit.ended?
  seen : ∀ v ∈ log, ∀ c, v.context = some c → ∀ done ∈ c.terminated,
    done ∈ s.context.terminated ∨ done ∈ log.filterMap Visit.ended?

namespace Shown

theorem refl (s : Scene κ σ) : Shown s [] s := ⟨fun _ mem => .inl mem, fun _ mem => nomatch mem⟩

theorem trans (h : Shown s log t) (h' : Shown t log' u) : Shown s (log ++ log') u := by
  -- what is known in the second part is known in the whole
  have known : ∀ done, done ∈ t.context.terminated ∨ done ∈ log'.filterMap Visit.ended? →
      done ∈ s.context.terminated ∨ done ∈ (log ++ log').filterMap Visit.ended? := by
    intro done there
    rw [List.filterMap_append, List.mem_append]
    rcases there with earlier | later
    · exact (h.left done earlier).imp_right .inl
    · exact .inr (.inr later)
  refine ⟨fun done mem => known done (h'.left done mem), fun v mem c shown done there => ?_⟩
  rcases List.mem_append.mp mem with first | second
  · rw [List.filterMap_append, List.mem_append]
    exact (h.seen v first c shown done there).imp_right .inl
  · exact known done (h'.seen v second c shown done there)

/-- Before the calls there may be a step that shows no more runs. -/
theorem preceded (same : ∀ done ∈ t.context.terminated, done ∈ s.context.terminated)
    (h : Shown t log u) : Shown s log u :=
  ⟨fun done mem => (h.left done mem).imp_left (same done),
    fun v mem c shown done there => (h.seen v mem c shown done there).imp_left (same done)⟩

/-- After the calls there may be a step that shows the same runs. -/
theorem followed (h : Shown s log t) (same : u.context.terminated = t.context.terminated) :
    Shown s log u :=
  ⟨fun done mem => h.left done (same ▸ mem), h.seen⟩

theorem visit {x : CodeWith ε κ σ α} {a : Except ε α} {call : Call} {answer : Answer}
    (keeps : x.KeepsContext) (entered : x.run s = (a, t)) : Shown s [s.visit call answer] t := by
  refine ⟨fun done mem => .inl ((Still.kept keeps entered).terminated ▸ mem), ?_⟩
  refine List.forall_mem_singleton.mpr fun c shown done there => .inl ?_
  cases shown
  exact there

theorem invocation {x : Work ε σ α} {a : Except ε α} {call : Call} {answer : Answer}
    (called : (ofWork x : CodeWith ε κ σ α).run s = (a, t)) :
    Shown s [s.invocation call answer] t :=
  ⟨fun _ mem => .inl ((Still.called called).terminated ▸ mem),
    List.forall_mem_singleton.mpr fun _ shown => nomatch shown⟩

end Shown

section Kept

variable (keeps : suite.KeepsContext)

include keeps

theorem FailureWalk.shown {group : String} {error : BenchError} {ended : Bool}
    {answer : Except Stop Unit} (walk : FailureWalk suite group error ended s log answer t) :
    Shown s log t := by
  have left : t.context.terminated = s.context.terminated := congrArg Prod.snd (walk.sight keeps)
  refine ⟨fun done mem => .inl (left ▸ mem), fun v mem c shown done there => .inl ?_⟩
  have sees := walk.sees keeps v mem
  rw [Visit.seen, shown] at sees
  have same : c.terminated = s.context.terminated := congrArg Prod.snd (Option.some.inj sees)
  exact same ▸ there

theorem SetUpWalk.shown {answer : Except Stop Unit} (walk : SetUpWalk suite s log answer t) :
    Shown s log t := by
  cases walk with
  | noDirectory _ => exact (Shown.refl s).followed rfl
  | refused _ start entered _ =>
    exact (Shown.visit keeps.setUp entered).preceded (start ▸ fun _ => id)
  | halted _ start entered _ =>
    exact (Shown.visit keeps.setUp entered).preceded (start ▸ fun _ => id)
  | ready _ start entered =>
    exact (Shown.visit keeps.setUp entered).preceded (start ▸ fun _ => id)

variable [Arithmetic κ]

/-- During a run only its end shows one more run, and that is the one which is over. -/
theorem RunWalk.shown {run : Run} {place : BatchPlace} {window : Window κ}
    {answer : Except Stop Unit}
    (walk : RunWalk suite clock operation run place window s log answer t) : Shown s log t := by
  refine ⟨fun done mem => ?_, fun v mem c shown done there => ?_⟩
  · rwa [walk.terminated keeps, List.mem_append] at mem
  · have sees := walk.sees keeps v mem
    rw [Visit.seen, shown] at sees
    cases made : v.call with
    | runEnds run' =>
      rw [made] at sees
      have listed : c.terminated = s.context.terminated ++ [run'] :=
        congrArg Prod.snd (Option.some.inj sees)
      have told : run' ∈ log.filterMap Visit.ended? :=
        List.mem_filterMap.mpr ⟨v, mem, by rw [Visit.ended?, made]⟩
      rw [listed, List.mem_append, List.mem_singleton] at there
      exact there.imp_right fun (same : done = run') => same ▸ told
    | operation place =>
      rw [made] at sees
      cases sees
    | _ =>
      rw [made] at sees
      have listed : c.terminated = s.context.terminated :=
        congrArg Prod.snd (Option.some.inj sees)
      exact .inl (listed ▸ there)

theorem RunsWalk.shown {place : BatchPlace} {rs : List (Run × Window κ)} {answer : Except Stop Unit}
    (walk : RunsWalk suite clock operation place rs s log answer t) : Shown s log t := by
  induction walk with
  | none => exact .refl _
  | stop walk => exact walk.shown keeps
  | next walk _ ih => exact (walk.shown keeps).trans ih

theorem BodyWalk.shown {window : Window κ} {answer : Except Stop Nat}
    (walk : BodyWalk suite clock operation index window s log answer t) : Shown s log t := by
  have none : ∀ {s' : Scene κ σ}, (s.adjusted (opened window)).SameButNotes s' →
      ∀ done ∈ s'.context.terminated, done ∈ s.context.terminated := by
    intro s' same done mem
    rw [same.context] at mem
    cases mem
  have starts := keeps.groupStarts operation.name
  cases walk with
  | refused same entered => exact (Shown.visit starts entered).preceded (none same)
  | started same entered walk =>
    exact ((Shown.visit starts entered).trans (walk.shown keeps)).preceded (none same)

theorem OutcomeWalk.shown {window : Window κ} {answer : Except Stop Bool}
    (walk : OutcomeWalk suite clock operation index window s log answer t) : Shown s log t := by
  have closes := keeps.groupEnds operation.name
  cases walk with
  | halted body _ => exact body.shown keeps
  | failed body _ failure => exact (body.shown keeps).trans (failure.shown keeps)
  | endHalted body ended _ => exact (body.shown keeps).trans (.visit closes ended)
  | endFailed body ended _ failure =>
    exact (body.shown keeps).trans ((Shown.visit closes ended).trans (failure.shown keeps))
  | completed body ended same =>
    have left := congrArg Context.terminated same.context
    exact ((body.shown keeps).trans (.visit closes ended)).followed left

theorem GroupWalk.shown {window : Window κ} {answer : Except Stop Bool}
    (walk : GroupWalk suite clock operation index window s log answer t) : Shown s log t := by
  cases walk with
  | stop walk => exact walk.shown keeps
  | finished walk => exact (walk.shown keeps).followed rfl

theorem GroupsWalk.shown {summary : Summary} {list : List (Operation σ × Window κ)}
    {answer : Except Stop Summary}
    (walk : GroupsWalk suite clock index summary list s log answer t) : Shown s log t := by
  induction walk with
  | none => exact .refl _
  | stop walk => exact walk.shown keeps
  | next walk _ ih => exact (walk.shown keeps).trans ih

theorem SuiteWalk.shown {window : Window κ} {answer : Except Stop Summary}
    (walk : SuiteWalk suite clock window s log answer t) : Shown s log t := by
  have start : ∀ {s' : Scene κ σ}, (s.adjusted (·.advance window.start)).SameButNotes s' →
      ∀ done ∈ s'.context.terminated, done ∈ s.context.terminated := fun same done mem =>
    ((Still.advanced s window.start).trans (.of_same same)).terminated ▸ mem
  cases walk with
  | unready same setUp => exact (setUp.shown keeps).preceded (start same)
  | undeclared same setUp declared =>
    exact ((setUp.shown keeps).trans (.invocation declared)).preceded (start same)
  | halted same setUp declared walk =>
    exact ((setUp.shown keeps).trans
      ((Shown.invocation declared).trans (walk.shown keeps))).preceded (start same)
  | crashed same setUp declared walk ended =>
    exact ((setUp.shown keeps).trans ((Shown.invocation declared).trans
      ((walk.shown keeps).trans (.visit keeps.tearDown ended)))).preceded (start same)
  | finished same setUp declared walk ended _ last =>
    have left := congrArg Context.terminated last.context
    refine Shown.followed (Shown.preceded (start same) ?_) left
    exact (setUp.shown keeps).trans
      ((Shown.invocation declared).trans ((walk.shown keeps).trans (.visit keeps.tearDown ended)))

end Kept

end Microbench.Engine
