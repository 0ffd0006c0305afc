import Microbench.Proofs.Engine.Calls
import Microbench.Proofs.Engine.Contexts

/-!
# What hooks see of runs

The run being measured and the runs measured before are shown to a suite in its context. The hooks of
a group see those of their own group and no others.

* `Seen`: what each call of a suite sees, along the plans of its groups.
* `calls_seen`: the calls of every suite that starts afresh and keeps its context see exactly that,
  whichever calls are stopped.
-/

namespace Microbench

variable {κ σ : Type}

/-! ## Ends of runs in plans -/

/-- The run that is over with a call. -/
def Call.ended? : Call → Option Run
  | .runEnds run => some run
  | _ => none

theorem filterMap_ended? (log : List (Visit κ σ)) :
    log.filterMap Visit.ended? = (log.map (·.call)).filterMap Call.ended? := by
  rw [List.filterMap_map]
  rfl

theorem Carried.map_call {plan : List Call} {log : List (Visit κ σ)} (carried : Carried plan log none) :
    log.map (·.call) = plan := by
  induction plan generalizing log with
  | nil => cases carried; rfl
  | cons call plan ih =>
    cases carried with
    | next made _ rest => rw [List.map_cons, made, ih rest]

theorem Carried.map_call_of_stop {plan : List Call} {log : List (Visit κ σ)} {call : Call} {e : Stop}
    (carried : Carried plan log (some (call, e))) :
    ∃ before after, plan = before ++ call :: after ∧ log.map (·.call) = before ++ [call] := by
  induction plan generalizing log with
  | nil => cases carried
  | cons first plan ih =>
    cases carried with
    | next made _ rest =>
      obtain ⟨before, after, rfl, calls⟩ := ih rest
      exact ⟨first :: before, after, rfl, by rw [List.map_cons, made, calls]; rfl⟩
    | stop made _ => exact ⟨[], plan, rfl, by rw [List.map_singleton, made]; rfl⟩

/-- The calls of a run before its end. -/
def runBody (run : Run) (place : Nat) (knobs : Knobs) : List Call :=
  (if 1 < knobs.repetitions then [.runStarts run] else []) ++
    (List.range knobs.repetitions).flatMap (repetitionPlan run knobs.calls place)

theorem runPlan_eq (clock : Clock) (run : Run) (place : BatchPlace) (knobs : Knobs) :
    runPlan clock run place knobs =
      runBody run place.group knobs ++ [.runEnds (run.timed clock place knobs)] := rfl

theorem ended?_of_mem_runBody {run : Run} {place : Nat} {knobs : Knobs} {call : Call}
    (mem : call ∈ runBody run place knobs) : call.ended? = none := by
  unfold runBody at mem
  rcases List.mem_append.mp mem with start | later
  · split at start
    · rw [List.mem_singleton.mp start]
      rfl
    · cases start
  · obtain ⟨r, _, mem⟩ := List.mem_flatMap.mp later
    rcases List.mem_cons.mp mem with rfl | mem
    · rfl
    · rw [List.eq_of_mem_replicate mem]
      rfl

theorem ended_of_carried {clock : Clock} {run : Run} {place : BatchPlace} {knobs : Knobs}
    {log : List (Visit κ σ)} (carried : Carried (runPlan clock run place knobs) log none) :
    log.filterMap Visit.ended? = [run.timed clock place knobs] := by
  have body : (runBody run place.group knobs).filterMap Call.ended? = [] :=
    List.filterMap_eq_nil_iff.mpr fun _ => ended?_of_mem_runBody
  rw [filterMap_ended?, carried.map_call, runPlan_eq, List.filterMap_append, body]
  rfl

/-- A run that is stopped is over only if it is stopped by its own end. -/
theorem ended_of_carried_of_stop {clock : Clock} {run : Run} {place : BatchPlace} {knobs : Knobs}
    {log : List (Visit κ σ)} {call : Call} {e : Stop}
    (carried : Carried (runPlan clock run place knobs) log (some (call, e))) :
    log.filterMap Visit.ended? = call.ended?.toList := by
  obtain ⟨before, after, plan, calls⟩ := carried.map_call_of_stop
  rw [runPlan_eq] at plan
  have inner : ∀ c ∈ before, c.ended? = none := by
    intro c mem
    apply ended?_of_mem_runBody
    rcases List.append_eq_append_iff.mp plan with ⟨more, split, last⟩ | ⟨more, split, _⟩
    · -- nothing is left between the body and the call: only the end of the run comes after it
      cases more with
      | nil =>
        rw [List.append_nil] at split
        rw [← split]
        exact mem
      | cons c' more =>
        have lengths := congrArg List.length last
        simp at lengths
    · rw [split]
      exact List.mem_append_left _ mem
  rw [filterMap_ended?, calls, List.filterMap_append, List.filterMap_eq_nil_iff.mpr inner]
  cases call <;> rfl

/-! ## What calls see -/

/-- The calls of a group's runs from one on, after some that were measured, and those measured in the
end. What the hooks of a run see is the run as it was offered and the runs before it as they were
measured; the end of a run comes after it has been added to these. -/
inductive RunsSeen (clock : Clock) (index : Nat) :
    Nat → List Run → List Run → List (Visit κ σ) → List Run → Prop
  | none {i : Nat} {earlier : List Run} : RunsSeen clock index i earlier [] [] earlier
  | next {i : Nat} {earlier : List Run} {run : Run} {rest : List Run} {knobs : Knobs}
      {log log' : List (Visit κ σ)} {final : List Run} :
    StartsWith knobs log → Carried (runPlan clock run ⟨index, i, 0⟩ knobs) log none →
    (∀ v ∈ log, v.seen = v.call.sight earlier run) →
    RunsSeen clock index (i + 1) (earlier ++ [run.timed clock ⟨index, i, 0⟩ knobs]) rest log' final →
    RunsSeen clock index i earlier (run :: rest) (log ++ log') final
  | stop {i : Nat} {earlier : List Run} {run : Run} {rest : List Run} {knobs : Knobs}
      {log : List (Visit κ σ)} {call : Call} {e : Stop} :
    StartsWith knobs log → Carried (runPlan clock run ⟨index, i, 0⟩ knobs) log (some (call, e)) →
    (∀ v ∈ log, v.seen = v.call.sight earlier run) →
    RunsSeen clock index i earlier (run :: rest) log (earlier ++ call.ended?.toList)

/-- What measuring leaves of a run as it is. -/
def Run.offer (run : Run) : String × TimeScaling Float := (run.name, run.scaling)

/-- The start of a group and its runs, and the runs that were measured in the end: the first of those
that were offered. -/
inductive BodySeen (clock : Clock) (group : String) (index : Nat) :
    List (Visit κ σ) → List Run → Prop
  | refused {start : Visit κ σ} {e : Stop} :
    start.call = .groupStarts group → start.seen = some (none, []) → start.answer = .stopped e →
    BodySeen clock group index [start] []
  | started {start : Visit κ σ} {rs : List Run} {log : List (Visit κ σ)} {final : List Run} :
    start.call = .groupStarts group → start.seen = some (none, []) → start.answer = .runs rs →
    RunsSeen clock index 0 [] rs log final →
    final.map Run.offer = (rs.take final.length).map Run.offer →
    BodySeen clock group index (start :: log) final

/-- A call that ends a group or tells of its failure. -/
def Visit.Closes (group : String) (v : Visit κ σ) : Prop :=
  v.call = .groupEnds group ∨ ∃ e, v.call = .groupFailed group e

/-- The calls of a group, and the runs that were measured in the end. -/
inductive GroupSeen (clock : Clock) (group : String) (index : Nat) :
    List (Visit κ σ) → List Run → Prop
  | closed {body later : List (Visit κ σ)} {final : List Run} :
    BodySeen clock group index body final → later ≠ [] →
    (∀ v ∈ later, v.Closes group ∧ v.seen = some (none, final)) →
    GroupSeen clock group index (body ++ later) final

/-- The calls of the groups from one on, and the runs that the last group measured, or some that were
there before if there is no group. -/
inductive GroupsSeen (clock : Clock) :
    Nat → List String → List Run → List (Visit κ σ) → List Run → Prop
  | none {index : Nat} {left : List Run} : GroupsSeen clock index [] left [] left
  | next {index : Nat} {group : String} {groups : List String} {left : List Run}
      {log log' : List (Visit κ σ)} {final last : List Run} :
    GroupSeen clock group index log final → GroupsSeen clock (index + 1) groups final log' last →
    GroupsSeen clock index (group :: groups) left (log ++ log') last

/-- What the calls of a suite see that starts afresh. -/
inductive Seen (clock : Clock) : List (Visit κ σ) → Prop
  | uncalled : Seen clock []
  | refused {first : Visit κ σ} :
    first.call = .setUp → first.seen = some (none, []) → Seen clock [first]
  | finished {first declared last : Visit κ σ} {groups : List String} {log : List (Visit κ σ)}
      {final : List Run} :
    first.call = .setUp → first.seen = some (none, []) →
    declared.call = .operations → declared.answer = .declared groups →
    GroupsSeen clock 0 groups [] log final →
    last.call = .tearDown → last.seen = some (none, final) →
    Seen clock (first :: declared :: (log ++ [last]))

theorem RunsSeen.offer {clock : Clock} {index i : Nat} {earlier rs : List Run}
    {log : List (Visit κ σ)} {final : List Run} (seen : RunsSeen clock index i earlier rs log final) :
    ∃ done, final = earlier ++ done ∧
      done.map Run.offer = (rs.take done.length).map Run.offer := by
  induction seen with
  | none => exact ⟨[], (List.append_nil _).symm, rfl⟩
  | @next i earlier run rest knobs log log' final _ _ _ _ ih =>
    obtain ⟨done, rfl, same⟩ := ih
    refine ⟨run.timed clock ⟨index, i, 0⟩ knobs :: done, List.append_cons _ _ _ |>.symm, ?_⟩
    rw [List.length_cons, List.take_succ_cons, List.map_cons, List.map_cons, same]
    rfl
  | @stop i earlier run rest knobs log call e _ carried _ =>
    refine ⟨call.ended?.toList, rfl, ?_⟩
    have mem := carried.call_mem_of_stop
    rw [runPlan_eq] at mem
    rcases List.mem_append.mp mem with inner | last
    · rw [ended?_of_mem_runBody inner]
      rfl
    · rw [List.mem_singleton.mp last]
      rfl

namespace Engine

open CodeWith Scene

variable {suite : Suite κ σ} {clock : Clock} {operation : Operation σ} {s t : Scene κ σ}
  {log : List (Visit κ σ)}

section Runs

variable [Arithmetic κ] {index : Nat} (keeps : suite.KeepsContext)

include keeps

theorem RunsWalk.seen {i : Nat} {rs : List (Run × Window κ)} {answer : Except Stop Unit}
    (walk : RunsWalk suite clock operation ⟨index, i, 0⟩ rs s log answer t) :
    RunsSeen clock index i s.context.terminated (rs.map (·.1)) log t.context.terminated := by
  generalize at' : BatchPlace.mk index i 0 = place at walk
  induction walk generalizing i with
  | none => exact .none
  | stop walk =>
    subst at'
    have sees := walk.sees keeps
    rw [walk.terminated keeps]
    rcases walk.kept with ⟨_, ended⟩ | ⟨call, e, carried, ended⟩
    · cases ended
    · rw [ended_of_carried_of_stop carried]
      exact .stop walk.startsWith carried sees
  | next walk later ih =>
    subst at'
    have seen := ih rfl
    rcases walk.kept with ⟨carried, _⟩ | ⟨_, _, _, ended⟩
    · rw [walk.terminated keeps, ended_of_carried carried] at seen
      exact .next walk.startsWith carried (walk.sees keeps) seen
    · cases ended

theorem BodyWalk.seen {window : Window κ} {answer : Except Stop Nat}
    (walk : BodyWalk suite clock operation index window s log answer t)
    (idle : s.context.current = none) :
    BodySeen clock operation.name index log t.context.terminated := by
  have starts := keeps.groupStarts operation.name
  have opening : (opened window s.context).sight = (none, []) := by
    unfold opened Context.advance Context.sight
    rw [idle]
  cases walk with
  | refused same entered =>
    have sight := (congrArg Context.sight same.context).trans opening
    have left : t.context.terminated = [] :=
      (Still.kept starts entered).terminated.trans (congrArg Prod.snd sight)
    rw [left]
    exact .refused rfl (congrArg some sight) rfl
  | @started _ t' _ rs _ _ same entered walk =>
    have sight := (congrArg Context.sight same.context).trans opening
    have left : t'.context.terminated = [] :=
      (Still.kept starts entered).terminated.trans (congrArg Prod.snd sight)
    have lengths : rs.length ≤ (window.split rs.length).length :=
      Nat.le_of_eq (Window.length_split _ _).symm
    have seen := walk.seen keeps
    rw [List.map_fst_zip lengths, left] at seen
    obtain ⟨done, final, offer⟩ := seen.offer
    rw [List.nil_append] at final
    rw [← final] at offer
    exact .started rfl (congrArg some sight) rfl seen offer

theorem BodyWalk.current {window : Window κ} {count : Nat}
    (walk : BodyWalk suite clock operation index window s log (.ok count) t)
    (idle : s.context.current = none) : t.context.current = none := by
  generalize returned : (.ok count : Except Stop Nat) = answer at walk
  cases walk with
  | refused _ _ => cases returned
  | @started _ _ _ _ _ answer same entered walk =>
    have starts := keeps.groupStarts operation.name
    have before := (Still.kept starts entered).current.trans (congrArg Context.current same.context)
    cases answer with
    | ok _ => exact walk.current keeps (before.trans idle) rfl
    | error e => cases returned

theorem OutcomeWalk.seen {window : Window κ} {answer : Except Stop Bool}
    (walk : OutcomeWalk suite clock operation index window s log answer t)
    (idle : s.context.current = none) (regular : ∀ v ∈ log, v.Regular) :
    GroupSeen clock operation.name index log t.context.terminated := by
  have closes := keeps.groupEnds operation.name
  cases walk with
  | halted body uncaught =>
    obtain ⟨c, caught⟩ := body.calls.caught regular
    rw [uncaught] at caught
    cases caught
  | failed body caught failure =>
    have sees := failure.sees keeps
    obtain ⟨-, told, closing, rfl, tell, ends⟩ :=
      failure.calls_of_open fun v mem => regular v (List.mem_append_right _ mem)
    have left : t.context.terminated = _ := congrArg Prod.snd (failure.sight keeps)
    rw [left]
    refine .closed (body.seen keeps idle) (List.cons_ne_nil _ _) ?_
    refine List.forall_mem_cons.mpr ⟨⟨.inr ⟨_, tell⟩, sees _ List.mem_cons_self⟩, ?_⟩
    refine List.forall_mem_singleton.mpr ⟨.inl ends, sees _ ?_⟩
    exact List.mem_cons_of_mem _ (List.mem_singleton_self _)
  | endHalted _ _ uncaught =>
    have last := regular _ (List.mem_append_right _ (List.mem_singleton_self _))
    exact absurd rfl (last.not_uncaught uncaught)
  | @endFailed t' u _ _ _ _ _ _ _ body closed caught failure =>
    have sees := failure.sees keeps
    obtain ⟨-, told, rfl, tell⟩ := failure.calls_of_ended fun v mem =>
      regular v (List.mem_append_right _ (List.mem_cons_of_mem _ mem))
    have sight : t'.context.sight = (none, t'.context.terminated) :=
      congrArg (·, t'.context.terminated) (body.current keeps idle)
    have kept : u.context.terminated = t'.context.terminated := (Still.kept closes closed).terminated
    have left : t.context.terminated = _ := congrArg Prod.snd (failure.sight keeps)
    rw [kept] at left sees
    rw [left]
    refine .closed (body.seen keeps idle) (List.cons_ne_nil _ _) ?_
    refine List.forall_mem_cons.mpr ⟨⟨.inl rfl, congrArg some sight⟩, ?_⟩
    exact List.forall_mem_singleton.mpr ⟨.inr ⟨_, tell⟩, sees _ (List.mem_singleton_self _)⟩
  | @completed t' u _ _ _ body closed same =>
    have sight : t'.context.sight = (none, t'.context.terminated) :=
      congrArg (·, t'.context.terminated) (body.current keeps idle)
    have left : t.context.terminated = t'.context.terminated :=
      (congrArg Context.terminated same.context).trans (Still.kept closes closed).terminated
    rw [left]
    refine .closed (body.seen keeps idle) (List.cons_ne_nil _ _) ?_
    exact List.forall_mem_singleton.mpr ⟨.inl rfl, congrArg some sight⟩

theorem GroupsWalk.seen {summary final : Summary} {list : List (Operation σ × Window κ)}
    (walk : GroupsWalk suite clock index summary list s log (.ok final) t)
    (idle : s.context.current = .none) (regular : ∀ v ∈ log, v.Regular) :
    GroupsSeen clock index (list.map (·.1.name)) s.context.terminated log t.context.terminated := by
  generalize returned : (.ok final : Except Stop Summary) = answer at walk
  induction walk with
  | none => exact .none
  | stop _ => cases returned
  | next walk later ih =>
    have seen := ih (walk.current keeps) (fun v mem => regular v (List.mem_append_right _ mem)) returned
    cases walk with
    | finished walk =>
      exact .next (walk.seen keeps idle fun v mem => regular v (List.mem_append_left _ mem)) seen

theorem SuiteWalk.seen {window : Window κ} {answer : Except Stop Summary}
    (walk : SuiteWalk suite clock window s log answer t) (fresh : s.context.sight = (none, []))
    (regular : ∀ v ∈ log, v.Regular) : Seen clock log := by
  -- what the engine shows when the suite is set up is what it shows at the start
  have shown : ∀ {s' : Scene κ σ}, SameButNotes (s.adjusted (·.advance window.start)) s' →
      s'.context.sight = (none, []) := fun same =>
    ((Still.advanced s window.start).trans (.of_same same)).sight.trans fresh
  cases walk with
  | unready same setUp =>
    have first := congrArg some (shown same)
    cases setUp with
    | noDirectory _ => exact .uncalled
    | refused _ start _ _ =>
      subst start
      exact .refused rfl first
    | halted _ start _ _ =>
      subst start
      exact .refused rfl first
  | undeclared _ _ _ =>
    have last := regular _ (List.mem_append_right _ (List.mem_singleton_self _))
    exact absurd rfl (last.not_crash rfl)
  | halted same setUp declared walk =>
    obtain ⟨_, ended, _⟩ := walk.blocks fun v mem =>
      regular v (List.mem_append_right _ (List.mem_cons_of_mem _ mem))
    cases ended
  | crashed same setUp declared walk ended =>
    have last := regular _ (List.mem_append_right _
      (List.mem_cons_of_mem _ (List.mem_append_right _ (List.mem_singleton_self _))))
    exact absurd rfl (last.not_crash rfl)
  | @finished _ _ u v _ _ _ _ operations _ _ same setUp declared walk ended calm _ =>
    have before : u.context.sight = (none, []) :=
      ((setUp.still keeps).trans (.called declared)).sight.trans (shown same)
    have idle : u.context.current = .none := congrArg Prod.fst before
    have seen := walk.seen keeps idle fun v mem =>
      regular v (List.mem_append_right _ (List.mem_cons_of_mem _ (List.mem_append_left _ mem)))
    have none : u.context.terminated = [] := congrArg Prod.snd before
    rw [map_name_scheduled, none] at seen
    have left : v.context.sight = (.none, v.context.terminated) :=
      congrArg (·, v.context.terminated) (walk.current keeps fun _ => idle)
    have first := congrArg some (shown same)
    cases setUp with
    | ready _ start _ =>
      subst start
      exact .finished rfl first rfl rfl seen rfl (congrArg some left)

omit keeps in
/-- Whatever errors and panics there are, every call of a suite that starts afresh sees the runs of its
own group, as far as they were measured, and no others, provided that no hook puts another context in
the place of its own. -/
theorem calls_seen (suite : Suite κ σ) (clock : Clock) (window : Window κ) (id : String)
    (env : Environment) (state : σ) (w : World) (keeps : suite.KeepsContext)
    (regular : ∀ v ∈ calls suite clock window ⟨state, (Context.start id env).1, w⟩, v.Regular) :
    Seen clock (calls suite clock window ⟨state, (Context.start id env).1, w⟩) :=
  (walk_calls suite clock window _).seen keeps rfl regular

end Runs

/-- A suite of two groups of two runs each; in the first, the second run panics in its last
repetition. -/
def uneven : Suite Float Unit where
  operations := pure [⟨"broken", pure ()⟩, ⟨"sound", pure ()⟩]
  groupStarts group := pure [.named (group ++ " one"), .named (group ++ " two")]
  repetitionStarts run repetition :=
    if run.name = "broken two" ∧ repetition = 1 then throw (.panicking "tired") else pure ()

/-- Properties for runs of two short repetitions. -/
def brief : Environment where
  outputRoot := ""
  properties := .ofList [(callsKey, "1"), (repetitionsKey, "2")]

/-- The suite of two groups where a suite starts afresh. -/
def unevenStart : Scene Float Unit := ⟨(), (Context.start "uneven" brief).1, {}⟩

theorem keepsContext_uneven : uneven.KeepsContext :=
  { Suite.keepsContext_default uneven.operations with
    groupStarts := fun _ => keepsContext_pure _
    repetitionStarts := fun _ _ => keepsContext_ite (keepsContext_throw _) (keepsContext_pure ()) }

theorem calls_seen_uneven :
    (∃ summary, ((run uneven (fun _ => 0) .full).run unevenStart).1 = .ok summary ∧
      summary.completed = ["sound"] ∧ summary.failed = ["broken"]) ∧
      (∀ v ∈ calls uneven (fun _ => 0) .full unevenStart, v.Regular) ∧
      Seen (fun _ => 0) (calls uneven (fun _ => 0) .full unevenStart) := by
  have summed : (((run uneven (fun _ => 0) .full).run unevenStart).1.toOption.map
      fun summary => (summary.completed, summary.failed)) = some (["sound"], ["broken"]) := by
    decide +kernel
  obtain ⟨summary, returned, groups⟩ := exists_ok_of_map summed
  have regular := (calls_regular_iff uneven (fun _ => 0) .full unevenStart).mpr
    (returned ▸ calm_ok summary)
  exact ⟨⟨summary, returned, congrArg Prod.fst groups, congrArg Prod.snd groups⟩, regular,
    calls_seen uneven (fun _ => 0) .full "uneven" brief () {} keepsContext_uneven regular⟩

/-- A suite that starts its runs in a context of its own making. -/
def heedless : Suite Float Unit where
  operations := pure [⟨"only", pure ()⟩]
  runStarts _ := CodeWith.adjust fun c => (Context.start c.suite brief).1

/-- The repetitions of a run are then not shown the run: of the first five hooks only the start of the
run is. -/
example : ((calls heedless (fun _ => 0) .full unevenStart).filterMap fun v =>
    v.context.map (·.current.isSome)).take 5 = [false, false, true, false, false] := by
  decide +kernel

end Engine

end Microbench
