import Microbench.Proofs.Engine.Walk

/-!
# Contexts along a walk

A hook is handed the context itself, and the engine puts nothing back. What a walk does to the
context is therefore known of suites whose hooks keep it (`Suite.KeepsContext`): they set knobs and
leave the rest, as all do that never put another context in the place of theirs. The run being
measured and the runs measured before (`sight`) then change at the engine's hands only: the first is
set when a run starts and gone when its measurement is over, the others are those that the suite was
told of since its group started.
-/

namespace Microbench

variable {ε κ σ α β : Type}

/-! ## Hooks that keep their context -/

/-- The code changes nothing of its context but the knobs, however it ends. -/
def CodeWith.KeepsContext (x : CodeWith ε κ σ α) : Prop :=
  ∀ s, (x.run s).2.context = { s.context with knobs := (x.run s).2.context.knobs }

/-- All hooks of the suite change nothing of their context but the knobs. -/
structure Suite.KeepsContext (suite : Suite κ σ) : Prop where
  setUp : suite.setUp.KeepsContext
  groupStarts : ∀ group, (suite.groupStarts group).KeepsContext
  runStarts : ∀ run, (suite.runStarts run).KeepsContext
  repetitionStarts : ∀ run repetition, (suite.repetitionStarts run repetition).KeepsContext
  runEnds : ∀ run, (suite.runEnds run).KeepsContext
  groupEnds : ∀ group, (suite.groupEnds group).KeepsContext
  groupFailed : ∀ group e, (suite.groupFailed group e).KeepsContext
  tearDown : suite.tearDown.KeepsContext

namespace CodeWith

theorem keepsContext_pure (a : α) : (pure a : CodeWith ε κ σ α).KeepsContext := fun _ => rfl

theorem keepsContext_throw (e : ε) : (throw e : CodeWith ε κ σ α).KeepsContext := fun _ => rfl

/-- The knobs may be turned. -/
theorem keepsContext_adjust (f : Knobs → Knobs) :
    (adjust fun c => { c with knobs := f c.knobs } : CodeWith ε κ σ Unit).KeepsContext :=
  fun _ => rfl

theorem keepsContext_ite {c : Prop} [Decidable c] {x y : CodeWith ε κ σ α} (first : x.KeepsContext)
    (second : y.KeepsContext) : (if c then x else y).KeepsContext := by
  split
  · exact first
  · exact second

theorem KeepsContext.bind {x : CodeWith ε κ σ α} {f : α → CodeWith ε κ σ β}
    (first : x.KeepsContext) (next : ∀ a, (f a).KeepsContext) : (x >>= f).KeepsContext := by
  intro s
  have kept := first s
  rcases ran : x.run s with ⟨answer, t⟩
  rw [ran] at kept
  cases answer with
  | error e =>
    rw [run_bind_of_error ran]
    exact kept
  | ok a =>
    have later := next a t
    rw [run_bind_of_ok ran, later, kept]

end CodeWith

open CodeWith in
/-- The hooks that a suite has by default keep their context. -/
theorem Suite.keepsContext_default (operations : Work Crash σ (List (Operation σ))) :
    ({ operations } : Suite κ σ).KeepsContext where
  setUp := keepsContext_pure ()
  groupStarts _ := keepsContext_pure _
  runStarts _ := keepsContext_pure ()
  repetitionStarts _ _ := keepsContext_pure ()
  runEnds _ := keepsContext_pure ()
  groupEnds _ := keepsContext_pure ()
  groupFailed _ _ := fun _ => rfl
  tearDown := keepsContext_pure ()

/-! ## What contexts show -/

/-- The part of a context that stays as it is. -/
def Context.fixed (c : Context κ) : String × String × Properties :=
  (c.suite, c.outputDirectory, c.properties)

/-- What a context shows of the runs of a group: the one that is being measured, and those that were
measured. -/
def Context.sight (c : Context κ) : Option Run × List Run := (c.current, c.terminated)

/-- What a call sees of the runs of a group; operations see nothing. -/
def Visit.seen (v : Visit κ σ) : Option (Option Run × List Run) := v.context.map (·.sight)

/-- The run that a call says was measured. -/
def Visit.ended? (v : Visit κ σ) : Option Run :=
  match v.call with
  | .runEnds run => some run
  | _ => none

/-- What a call sees during a run, after some runs of the group. -/
def Call.sight (earlier : List Run) (run : Run) : Call → Option (Option Run × List Run)
  | .operation _ => none
  | .runEnds done => some (none, earlier ++ [done])
  | _ => some (some run, earlier)

namespace Engine

open CodeWith Scene

/-- Nothing changes but knobs, progress and what lies outside the context. -/
structure Still (s t : Scene κ σ) : Prop where
  fixed : t.context.fixed = s.context.fixed
  sight : t.context.sight = s.context.sight

namespace Still

variable {s t u : Scene κ σ}

theorem refl (s : Scene κ σ) : Still s s := ⟨rfl, rfl⟩

theorem trans (h : Still s t) (h' : Still t u) : Still s u :=
  ⟨h'.fixed.trans h.fixed, h'.sight.trans h.sight⟩

theorem of_same (same : SameButNotes s t) : Still s t := by
  constructor <;> rw [same.context]

theorem advanced (s : Scene κ σ) (progress : κ) : Still s (s.adjusted (·.advance progress)) :=
  ⟨rfl, rfl⟩

/-- Nothing but the knobs is changed by code that keeps its context. -/
theorem kept {x : CodeWith ε κ σ α} {a : Except ε α} (keeps : x.KeepsContext)
    (h : x.run s = (a, t)) : Still s t := by
  have kept := keeps s
  rw [h] at kept
  constructor <;> rw [kept] <;> rfl

/-- Operations see no context. -/
theorem called {x : Work ε σ α} {a : Except ε α}
    (h : (ofWork x : CodeWith ε κ σ α).run s = (a, t)) : Still s t := by
  rw [run_ofWork] at h
  cases h
  exact ⟨rfl, rfl⟩

theorem terminated (h : Still s t) : t.context.terminated = s.context.terminated :=
  congrArg Prod.snd h.sight

theorem directory (h : Still s t) : t.context.outputDirectory = s.context.outputDirectory :=
  congrArg (·.2.1) h.fixed

theorem current (h : Still s t) : t.context.current = s.context.current := congrArg Prod.fst h.sight

end Still

variable {suite : Suite κ σ} {clock : Clock} {operation : Operation σ} {s t : Scene κ σ}
  {log : List (Visit κ σ)}

/-! ## During a run -/

theorem CallsWalk.still {place n : Nat} {answer : Except Stop Unit}
    (walk : CallsWalk operation place n s log answer t) : Still s t := by
  induction walk with
  | none => exact .refl _
  | next called _ ih => exact (Still.called called).trans ih
  | stop called => exact .called called

theorem CallsWalk.sees {place n : Nat} {answer : Except Stop Unit} (earlier : List Run) (run : Run)
    (walk : CallsWalk operation place n s log answer t) :
    ∀ v ∈ log, v.seen = v.call.sight earlier run := by
  induction walk with
  | none => exact List.forall_mem_nil _
  | next _ _ ih => exact List.forall_mem_cons.mpr ⟨rfl, ih⟩
  | stop _ => exact List.forall_mem_singleton.mpr rfl

theorem CallsWalk.ended {place n : Nat} {answer : Except Stop Unit}
    (walk : CallsWalk operation place n s log answer t) : log.filterMap Visit.ended? = [] := by
  induction walk with
  | none => rfl
  | next _ _ ih => exact ih
  | stop _ => rfl

theorem StartWalk.sees {run : Run} {answer : Except Stop Unit}
    (walk : StartWalk suite run s log answer t) :
    ∀ v ∈ log, v.seen = v.call.sight s.context.terminated run := by
  cases walk with
  | single _ => exact List.forall_mem_nil _
  | several _ start _ =>
    subst start
    exact List.forall_mem_singleton.mpr rfl

theorem StartWalk.ended {run : Run} {answer : Except Stop Unit}
    (walk : StartWalk suite run s log answer t) : log.filterMap Visit.ended? = [] := by
  cases walk with
  | single _ => rfl
  | several _ _ _ => rfl

section Repetitions

variable [Arithmetic κ] {run : Run} {calls : Nat}

theorem RepetitionWalk.sees {place : BatchPlace} {window : Window κ} {earlier : List Run}
    {answer : Except Stop Measurement}
    (walk : RepetitionWalk suite clock operation run calls place window s log answer t)
    (sight : s.context.sight = (some run, earlier)) :
    ∀ v ∈ log, v.seen = v.call.sight earlier run := by
  have seen : ∀ answer, Visit.seen ((s.adjusted (·.advance window.start)).visit
      (.repetitionStarts run place.repetition) answer) = some (some run, earlier) :=
    fun _ => congrArg some sight
  cases walk with
  | refused start _ =>
    subst start
    exact List.forall_mem_singleton.mpr (seen _)
  | stopped start _ _ batch =>
    subst start
    exact List.forall_mem_cons.mpr ⟨seen _, batch.sees earlier run⟩
  | measured start _ _ batch _ =>
    subst start
    exact List.forall_mem_cons.mpr ⟨seen _, batch.sees earlier run⟩

theorem RepetitionWalk.ended {place : BatchPlace} {window : Window κ}
    {answer : Except Stop Measurement}
    (walk : RepetitionWalk suite clock operation run calls place window s log answer t) :
    log.filterMap Visit.ended? = [] := by
  cases walk with
  | refused _ _ => rfl
  | stopped _ _ _ batch => exact batch.ended
  | measured _ _ _ batch _ => exact batch.ended

theorem RepetitionsWalk.ended {place : BatchPlace} {windows : List (Window κ)}
    {answer : Except Stop (List Measurement)}
    (walk : RepetitionsWalk suite clock operation run calls place windows s log answer t) :
    log.filterMap Visit.ended? = [] := by
  induction walk with
  | none => rfl
  | stop walk => exact walk.ended
  | next walk _ ih => rw [List.filterMap_append, walk.ended, ih, List.append_nil]

end Repetitions

/-! ## Suites that keep their context -/

section Kept

variable (keeps : suite.KeepsContext)

include keeps

/-- From the start of a run on, the run is the one that is being measured. -/
theorem StartWalk.sight {run : Run} {answer : Except Stop Unit}
    (walk : StartWalk suite run s log answer t) :
    t.context.sight = (some run, s.context.terminated) := by
  cases walk with
  | single _ => rfl
  | several _ start entered =>
    subst start
    exact (Still.kept (keeps.runStarts run) entered).sight

/-- The preparation of a suite changes nothing of its context but the knobs. -/
theorem SetUpWalk.still {answer : Except Stop Unit} (walk : SetUpWalk suite s log answer t) :
    Still s t := by
  have prepared : ∀ {w : World} {s' t : Scene κ σ} {answer : Except Stop Unit},
      s' = { s with world := w } → suite.setUp.run s' = (answer, t) → Still s t := by
    rintro w s' t answer rfl entered
    have still := Still.kept keeps.setUp entered
    exact ⟨still.fixed, still.sight⟩
  cases walk with
  | noDirectory _ => exact ⟨rfl, rfl⟩
  | refused _ start entered _ => exact prepared start entered
  | halted _ start entered _ => exact prepared start entered
  | ready _ start entered => exact prepared start entered

/-- A failure leaves the runs that were measured before it, and none that is being measured. -/
theorem FailureWalk.sight {group : String} {error : BenchError} {ended : Bool}
    {answer : Except Stop Unit} (walk : FailureWalk suite group error ended s log answer t) :
    t.context.sight = (none, s.context.terminated) := by
  have tells := keeps.groupFailed group error
  cases walk with
  | crashed start told =>
    subst start
    exact (Still.kept tells told).sight
  | told start told same =>
    subst start
    exact ((Still.kept tells told).trans (.of_same same)).sight
  | ended start told closed _ same =>
    subst start
    have closes := Still.kept (keeps.groupEnds group) closed
    exact (((Still.kept tells told).trans closes).trans (.of_same same)).sight
  | halted start told closed _ =>
    subst start
    exact ((Still.kept tells told).trans (.kept (keeps.groupEnds group) closed)).sight

theorem FailureWalk.sees {group : String} {error : BenchError} {ended : Bool}
    {answer : Except Stop Unit} (walk : FailureWalk suite group error ended s log answer t) :
    ∀ v ∈ log, v.seen = some (none, s.context.terminated) := by
  have tells := keeps.groupFailed group error
  cases walk with
  | crashed start _ =>
    subst start
    exact List.forall_mem_singleton.mpr rfl
  | told start _ _ =>
    subst start
    exact List.forall_mem_singleton.mpr rfl
  | ended start told _ _ _ =>
    subst start
    exact List.forall_mem_cons.mpr ⟨rfl,
      List.forall_mem_singleton.mpr (congrArg some (Still.kept tells told).sight)⟩
  | halted start told _ _ =>
    subst start
    exact List.forall_mem_cons.mpr ⟨rfl,
      List.forall_mem_singleton.mpr (congrArg some (Still.kept tells told).sight)⟩

variable [Arithmetic κ]

section Runs

variable {run : Run} {calls : Nat}

theorem RepetitionWalk.still {place : BatchPlace} {window : Window κ}
    {answer : Except Stop Measurement}
    (walk : RepetitionWalk suite clock operation run calls place window s log answer t) :
    Still s t := by
  have starts := keeps.repetitionStarts run place.repetition
  cases walk with
  | refused start entered =>
    subst start
    exact (Still.advanced _ _).trans (.kept starts entered)
  | stopped start entered same batch =>
    subst start
    exact ((Still.advanced _ _).trans (.kept starts entered)).trans
      ((Still.of_same same).trans batch.still)
  | measured start entered same batch same' =>
    subst start
    exact ((Still.advanced _ _).trans (.kept starts entered)).trans (((Still.of_same same).trans
      batch.still).trans ((Still.advanced _ _).trans (.of_same same')))

theorem RepetitionsWalk.still {place : BatchPlace} {windows : List (Window κ)}
    {answer : Except Stop (List Measurement)}
    (walk : RepetitionsWalk suite clock operation run calls place windows s log answer t) :
    Still s t := by
  induction walk with
  | none => exact .refl _
  | stop walk => exact walk.still keeps
  | next walk _ ih => exact (walk.still keeps).trans ih

theorem RepetitionsWalk.sees {place : BatchPlace} {windows : List (Window κ)} {earlier : List Run}
    {answer : Except Stop (List Measurement)}
    (walk : RepetitionsWalk suite clock operation run calls place windows s log answer t)
    (sight : s.context.sight = (some run, earlier)) :
    ∀ v ∈ log, v.seen = v.call.sight earlier run := by
  induction walk with
  | none => exact List.forall_mem_nil _
  | stop walk => exact walk.sees sight
  | next walk _ ih =>
    exact List.forall_mem_append.mpr
      ⟨walk.sees sight, ih ((walk.still keeps).sight.trans sight)⟩

/-- A run adds itself to those that were measured exactly if the suite is told that it was. -/
theorem RunWalk.terminated {place : BatchPlace} {window : Window κ} {answer : Except Stop Unit}
    (walk : RunWalk suite clock operation run place window s log answer t) :
    t.context.terminated = s.context.terminated ++ log.filterMap Visit.ended? := by
  cases walk with
  | refused start =>
    rw [start.ended, List.append_nil]
    exact congrArg Prod.snd (start.sight keeps)
  | stopped start walk =>
    rw [List.filterMap_append, start.ended, walk.ended, List.nil_append, List.append_nil,
      (walk.still keeps).terminated]
    exact congrArg Prod.snd (start.sight keeps)
  | ended start walk _ same entered =>
    have before : _ = s.context.terminated :=
      (walk.still keeps).terminated.trans (congrArg Prod.snd (start.sight keeps))
    rw [List.filterMap_append, List.filterMap_append, start.ended, walk.ended,
      (Still.kept (keeps.runEnds _) entered).terminated, same.context, ← before]
    rfl

/-- A run that is over is not being measured any more. -/
theorem RunWalk.current {place : BatchPlace} {window : Window κ}
    (walk : RunWalk suite clock operation run place window s log (.ok ()) t) :
    t.context.current = none := by
  cases walk with
  | ended _ _ _ same entered =>
    rw [(Still.kept (keeps.runEnds _) entered).current, same.context]
    rfl

theorem RunWalk.sees {place : BatchPlace} {window : Window κ} {answer : Except Stop Unit}
    (walk : RunWalk suite clock operation run place window s log answer t) :
    ∀ v ∈ log, v.seen = v.call.sight s.context.terminated run := by
  cases walk with
  | refused start => exact start.sees
  | stopped start walk =>
    exact List.forall_mem_append.mpr ⟨start.sees, walk.sees keeps (start.sight keeps)⟩
  | ended start walk _ same _ =>
    have before : _ = s.context.terminated :=
      (walk.still keeps).terminated.trans (congrArg Prod.snd (start.sight keeps))
    refine List.forall_mem_append.mpr ⟨start.sees, List.forall_mem_append.mpr
      ⟨walk.sees keeps (start.sight keeps), List.forall_mem_singleton.mpr ?_⟩⟩
    have sight := congrArg Context.sight same.context
    rw [← before]
    exact congrArg some sight

theorem RunsWalk.terminated {place : BatchPlace} {rs : List (Run × Window κ)}
    {answer : Except Stop Unit} (walk : RunsWalk suite clock operation place rs s log answer t) :
    t.context.terminated = s.context.terminated ++ log.filterMap Visit.ended? := by
  induction walk with
  | none => rw [List.filterMap_nil, List.append_nil]
  | stop walk => exact walk.terminated keeps
  | next walk _ ih => rw [ih, walk.terminated keeps, List.filterMap_append, List.append_assoc]

theorem RunsWalk.current {place : BatchPlace} {rs : List (Run × Window κ)}
    {answer : Except Stop Unit} (walk : RunsWalk suite clock operation place rs s log answer t)
    (idle : s.context.current = .none) (returned : answer = .ok ()) : t.context.current = .none := by
  induction walk with
  | none => exact idle
  | stop _ => cases returned
  | next walk _ ih => exact ih (walk.current keeps) returned

end Runs

section Groups

variable {index : Nat} {window : Window κ}

/-- No run is being measured when a group is over, however it fared. -/
theorem OutcomeWalk.current {completed : Bool}
    (walk : OutcomeWalk suite clock operation index window s log (.ok completed) t) :
    t.context.current = none := by
  generalize returned : (.ok completed : Except Stop Bool) = answer at walk
  cases walk with
  | halted _ _ => cases returned
  | failed _ _ failure => exact congrArg Prod.fst (failure.sight keeps)
  | endHalted _ _ _ => cases returned
  | endFailed _ _ _ failure => exact congrArg Prod.fst (failure.sight keeps)
  | completed _ _ same => exact congrArg Context.current same.context

theorem GroupWalk.current {completed : Bool}
    (walk : GroupWalk suite clock operation index window s log (.ok completed) t) :
    t.context.current = none := by
  cases walk with
  | finished walk =>
    have none := walk.current keeps
    exact none

theorem GroupsWalk.current {summary final : Summary} {list : List (Operation σ × Window κ)}
    (walk : GroupsWalk suite clock index summary list s log (.ok final) t)
    (idle : list = [] → s.context.current = .none) : t.context.current = .none := by
  generalize returned : (.ok final : Except Stop Summary) = answer at walk
  induction walk with
  | none => exact idle rfl
  | stop _ => cases returned
  | next walk _ ih => exact ih (fun _ => walk.current keeps) returned

end Groups

end Kept

end Engine

end Microbench
