import Microbench.Proofs.Engine.Calls
import Microbench.Proofs.Engine.Contexts
import Microbench.Proofs.Progress.Windows

/-!
# The course of progress

Which values overall progress takes while a suite runs, in exact fractions. Every level of the engine
keeps to its window, from its start on and, unless it is broken off, to its end (`Stretch`); the parts
of a level take their windows in order (`Parts`). There is a relation for every level, of the calls
that are made during it and the values that progress takes during it.

* `course_of_run`: the course of progress over the life of a suite, whatever fails.
-/

namespace Microbench

variable {β σ : Type}

/-! ## Stretches -/

/-- The calls that see progress see it between the bounds. -/
def Shows (x y : ℚ) (log : List (Visit ℚ σ)) : Prop :=
  ∀ v ∈ log, ∀ c, v.context = some c → c.progress ∈ Set.Icc x y

/-- Values that ascend between bounds. -/
structure Ascends (x y : ℚ) (vs : List ℚ) : Prop where
  ascending : vs.Pairwise (· ≤ ·)
  within : ∀ v ∈ vs, v ∈ Set.Icc x y

/-- During some calls progress takes some values: they ascend between the bounds, and come to the
upper one if nothing is broken off. -/
structure Stretch (x y : ℚ) (log : List (Visit ℚ σ)) (vs : List ℚ) (whole : Bool) : Prop
    extends Ascends x y vs where
  seen : Shows x y log
  finishes : whole = true → vs.getLast? = some y

section Stretch

variable {x x' y y' z : ℚ} {log log' : List (Visit ℚ σ)} {vs vs' : List ℚ} {whole whole' : Bool}

theorem Shows.widen (shows : Shows x y log) (low : x' ≤ x) (high : y ≤ y') : Shows x' y' log :=
  fun v mem c shown => Set.Icc_subset_Icc low high (shows v mem c shown)

theorem Shows.append (shows : Shows x y log) (shows' : Shows x y log') : Shows x y (log ++ log') :=
  List.forall_mem_append.mpr ⟨shows, shows'⟩

theorem Shows.cons {s : Scene ℚ σ} {call : Call} {answer : Answer}
    (between : s.context.progress ∈ Set.Icc x y) (later : Shows x y log) :
    Shows x y (s.visit call answer :: log) := by
  refine List.forall_mem_cons.mpr ⟨fun c shown => ?_, later⟩
  cases shown
  exact between

theorem Shows.visit {s : Scene ℚ σ} {call : Call} {answer : Answer}
    (between : s.context.progress ∈ Set.Icc x y) : Shows x y [s.visit call answer] :=
  .cons between (List.forall_mem_nil _)

/-- Operations see no context. -/
theorem Shows.invocation {s : Scene ℚ σ} {call : Call} {answer : Answer} :
    Shows x y [s.invocation call answer] :=
  List.forall_mem_singleton.mpr fun _ shown => nomatch shown

theorem Ascends.nil : Ascends x y [] := ⟨.nil, List.forall_mem_nil _⟩

theorem Ascends.singleton (between : z ∈ Set.Icc x y) : Ascends x y [z] :=
  ⟨List.pairwise_singleton _ _, List.forall_mem_singleton.mpr between⟩

theorem Ascends.widen (ascends : Ascends x y vs) (low : x' ≤ x) (high : y ≤ y') : Ascends x' y' vs :=
  ⟨ascends.ascending, fun v mem => Set.Icc_subset_Icc low high (ascends.within v mem)⟩

/-- What ascends to a bound and then from it ascends. -/
theorem Ascends.append (ascends : Ascends x y vs) (ascends' : Ascends y z vs') (low : x ≤ y)
    (high : y ≤ z) : Ascends x z (vs ++ vs') where
  ascending := List.pairwise_append.mpr ⟨ascends.ascending, ascends'.ascending,
    fun v mem v' mem' => (ascends.within v mem).2.trans (ascends'.within v' mem').1⟩
  within := List.forall_mem_append.mpr
    ⟨(ascends.widen le_rfl high).within, (ascends'.widen low le_rfl).within⟩

theorem Stretch.quiet (seen : Shows x y log) : Stretch x y log [] false := ⟨.nil, seen, nofun⟩

theorem Stretch.singleton (between : z ∈ Set.Icc x y) (seen : Shows x y log) :
    Stretch x y log [z] false := ⟨.singleton between, seen, nofun⟩

/-- The value at the upper bound alone. -/
theorem Stretch.last (y : ℚ) (seen : Shows y y log) : Stretch y y log [y] true :=
  ⟨.singleton (Set.left_mem_Icc.mpr le_rfl), seen, fun _ => rfl⟩

theorem Stretch.widen (stretch : Stretch x y log vs whole) (low : x' ≤ x) (high : y ≤ y') :
    Stretch x' y' log vs false :=
  ⟨stretch.toAscends.widen low high, stretch.seen.widen low high, nofun⟩

/-- One stretch after another is a stretch. -/
theorem Stretch.append (stretch : Stretch x y log vs whole) (stretch' : Stretch y z log' vs' whole')
    (low : x ≤ y) (high : y ≤ z) : Stretch x z (log ++ log') (vs ++ vs') whole' where
  toAscends := stretch.toAscends.append stretch'.toAscends low high
  seen := (stretch.seen.widen le_rfl high).append (stretch'.seen.widen low le_rfl)
  finishes all := by rw [List.getLast?_append, stretch'.finishes all, Option.some_or]

/-- Calls may be added that take no further value. -/
theorem Stretch.around {log'' : List (Visit ℚ σ)} (stretch : Stretch x y log vs whole)
    (before : Shows x y log') (after : Shows x y log'') (all : whole' = true → whole = true) :
    Stretch x y (log' ++ (log ++ log'')) vs whole' where
  toAscends := stretch.toAscends
  seen := before.append (stretch.seen.append after)
  finishes whole := stretch.finishes (all whole)

end Stretch

/-! ## Parts -/

/-- Parts in order, each in its window: all of them, or those up to one that is broken off. -/
inductive Parts (Part : β → Window ℚ → List (Visit ℚ σ) → List ℚ → Bool → Prop) :
    List (β × Window ℚ) → List (Visit ℚ σ) → List ℚ → Bool → Prop
  | none : Parts Part [] [] [] true
  | unbegun {parts : List (β × Window ℚ)} : Parts Part parts [] [] false
  | broken {b : β} {w : Window ℚ} {rest : List (β × Window ℚ)} {log : List (Visit ℚ σ)}
      {vs : List ℚ} :
    Part b w log vs false → Parts Part ((b, w) :: rest) log vs false
  | next {b : β} {w : Window ℚ} {rest : List (β × Window ℚ)} {log log' : List (Visit ℚ σ)}
      {vs vs' : List ℚ} {whole : Bool} :
    Part b w log vs true → Parts Part rest log' vs' whole →
    Parts Part ((b, w) :: rest) (log ++ log') (vs ++ vs') whole

theorem Parts.eq_nil {Part : β → Window ℚ → List (Visit ℚ σ) → List ℚ → Bool → Prop}
    {log : List (Visit ℚ σ)} {vs : List ℚ} {whole : Bool} (parts : Parts Part [] log vs whole) :
    vs = [] := by
  cases parts with
  | none => rfl
  | unbegun => rfl

/-- Parts that are stretches, in windows in a row, are one stretch. -/
theorem Parts.stretch {Part : β → Window ℚ → List (Visit ℚ σ) → List ℚ → Bool → Prop}
    (stretches : ∀ b w log vs whole, Part b w log vs whole → Stretch w.start w.finish log vs whole)
    {list : List (β × Window ℚ)} {log : List (Visit ℚ σ)} {vs : List ℚ} {whole : Bool} {x y : ℚ}
    (parts : Parts Part list log vs whole) (forward : Window.Forward (list.map (·.2)))
    (tiles : Window.Tiles x (list.map (·.2)) y) :
    Stretch x y log vs (whole && !list.isEmpty) := by
  induction parts generalizing x with
  | none => exact .quiet (List.forall_mem_nil _)
  | unbegun => exact .quiet (List.forall_mem_nil _)
  | broken part =>
    obtain ⟨rfl, later⟩ := tiles
    exact (stretches _ _ _ _ _ part).widen le_rfl (later.le (List.forall_mem_cons.mp forward).2)
  | @next b w rest log log' vs vs' whole part later ih =>
    obtain ⟨rfl, tiles⟩ := tiles
    obtain ⟨nonneg, forward⟩ := List.forall_mem_cons.mp forward
    have first := stretches _ _ _ _ _ part
    have all := first.append (ih forward tiles) (Window.start_le_finish nonneg) (tiles.le forward)
    cases rest with
    | cons next rest => exact all
    | nil =>
      cases later with
      | unbegun => exact all
      | none =>
        cases (tiles : w.finish = y)
        rw [List.append_nil, List.append_nil]
        exact first

/-! ## Levels -/

/-- A repetition: its hook, then the calls of its batch. -/
inductive RepetitionCourse (run : Run) (repetition : Nat) (w : Window ℚ) :
    List (Visit ℚ σ) → List ℚ → Bool → Prop
  | broken {start : Visit ℚ σ} {log : List (Visit ℚ σ)} :
    start.call = .repetitionStarts run repetition → (∀ v ∈ log, ∃ place, v.call = .operation place) →
    Stretch w.start w.finish (start :: log) [w.start] false →
    RepetitionCourse run repetition w (start :: log) [w.start] false
  | measured {start : Visit ℚ σ} {log : List (Visit ℚ σ)} :
    start.call = .repetitionStarts run repetition → (∀ v ∈ log, ∃ place, v.call = .operation place) →
    Stretch w.start w.finish (start :: log) [w.start, w.finish] true →
    RepetitionCourse run repetition w (start :: log) [w.start, w.finish] true

/-- A run: its hook, its repetitions in the parts of its window, and its end. The knobs that its first
call sees say how many there are. -/
inductive RunCourse (run : Run) (w : Window ℚ) : List (Visit ℚ σ) → List ℚ → Bool → Prop
  | intro {knobs : Knobs} {first log last : List (Visit ℚ σ)} {vs : List ℚ} {measured whole : Bool} :
    StartsWith knobs (first ++ (log ++ last)) → (∀ v ∈ first, v.call = .runStarts run) →
    Parts (RepetitionCourse run)
      ((List.range knobs.repetitions).zip (w.split knobs.repetitions)) log vs measured →
    (∀ v ∈ last, ∃ done, v.call = .runEnds done) →
    Stretch w.start w.finish (first ++ (log ++ last)) vs whole →
    RunCourse run w (first ++ (log ++ last)) vs whole

/-- The start of a group and its runs in the parts of its window. -/
inductive BodyCourse (group : String) (w : Window ℚ) : List (Visit ℚ σ) → List ℚ → Prop
  | refused {start : Visit ℚ σ} {e : Stop} :
    start.call = .groupStarts group → start.answer = .stopped e → BodyCourse group w [start] [w.start]
  | started {start : Visit ℚ σ} {rs : List Run} {log : List (Visit ℚ σ)} {vs : List ℚ} {whole : Bool} :
    start.call = .groupStarts group → start.answer = .runs rs →
    Parts RunCourse (rs.zip (w.split rs.length)) log vs whole →
    BodyCourse group w (start :: log) (w.start :: vs)

/-- A call that belongs to the end of a group. -/
def Call.Closes (group : String) (call : Call) : Prop :=
  call = .groupEnds group ∨ ∃ e, call = .groupFailed group e

/-- A group: its start and its runs, and its end. Once it is over, completed or failed, progress is at
the end of its window. -/
inductive GroupCourse (group : String) (w : Window ℚ) : List (Visit ℚ σ) → List ℚ → Bool → Prop
  | broken {log last : List (Visit ℚ σ)} {vs : List ℚ} :
    BodyCourse group w log vs → (∀ v ∈ last, v.call.Closes group) →
    Stretch w.start w.finish (log ++ last) vs false → GroupCourse group w (log ++ last) vs false
  | closed {log last : List (Visit ℚ σ)} {vs : List ℚ} :
    BodyCourse group w log vs → (∀ v ∈ last, v.call.Closes group) →
    Stretch w.start w.finish (log ++ last) (vs ++ [w.finish]) true →
    GroupCourse group w (log ++ last) (vs ++ [w.finish]) true

/-- A suite: its preparation, the groups of the operations that it declares in the parts of its window,
and its end. -/
inductive SuiteCourse (w : Window ℚ) : List (Visit ℚ σ) → List ℚ → Prop
  | unready {log : List (Visit ℚ σ)} : (∀ v ∈ log, v.call = .setUp) → SuiteCourse w log [w.start]
  | undeclared {log : List (Visit ℚ σ)} {declared : Visit ℚ σ} {e : Stop} :
    (∀ v ∈ log, v.call = .setUp) → declared.call = .operations → declared.answer = .stopped e →
    SuiteCourse w (log ++ [declared]) [w.start]
  | declared {first log last : List (Visit ℚ σ)} {declared : Visit ℚ σ} {groups : List String}
      {vs : List ℚ} {whole : Bool} :
    (∀ v ∈ first, v.call = .setUp) → declared.call = .operations →
    declared.answer = .declared groups →
    Parts GroupCourse (groups.zip (w.split groups.length)) log vs whole →
    (∀ v ∈ last, v.call = .tearDown) →
    SuiteCourse w (first ++ declared :: (log ++ last)) (w.start :: vs)

theorem RepetitionCourse.stretch (run : Run) (repetition : Nat) (w : Window ℚ)
    (log : List (Visit ℚ σ)) (vs : List ℚ) (whole : Bool)
    (course : RepetitionCourse run repetition w log vs whole) :
    Stretch w.start w.finish log vs whole := by
  cases course with
  | broken _ _ stretch => exact stretch
  | measured _ _ stretch => exact stretch

theorem RunCourse.stretch (run : Run) (w : Window ℚ) (log : List (Visit ℚ σ)) (vs : List ℚ)
    (whole : Bool) (course : RunCourse run w log vs whole) :
    Stretch w.start w.finish log vs whole := by
  cases course with
  | intro _ _ _ _ stretch => exact stretch

theorem GroupCourse.stretch (group : String) (w : Window ℚ) (log : List (Visit ℚ σ)) (vs : List ℚ)
    (whole : Bool) (course : GroupCourse group w log vs whole) :
    Stretch w.start w.finish log vs whole := by
  cases course with
  | broken _ _ stretch => exact stretch
  | closed _ _ stretch => exact stretch

/-! ## Walks -/

/-- The values that progress took, in order. -/
def Context.values {κ : Type} (c : Context κ) : List κ := c.passed.reverse ++ [c.progress]

namespace Engine

open CodeWith Scene

variable {ε α : Type} {suite : Suite ℚ σ} {clock : Clock} {operation : Operation σ}
  {window : Window ℚ} {s t u : Scene ℚ σ} {log : List (Visit ℚ σ)} {vs vs' : List ℚ} {x y : ℚ}

/-- From one scene to another progress took some values. -/
def Took (s : Scene ℚ σ) (vs : List ℚ) (t : Scene ℚ σ) : Prop :=
  t.context.values = s.context.values ++ vs

namespace Took

theorem trans (took : Took s vs t) (took' : Took t vs' u) : Took s (vs ++ vs') u := by
  unfold Took at took took' ⊢
  rw [took', took, List.append_assoc]

theorem followed (took : Took s vs t) (paused : Took t [] u) : Took s vs u := by
  have all := took.trans paused
  rwa [List.append_nil] at all

/-- Before the values there may be a step that takes none. -/
theorem preceded (took : Took t vs u) (same : t.context.values = s.context.values) :
    Took s vs u := by
  unfold Took at took ⊢
  rw [took, same]

theorem refl (s : Scene ℚ σ) : Took s [] s := (List.append_nil _).symm

theorem of_same (same : SameButNotes s t) : Took s [] t := by
  rw [Took, same.context, List.append_nil]

theorem advanced (s : Scene ℚ σ) (x : ℚ) : Took s [x] (s.adjusted (·.advance x)) := by
  simp [Took, Context.values, Context.advance, Scene.adjusted]

/-- Code that keeps its context does not touch progress. -/
theorem kept {x : CodeWith ε ℚ σ α} {a : Except ε α} (keeps : x.KeepsContext)
    (h : x.run s = (a, t)) : Took s [] t := by
  have kept := keeps s
  rw [h] at kept
  rw [Took, kept, List.append_nil]
  rfl

theorem called {x : Work ε σ α} {a : Except ε α}
    (h : (ofWork x : CodeWith ε ℚ σ α).run s = (a, t)) : Took s [] t := by
  rw [run_ofWork] at h
  cases h
  exact refl s

/-- Progress is at the last value that it took. -/
theorem progress (took : Took s vs t) : t.context.progress = vs.getLastD s.context.progress := by
  have last := congrArg List.getLast? took
  rw [Context.values, Context.values, List.getLast?_append, List.getLast?_append,
    List.getLast?_append] at last
  cases values : vs.getLast? with
  | none => simpa [values, List.getLastD_eq_getLast?] using last
  | some v => simpa [values, List.getLastD_eq_getLast?] using last

theorem getLast? (took : Took s vs t) (some : vs ≠ []) : vs.getLast? = .some t.context.progress := by
  rw [took.progress, List.getLastD_eq_getLast?, List.getLast?_eq_some_getLast some]
  rfl

theorem progress_of_getLast? (took : Took s vs t) (last : vs.getLast? = some x) :
    t.context.progress = x := by
  rw [took.progress, List.getLastD_eq_getLast?, last]
  rfl

/-- Progress that was taken to the start of a window is in the window. -/
theorem between_of_start {w : Window ℚ} (took : Took s [w.start] t) (nonneg : 0 ≤ w.size) :
    t.context.progress ∈ Set.Icc w.start w.finish := by
  rw [took.progress]
  exact Set.left_mem_Icc.mpr (Window.start_le_finish nonneg)

/-- Progress that was between bounds stays there if all values are. -/
theorem between (took : Took s vs t) (before : s.context.progress ∈ Set.Icc x y)
    (within : ∀ v ∈ vs, v ∈ Set.Icc x y) : t.context.progress ∈ Set.Icc x y := by
  cases last : vs.getLast? with
  | none =>
    rw [took.progress, List.getLastD_eq_getLast?, last]
    exact before
  | some v =>
    rw [took.progress_of_getLast? last]
    exact within v (List.mem_of_getLast? last)

end Took

theorem CallsWalk.took {place n : Nat} {answer : Except Stop Unit}
    (walk : CallsWalk operation place n s log answer t) : Took s [] t := by
  induction walk with
  | none => exact .refl _
  | next called _ ih => exact (Took.called called).trans ih
  | stop called => exact .called called

theorem CallsWalk.shows {place n : Nat} {answer : Except Stop Unit}
    (walk : CallsWalk operation place n s log answer t) : Shows x y log := by
  induction walk with
  | none => exact List.forall_mem_nil _
  | next _ _ ih => exact Shows.invocation.append ih
  | stop _ => exact .invocation

theorem CallsWalk.made {place n : Nat} {answer : Except Stop Unit}
    (walk : CallsWalk operation place n s log answer t) :
    ∀ v ∈ log, ∃ place, v.call = .operation place := by
  induction walk with
  | none => exact List.forall_mem_nil _
  | next _ _ ih => exact List.forall_mem_cons.mpr ⟨⟨_, rfl⟩, ih⟩
  | stop _ => exact List.forall_mem_singleton.mpr ⟨_, rfl⟩

theorem StartWalk.shows {run : Run} {answer : Except Stop Unit}
    (walk : StartWalk suite run s log answer t) (between : s.context.progress ∈ Set.Icc x y) :
    Shows x y log := by
  cases walk with
  | single _ => exact List.forall_mem_nil _
  | several _ start _ =>
    subst start
    exact .visit between

theorem StartWalk.made {run : Run} {answer : Except Stop Unit}
    (walk : StartWalk suite run s log answer t) : ∀ v ∈ log, v.call = .runStarts run := by
  cases walk with
  | single _ => exact List.forall_mem_nil _
  | several _ _ _ => exact List.forall_mem_singleton.mpr rfl

theorem FailureWalk.closes {group : String} {error : BenchError} {ended : Bool}
    {answer : Except Stop Unit} (walk : FailureWalk suite group error ended s log answer t) :
    ∀ v ∈ log, v.call.Closes group := by
  have told : (Call.groupFailed group error).Closes group := .inr ⟨error, rfl⟩
  have ends : (Call.groupEnds group).Closes group := .inl rfl
  cases walk with
  | crashed _ _ => exact List.forall_mem_singleton.mpr told
  | told _ _ _ => exact List.forall_mem_singleton.mpr told
  | ended _ _ _ _ _ => exact List.forall_mem_cons.mpr ⟨told, List.forall_mem_singleton.mpr ends⟩
  | halted _ _ _ _ => exact List.forall_mem_cons.mpr ⟨told, List.forall_mem_singleton.mpr ends⟩

theorem SetUpWalk.shows {answer : Except Stop Unit} (walk : SetUpWalk suite s log answer t)
    (between : s.context.progress ∈ Set.Icc x y) : Shows x y log := by
  cases walk with
  | noDirectory _ => exact List.forall_mem_nil _
  | refused _ start _ _ =>
    subst start
    exact .visit between
  | halted _ start _ _ =>
    subst start
    exact .visit between
  | ready _ start _ =>
    subst start
    exact .visit between

theorem SetUpWalk.made {answer : Except Stop Unit} (walk : SetUpWalk suite s log answer t) :
    ∀ v ∈ log, v.call = .setUp := by
  cases walk with
  | noDirectory _ => exact List.forall_mem_nil _
  | refused _ _ _ _ => exact List.forall_mem_singleton.mpr rfl
  | halted _ _ _ _ => exact List.forall_mem_singleton.mpr rfl
  | ready _ _ _ => exact List.forall_mem_singleton.mpr rfl

theorem Took.opened (same : SameButNotes (s.adjusted (opened window)) t) : Took s [window.start] t :=
  ((Took.advanced (s.adjusted fun c => { c with terminated := [] }) window.start).followed
    (.of_same same)).preceded rfl

/-! ## Suites that keep their context -/

section Kept

variable (keeps : suite.KeepsContext)

include keeps

theorem StartWalk.took {run : Run} {answer : Except Stop Unit}
    (walk : StartWalk suite run s log answer t) : Took s [] t := by
  cases walk with
  | single _ => exact .refl s
  | several _ start entered =>
    subst start
    exact (Took.kept (keeps.runStarts run) entered).preceded rfl

theorem FailureWalk.took {group : String} {error : BenchError} {ended : Bool}
    {answer : Except Stop Unit} (walk : FailureWalk suite group error ended s log answer t) :
    Took s [] t := by
  have tells := keeps.groupFailed group error
  cases walk with
  | crashed start told =>
    subst start
    exact (Took.kept tells told).preceded rfl
  | told start told same =>
    subst start
    exact ((Took.kept tells told).followed (.of_same same)).preceded rfl
  | ended start told closed _ same =>
    subst start
    exact (((Took.kept tells told).followed (.kept (keeps.groupEnds group) closed)).followed
      (.of_same same)).preceded rfl
  | halted start told closed _ =>
    subst start
    exact ((Took.kept tells told).followed (.kept (keeps.groupEnds group) closed)).preceded rfl

theorem FailureWalk.shows {group : String} {error : BenchError} {ended : Bool}
    {answer : Except Stop Unit} (walk : FailureWalk suite group error ended s log answer t)
    (between : s.context.progress ∈ Set.Icc x y) : Shows x y log := by
  have tells := keeps.groupFailed group error
  cases walk with
  | crashed start _ =>
    subst start
    exact .visit between
  | told start _ _ =>
    subst start
    exact .visit between
  | ended start told _ _ _ =>
    subst start
    exact .cons between (.visit ((Took.kept tells told).between between (List.forall_mem_nil _)))
  | halted start told _ _ =>
    subst start
    exact .cons between (.visit ((Took.kept tells told).between between (List.forall_mem_nil _)))

theorem SetUpWalk.took {answer : Except Stop Unit} (walk : SetUpWalk suite s log answer t) :
    Took s [] t := by
  have prepared : ∀ {w : World} {s' t : Scene ℚ σ} {answer : Except Stop Unit},
      s' = { s with world := w } → suite.setUp.run s' = (answer, t) → Took s [] t := by
    rintro w s' t answer rfl entered
    exact (Took.kept keeps.setUp entered).preceded rfl
  cases walk with
  | noDirectory _ => exact Took.refl s
  | refused _ start entered _ => exact prepared start entered
  | halted _ start entered _ => exact prepared start entered
  | ready _ start entered => exact prepared start entered

section Runs

variable {run : Run} {calls index i : Nat}

/-- Progress is at the start of the window of a repetition, and after it at the end. -/
theorem RepetitionWalk.course {place : BatchPlace} {answer : Except Stop Measurement}
    (walk : RepetitionWalk suite clock operation run calls place window s log answer t)
    (nonneg : 0 ≤ window.size) :
    ∃ vs, Took s vs t ∧ RepetitionCourse run place.repetition window log vs answer.isOk := by
  have starts := keeps.repetitionStarts run place.repetition
  have ordered := Window.start_le_finish nonneg
  have start : window.start ∈ Set.Icc window.start window.finish := Set.left_mem_Icc.mpr ordered
  cases walk with
  | refused begun entered =>
    subst begun
    refine ⟨[window.start], (Took.advanced s _).followed (.kept starts entered), ?_⟩
    exact .broken rfl (List.forall_mem_nil _) (.singleton start (.visit start))
  | stopped begun entered same batch =>
    subst begun
    refine ⟨[window.start], (Took.advanced s _).followed
      (((Took.kept starts entered).followed (.of_same same)).followed batch.took), ?_⟩
    exact .broken rfl batch.made (.singleton start (.cons start batch.shows))
  | measured begun entered same batch same' =>
    subst begun
    refine ⟨[window.start, window.finish], (((Took.advanced s _).followed
      (((Took.kept starts entered).followed (.of_same same)).followed batch.took)).trans
        (.advanced _ _)).followed (.of_same same'), ?_⟩
    have both := (Ascends.singleton start).append
      (.singleton (Set.left_mem_Icc.mpr le_rfl)) ordered (le_refl window.finish)
    exact .measured rfl batch.made ⟨both, .cons start batch.shows, fun _ => rfl⟩

theorem RepetitionsWalk.parts {place : BatchPlace} {windows : List (Window ℚ)}
    {answer : Except Stop (List Measurement)}
    (walk : RepetitionsWalk suite clock operation run calls place windows s log answer t)
    (forward : Window.Forward windows) :
    ∃ vs, Took s vs t ∧ Parts (RepetitionCourse run)
      ((List.range' place.repetition windows.length).zip windows) log vs answer.isOk := by
  induction walk with
  | none => exact ⟨[], .refl _, .none⟩
  | stop walk =>
    obtain ⟨vs, took, course⟩ := walk.course keeps (List.forall_mem_cons.mp forward).1
    exact ⟨vs, took, .broken course⟩
  | @next place window rest s t u log log' m answer walk _ ih =>
    obtain ⟨vs, took, course⟩ := walk.course keeps (List.forall_mem_cons.mp forward).1
    obtain ⟨vs', took', parts⟩ := ih (List.forall_mem_cons.mp forward).2
    have same : (answer.map (m :: ·)).isOk = answer.isOk := by cases answer <;> rfl
    rw [same]
    exact ⟨vs ++ vs', took.trans took', .next course parts⟩

/-- The repetitions of a run take its window. -/
theorem RepetitionsWalk.course {count : Nat} {answer : Except Stop (List Measurement)}
    (walk : RepetitionsWalk suite clock operation run calls ⟨index, i, 0⟩ (window.split count) s log
      answer t) (nonneg : 0 ≤ window.size) (some : 0 < count) :
    ∃ vs, Took s vs t ∧ Parts (RepetitionCourse run)
      ((List.range count).zip (window.split count)) log vs answer.isOk ∧
      Stretch window.start window.finish log vs answer.isOk := by
  have forward := Window.forward_split nonneg count
  obtain ⟨vs, took, parts⟩ := walk.parts keeps forward
  rw [Window.length_split, ← List.range_eq_range'] at parts
  have tiles := window.tiles_split some
  rw [← Window.map_snd_zip_split List.length_range] at forward tiles
  have stretch := parts.stretch (RepetitionCourse.stretch run) forward tiles
  rw [Window.isEmpty_zip_split List.length_range some, Bool.not_false, Bool.and_true] at stretch
  exact ⟨vs, took, parts, stretch⟩

/-- A run that starts at the start of its window keeps to the window. -/
theorem RunWalk.course {answer : Except Stop Unit}
    (walk : RunWalk suite clock operation run ⟨index, i, 0⟩ window s log answer t)
    (nonneg : 0 ≤ window.size) (placed : s.context.progress = window.start) :
    ∃ vs, Took s vs t ∧ RunCourse run window log vs answer.isOk := by
  have ordered := Window.start_le_finish nonneg
  have between : s.context.progress ∈ Set.Icc window.start window.finish := by
    rw [placed]
    exact Set.left_mem_Icc.mpr ordered
  have begins := walk.startsWith
  cases walk with
  | refused start =>
    have stretch := Stretch.quiet (start.shows between)
    rw [← List.append_nil log] at begins stretch ⊢
    exact ⟨[], start.took keeps, .intro begins start.made .unbegun (List.forall_mem_nil _) stretch⟩
  | @stopped t _ first log e start walk =>
    obtain ⟨vs, took, parts, stretch⟩ := walk.course keeps nonneg s.context.knobs.repetitions_pos
    rw [← List.append_nil log] at begins ⊢
    exact ⟨vs, (start.took keeps).trans took, .intro begins start.made parts (List.forall_mem_nil _)
      (stretch.around (start.shows between) (List.forall_mem_nil _) id)⟩
  | @ended t u u' _ first log ms done answer start walk _ same told =>
    obtain ⟨vs, took, parts, stretch⟩ := walk.course keeps nonneg s.context.knobs.repetitions_pos
    have before := (start.took keeps).trans (took.followed ((Took.of_same same).preceded rfl))
    have finished : u'.context.progress ∈ Set.Icc window.start window.finish := by
      rw [before.progress_of_getLast? (stretch.finishes rfl)]
      exact Set.right_mem_Icc.mpr ordered
    exact ⟨vs, before.followed (.kept (keeps.runEnds done) told),
      .intro begins start.made parts (List.forall_mem_singleton.mpr ⟨done, rfl⟩)
        (stretch.around (start.shows between) (.visit finished) fun _ => rfl)⟩

/-- Runs whose windows stand in a row, from where progress is. -/
theorem RunsWalk.parts {list : List (Run × Window ℚ)} {answer : Except Stop Unit}
    (walk : RunsWalk suite clock operation ⟨index, i, 0⟩ list s log answer t)
    (forward : Window.Forward (list.map (·.2)))
    (tiles : Window.Tiles s.context.progress (list.map (·.2)) y) :
    ∃ vs, Took s vs t ∧ Parts RunCourse list log vs answer.isOk := by
  generalize place : (⟨index, i, 0⟩ : BatchPlace) = p at walk
  induction walk generalizing i with
  | none => exact ⟨[], .refl _, .none⟩
  | stop walk =>
    subst place
    obtain ⟨vs, took, course⟩ := walk.course keeps (List.forall_mem_cons.mp forward).1 tiles.1.symm
    exact ⟨vs, took, .broken course⟩
  | @next _ run window rest s t u log log' answer walk _ ih =>
    subst place
    obtain ⟨nonneg, forward⟩ := List.forall_mem_cons.mp forward
    obtain ⟨vs, took, course⟩ := walk.course keeps nonneg tiles.1.symm
    have reached := took.progress_of_getLast? ((course.stretch run window).finishes rfl)
    obtain ⟨vs', took', parts⟩ := ih forward (reached.symm ▸ tiles.2) rfl
    exact ⟨vs ++ vs', took.trans took', .next course parts⟩

end Runs

section Groups

variable {index : Nat}

/-- The start of a group and its runs keep to the window of the group. -/
theorem BodyWalk.course {answer : Except Stop Nat}
    (walk : BodyWalk suite clock operation index window s log answer t) (nonneg : 0 ≤ window.size) :
    ∃ vs, Took s vs t ∧ t.context.progress ∈ Set.Icc window.start window.finish ∧
      BodyCourse operation.name window log vs ∧
      Stretch window.start window.finish log vs false := by
  have starts := keeps.groupStarts operation.name
  have ordered := Window.start_le_finish nonneg
  have start : window.start ∈ Set.Icc window.start window.finish := Set.left_mem_Icc.mpr ordered
  cases walk with
  | @refused s' _ e same entered =>
    have took := (Took.opened same).followed (.kept starts entered)
    have placed : s'.context.progress = window.start := (Took.opened same).progress
    refine ⟨[window.start], took, ?_, .refused rfl rfl, ?_⟩
    · rw [took.progress]
      exact start
    · exact .singleton start (.visit (placed ▸ start))
  | @started s' t' _ rs log answer same entered walk =>
    have took := (Took.opened same).followed (.kept starts entered)
    have placed : s'.context.progress = window.start := (Took.opened same).progress
    have placed' : t'.context.progress = window.start := took.progress
    have forward := Window.forward_split nonneg rs.length
    have tiles := window.tiles_split_ite rs.length
    rw [← Window.map_snd_zip_split rfl] at forward tiles
    obtain ⟨vs, took', parts⟩ := walk.parts keeps forward (placed'.symm ▸ tiles)
    have inner : Stretch window.start window.finish log vs false :=
      (parts.stretch RunCourse.stretch forward tiles).widen le_rfl (by split <;> simp [ordered])
    have opening : Stretch window.start window.start
        [s'.visit (.groupStarts operation.name) (.runs rs)] [window.start] true :=
      .last _ (.visit (by simp [placed]))
    refine ⟨window.start :: vs, took.trans took', ?_, .started rfl rfl parts,
      opening.append inner le_rfl ordered⟩
    exact took'.between (placed' ▸ start) inner.within

/-- What comes of a group keeps to its window as well. -/
theorem OutcomeWalk.course {answer : Except Stop Bool}
    (walk : OutcomeWalk suite clock operation index window s log answer t)
    (nonneg : 0 ≤ window.size) :
    ∃ vs, Took s vs t ∧ GroupCourse operation.name window log vs false := by
  have ends : (Call.groupEnds operation.name).Closes operation.name := .inl rfl
  have closing := keeps.groupEnds operation.name
  cases walk with
  | halted body _ =>
    obtain ⟨vs, took, _, course, stretch⟩ := body.course keeps nonneg
    rw [← List.append_nil log]
    exact ⟨vs, took, .broken course (List.forall_mem_nil _)
      (stretch.around (List.forall_mem_nil _) (List.forall_mem_nil _) id)⟩
  | failed body _ failure =>
    obtain ⟨vs, took, between, course, stretch⟩ := body.course keeps nonneg
    exact ⟨vs, took.followed (failure.took keeps), .broken course failure.closes
      (stretch.around (List.forall_mem_nil _) (failure.shows keeps between) id)⟩
  | endHalted body ended _ =>
    obtain ⟨vs, took, between, course, stretch⟩ := body.course keeps nonneg
    exact ⟨vs, took.followed (.kept closing ended), .broken course (List.forall_mem_singleton.mpr ends)
      (stretch.around (List.forall_mem_nil _) (.visit between) id)⟩
  | endFailed body ended _ failure =>
    obtain ⟨vs, took, between, course, stretch⟩ := body.course keeps nonneg
    have between' := (Took.kept closing ended).between between (List.forall_mem_nil _)
    exact ⟨vs, (took.followed (.kept closing ended)).followed (failure.took keeps),
      .broken course (List.forall_mem_cons.mpr ⟨ends, failure.closes⟩)
        (stretch.around (List.forall_mem_nil _) (.cons between (failure.shows keeps between')) id)⟩
  | completed body ended same =>
    obtain ⟨vs, took, between, course, stretch⟩ := body.course keeps nonneg
    exact ⟨vs, (took.followed (.kept closing ended)).followed ((Took.of_same same).preceded rfl),
      .broken course (List.forall_mem_singleton.mpr ends)
        (stretch.around (List.forall_mem_nil _) (.visit between) id)⟩

/-- A group that is over takes progress to the end of its window. -/
theorem GroupWalk.course {answer : Except Stop Bool}
    (walk : GroupWalk suite clock operation index window s log answer t)
    (nonneg : 0 ≤ window.size) :
    ∃ vs, Took s vs t ∧ GroupCourse operation.name window log vs answer.isOk := by
  cases walk with
  | stop walk => exact walk.course keeps nonneg
  | finished walk =>
    obtain ⟨vs, took, course⟩ := walk.course keeps nonneg
    refine ⟨vs ++ [window.finish], took.trans (.advanced _ _), ?_⟩
    have ordered := Window.start_le_finish nonneg
    have finish : Stretch window.finish window.finish ([] : List (Visit ℚ σ)) [window.finish] true :=
      .last _ (List.forall_mem_nil _)
    cases course with
    | broken body closes stretch =>
      have all := stretch.append finish ordered le_rfl
      rw [List.append_nil] at all
      exact .closed body closes all

theorem GroupsWalk.parts {summary : Summary} {list : List (Operation σ × Window ℚ)}
    {answer : Except Stop Summary}
    (walk : GroupsWalk suite clock index summary list s log answer t)
    (forward : Window.Forward (list.map (·.2))) :
    ∃ vs, Took s vs t ∧
      Parts GroupCourse (list.map fun o => (o.1.name, o.2)) log vs answer.isOk := by
  induction walk with
  | none => exact ⟨[], .refl _, .none⟩
  | stop walk =>
    obtain ⟨vs, took, course⟩ := walk.course keeps (List.forall_mem_cons.mp forward).1
    exact ⟨vs, took, .broken course⟩
  | next walk _ ih =>
    obtain ⟨nonneg, forward⟩ := List.forall_mem_cons.mp forward
    obtain ⟨vs, took, course⟩ := walk.course keeps nonneg
    obtain ⟨vs', took', parts⟩ := ih forward
    exact ⟨vs ++ vs', took.trans took', .next course parts⟩

end Groups

end Kept

/-! ## Suites -/

/-- The course of progress over the life of a suite. -/
structure Course (window : Window ℚ) (log : List (Visit ℚ σ)) (vs : List ℚ)
    (answer : Except Stop Summary) (final : ℚ) : Prop where
  starts : vs.head? = some window.start
  ends : vs.getLast? = some final
  stretch : Stretch window.start window.finish log vs false
  levels : SuiteCourse window log vs
  /-- A suite that declares operations takes progress to the end of its window. -/
  finished : ∀ summary, answer = .ok summary → ∃ declared ∈ log, ∃ groups,
    declared.call = .operations ∧ declared.answer = .declared groups ∧
      final = if groups = [] then window.start else window.finish
  unready : ∀ e, answer = .error (.failure e) →
    (∀ v ∈ log, v.call = .setUp) ∧ final = window.start

/-- Only a suite that cannot be prepared comes to an error. -/
theorem SuiteWalk.made_of_failure {e : BenchError}
    (walk : SuiteWalk suite clock window s log (.error (.failure e)) t) :
    ∀ v ∈ log, v.call = .setUp := by
  have protocol := walk.protocol (walk.regular nofun)
  cases protocol with
  | noDirectory _ => exact List.forall_mem_nil _
  | refused _ _ _ => exact List.forall_mem_singleton.mpr rfl

/-- A suite that never comes to its groups leaves progress at the start of its window. -/
theorem Course.of_idle {answer : Except Stop Summary} (took : Took s [window.start] t)
    (nonneg : 0 ≤ window.size) (seen : Shows window.start window.finish log)
    (levels : SuiteCourse window log [window.start]) (stopped : ∀ summary, answer ≠ .ok summary)
    (failed : ∀ e, answer = .error (.failure e) → ∀ v ∈ log, v.call = .setUp) :
    Course window log [window.start] answer t.context.progress where
  starts := rfl
  ends := congrArg some took.progress.symm
  stretch := .singleton (Set.left_mem_Icc.mpr (Window.start_le_finish nonneg)) seen
  levels := levels
  finished summary returned := absurd returned (stopped summary)
  unready e same := ⟨failed e same, took.progress⟩

section Kept

variable {index : Nat} (keeps : suite.KeepsContext)

include keeps

/-- The groups of a suite take its window. -/
theorem GroupsWalk.course {summary : Summary} {operations : List (Operation σ)}
    {groups : List String} {answer : Except Stop Summary}
    (walk : GroupsWalk suite clock index summary (scheduled window operations) s log answer t)
    (nonneg : 0 ≤ window.size) (names : groups = operations.map (·.name)) :
    ∃ vs, Took s vs t ∧ Parts GroupCourse (groups.zip (window.split groups.length)) log vs answer.isOk ∧
      Stretch window.start window.finish log vs false ∧
      (answer.isOk = true → (window.start :: vs).getLast? =
        some (if groups = [] then window.start else window.finish)) := by
  have length : groups.length = operations.length := by rw [names, List.length_map]
  have list : (scheduled window operations).map (fun o => (o.1.name, o.2)) =
      groups.zip (window.split groups.length) := by
    rw [scheduled, length, names, List.zip_map_left]
    rfl
  have windows : (scheduled window operations).map (·.2) = window.split groups.length :=
    length ▸ Window.map_snd_zip_split rfl
  have forward := Window.forward_split nonneg groups.length
  obtain ⟨vs, took, parts⟩ := walk.parts keeps (windows ▸ forward)
  rw [list] at parts
  have tiles := window.tiles_split_ite groups.length
  rw [← Window.map_snd_zip_split rfl] at forward tiles
  have stretch := parts.stretch GroupCourse.stretch forward tiles
  refine ⟨vs, took, parts, stretch.widen le_rfl ?_, fun whole => ?_⟩
  · split <;> simp [Window.start_le_finish nonneg]
  · rcases groups with - | ⟨group, groups⟩
    · rw [parts.eq_nil]
      rfl
    · have positive : 0 < (group :: groups).length := Nat.succ_pos _
      have last : vs.getLast? = some window.finish :=
        stretch.finishes (by rw [whole, Window.isEmpty_zip_split rfl positive]; rfl)
      rw [List.getLast?_cons, last]
      rfl

/-- A suite that comes to its groups takes its window with them. What follows them is its end. -/
theorem GroupsWalk.course_of_suite {s' v w : Scene ℚ σ} {log' last : List (Visit ℚ σ)}
    {operations : List (Operation σ)} {summary : Summary} {groupsAnswer answer : Except Stop Summary}
    (walk : GroupsWalk suite clock index summary (scheduled window operations) u log' groupsAnswer v)
    (same : SameButNotes (s.adjusted (·.advance window.start)) s')
    (ready : SetUpWalk suite s' log (.ok ()) t)
    (declared : (ofWork suite.operations).run t = (.ok operations, u)) (took : Took v [] w)
    (closes : ∀ v ∈ last, v.call = .tearDown)
    (seen : v.context.progress ∈ Set.Icc window.start window.finish →
      Shows window.start window.finish last)
    (returned : ∀ summary, answer = .ok summary → groupsAnswer.isOk = true)
    (failed : ∀ e, answer = .error (.failure e) → ∀ v ∈ log ++
      t.invocation .operations (.declared (operations.map (·.name))) :: (log' ++ last), v.call = .setUp)
    (nonneg : 0 ≤ window.size) :
    ∃ vs, Took s vs w ∧ Course window (log ++
      t.invocation .operations (.declared (operations.map (·.name))) :: (log' ++ last)) vs answer
        w.context.progress := by
  have begun : Took s [window.start] s' := (Took.advanced s _).followed (.of_same same)
  have before : Took s [window.start] u := (begun.followed (ready.took keeps)).followed (.called declared)
  obtain ⟨vs, taken, parts, stretch, finished⟩ := walk.course keeps nonneg rfl
  have all : Took s (window.start :: vs) w := (before.trans taken).followed took
  have reached := taken.between (before.between_of_start nonneg) stretch.within
  have seen' : Shows window.start window.finish (log ++
      t.invocation .operations (.declared (operations.map (·.name))) :: (log' ++ last)) :=
    (ready.shows (begun.between_of_start nonneg)).append
      (Shows.append .invocation (stretch.seen.append (seen reached)))
  have values := (Ascends.singleton (Set.left_mem_Icc.mpr (le_refl window.start))).append
    stretch.toAscends le_rfl (Window.start_le_finish nonneg)
  have mem : t.invocation .operations (.declared (operations.map (·.name))) ∈ log ++
      t.invocation .operations (.declared (operations.map (·.name))) :: (log' ++ last) :=
    List.mem_append_right _ List.mem_cons_self
  refine ⟨window.start :: vs, all, ?_⟩
  constructor
  case starts => rfl
  case ends => exact all.getLast? (List.cons_ne_nil _ _)
  case stretch => exact ⟨values, seen', nofun⟩
  case levels => exact .declared ready.made rfl rfl parts closes
  case finished =>
    intro summary same
    refine ⟨_, mem, _, rfl, rfl, ?_⟩
    exact all.progress_of_getLast? (finished (returned summary same))
  case unready =>
    intro e same
    cases failed e same _ mem

/-- The course of progress over the life of a suite. -/
theorem SuiteWalk.course {answer : Except Stop Summary}
    (walk : SuiteWalk suite clock window s log answer t) (nonneg : 0 ≤ window.size) :
    ∃ vs, Took s vs t ∧ Course window log vs answer t.context.progress := by
  have failed : ∀ e, answer = .error (.failure e) → ∀ v ∈ log, v.call = .setUp := by
    rintro e rfl
    exact walk.made_of_failure
  have ending := keeps.tearDown
  cases walk with
  | unready same ready =>
    have begun : Took s [window.start] _ := (Took.advanced s _).followed (.of_same same)
    have took := begun.followed (ready.took keeps)
    exact ⟨_, took, .of_idle took nonneg (ready.shows (begun.between_of_start nonneg)) (.unready ready.made)
      nofun failed⟩
  | undeclared same ready declared =>
    have begun : Took s [window.start] _ := (Took.advanced s _).followed (.of_same same)
    have took := (begun.followed (ready.took keeps)).followed (.called declared)
    exact ⟨_, took, .of_idle took nonneg
      ((ready.shows (begun.between_of_start nonneg)).append .invocation)
      (.undeclared ready.made rfl rfl) nofun failed⟩
  | @halted _ _ _ _ _ log' _ _ same ready declared walk =>
    rw [← List.append_nil log'] at failed ⊢
    exact walk.course_of_suite keeps same ready declared (.refl _) (List.forall_mem_nil _)
      (fun _ => List.forall_mem_nil _) nofun failed nonneg
  | crashed same ready declared walk ended =>
    exact walk.course_of_suite keeps same ready declared (.kept ending ended)
      (List.forall_mem_singleton.mpr rfl) .visit (fun _ _ => rfl) failed nonneg
  | finished same ready declared walk ended _ last =>
    exact walk.course_of_suite keeps same ready declared
      ((Took.kept ending ended).followed (.of_same last)) (List.forall_mem_singleton.mpr rfl) .visit
      (fun _ _ => rfl) failed nonneg

end Kept

/-- The values that progress takes during a run. -/
def valuesTaken {κ : Type} [Arithmetic κ] (suite : Suite κ σ) (clock : Clock) (window : Window κ)
    (s : Scene κ σ) : List κ :=
  ((run suite clock window).run s).2.context.values.drop s.context.values.length

end Engine

end Microbench
