import Microbench.Proofs.Code

/-!
# Watched suites

A watched suite is a suite that keeps a list of the calls made of it: what was called, what the
callee saw, and what came of it. The list stands beside the suite's own state and no code of the
suite reads it, so the watched suite behaves as the suite does.

`Follows` relates code of a suite with the code of the watched one: from the same scene both give
the same answer and reach the same scene, and the calls listed in between satisfy a postcondition.
Its rules follow the steps that the engine is made of.
-/

namespace Microbench

/-! ## Calls -/

/-- What is called of a suite. -/
inductive Call where
  | setUp
  | operations
  | groupStarts (group : String)
  | runStarts (run : Run)
  | repetitionStarts (run : Run) (repetition : Nat)
  /-- The operation at a place of the declared ones, counted from zero. -/
  | operation (place : Nat)
  | runEnds (run : Run)
  | groupEnds (group : String)
  | groupFailed (group : String) (error : BenchError)
  | tearDown

/-- What came of a call. -/
inductive Answer where
  | returned
  /-- The names of the operations that were declared. -/
  | declared (names : List String)
  /-- The runs to exercise an operation in. -/
  | runs (rs : List Run)
  | stopped (stop : Stop)

/-- What came of code that gives `value a` when it returns `a`. -/
def Answer.of {ε α : Type} (stop : ε → Stop) (value : α → Answer) : Except ε α → Answer
  | .ok a => value a
  | .error e => .stopped (stop e)

/-- A call that was made of a suite. -/
structure Visit (κ σ : Type) where
  call : Call
  /-- The context that the callee saw; operations see none. -/
  context : Option (Context κ)
  state : σ
  world : World
  answer : Answer

/-- The state of a watched suite: that of the suite, and the calls so far. -/
abbrev Watched (κ σ : Type) := σ × List (Visit κ σ)

variable {ε κ σ α β : Type}

/-- The scene of a watched suite after some calls. -/
def Scene.watching (s : Scene κ σ) (past : List (Visit κ σ)) : Scene κ (Watched κ σ) :=
  { s with state := (s.state, past) }

/-- The call of code that sees the context. -/
def Scene.visit (s : Scene κ σ) (call : Call) (answer : Answer) : Visit κ σ :=
  ⟨call, some s.context, s.state, s.world, answer⟩

/-- A visit shows all of the scene. -/
theorem Scene.eq_of_visit_eq {s t : Scene κ σ} {call call' : Call} {answer answer' : Answer}
    (same : s.visit call answer = t.visit call' answer') : s = t := by
  cases s
  cases t
  cases same
  rfl

/-- The call of an operation. -/
def Scene.invocation (s : Scene κ σ) (call : Call) (answer : Answer) : Visit κ σ :=
  ⟨call, none, s.state, s.world, answer⟩

/-- Code that is listed when it is called. -/
def CodeWith.watched (call : Call) (stop : ε → Stop) (value : α → Answer)
    (x : CodeWith ε κ σ α) : CodeWith ε κ (Watched κ σ) α := fun s =>
  let before : Scene κ σ := { s with state := s.state.1 }
  let (answer, after) := x.run before
  (answer, after.watching (s.state.2 ++ [before.visit call (.of stop value answer)]))

/-- Work that is listed when it is called. -/
def Work.watched (call : Call) (stop : ε → Stop) (value : α → Answer) (x : Work ε σ α) :
    Work ε (Watched κ σ) α := fun ((state, past), world) =>
  let (answer, state', world') := x.run (state, world)
  (answer, (state', past ++ [⟨call, none, state, world, .of stop value answer⟩]), world')

/-- An operation that is listed when it is called. -/
def Operation.watched (place : Nat) (o : Operation σ) : Operation (Watched κ σ) where
  name := o.name
  call := Work.watched (.operation place) id (fun _ => .returned) o.call

/-- The names of operations. -/
def Operation.names (os : List (Operation σ)) : Answer := .declared (os.map (·.name))

/-- A suite that lists the calls made of it. -/
def Suite.watched (suite : Suite κ σ) : Suite κ (Watched κ σ) where
  setUp := suite.setUp.watched .setUp id fun _ => .returned
  operations := fun s =>
    let (answer, t) := (Work.watched .operations Stop.crash Operation.names suite.operations).run s
    (answer.map (·.mapIdx Operation.watched), t)
  groupStarts group := (suite.groupStarts group).watched (.groupStarts group) id .runs
  runStarts run := (suite.runStarts run).watched (.runStarts run) id fun _ => .returned
  repetitionStarts run repetition :=
    (suite.repetitionStarts run repetition).watched (.repetitionStarts run repetition) id
      fun _ => .returned
  runEnds run := (suite.runEnds run).watched (.runEnds run) id fun _ => .returned
  groupEnds group := (suite.groupEnds group).watched (.groupEnds group) id fun _ => .returned
  groupFailed group e :=
    (suite.groupFailed group e).watched (.groupFailed group e) Stop.crash fun _ => .returned
  tearDown := suite.tearDown.watched .tearDown id fun _ => .returned

/-! ## Code beside its watched twin -/

open CodeWith

/-- `Follows s x y Q`: from `s` the watched code `y` answers what `x` answers and reaches the scene
that `x` reaches, whatever was listed before; the calls that it lists satisfy `Q`. -/
def Follows (s : Scene κ σ) (x : CodeWith ε κ σ α) (y : CodeWith ε κ (Watched κ σ) α)
    (Q : List (Visit κ σ) → Except ε α → Scene κ σ → Prop) : Prop :=
  ∃ log, (∀ past, y.run (s.watching past) = ((x.run s).1, (x.run s).2.watching (past ++ log))) ∧
    Q log (x.run s).1 (x.run s).2

namespace Follows

variable {s : Scene κ σ} {x : CodeWith ε κ σ α} {y : CodeWith ε κ (Watched κ σ) α}
  {f : α → CodeWith ε κ σ β} {g : α → CodeWith ε κ (Watched κ σ) β}
  {P : List (Visit κ σ) → Except ε α → Scene κ σ → Prop}
  {Q : List (Visit κ σ) → Except ε β → Scene κ σ → Prop}

theorem mono {P' : List (Visit κ σ) → Except ε α → Scene κ σ → Prop} (h : Follows s x y P)
    (post : ∀ log answer t, P log answer t → P' log answer t) : Follows s x y P' := by
  rcases h with ⟨log, run, holds⟩
  exact ⟨log, run, post _ _ _ holds⟩

/-- What is listed before the watched code runs has no part in what it lists. -/
theorem listed_fresh (h : Follows s x y P) :
    (∀ past, y.run (s.watching past) =
        ((x.run s).1, (x.run s).2.watching (past ++ (y.run (s.watching [])).2.state.2))) ∧
      P (y.run (s.watching [])).2.state.2 (x.run s).1 (x.run s).2 := by
  obtain ⟨log, run, holds⟩ := h
  have same : (y.run (s.watching [])).2.state.2 = log := congrArg (fun r => r.2.state.2) (run [])
  rw [same]
  exact ⟨run, holds⟩

theorem pure {a : α} (post : P [] (.ok a) s) :
    Follows s (Pure.pure a) (Pure.pure a : CodeWith ε κ (Watched κ σ) α) P :=
  ⟨[], fun past => by rw [List.append_nil]; rfl, post⟩

theorem throw {e : ε} (post : P [] (.error e) s) :
    Follows s (MonadExcept.throw e) (MonadExcept.throw e : CodeWith ε κ (Watched κ σ) α) P :=
  ⟨[], fun past => by rw [List.append_nil]; rfl, post⟩

theorem noting {e : Event} {P : List (Visit κ σ) → Except ε Unit → Scene κ σ → Prop}
    (post : P [] (.ok ()) (s.noted e)) :
    Follows s (CodeWith.note e) (CodeWith.note e : CodeWith ε κ (Watched κ σ) Unit) P :=
  ⟨[], fun past => by rw [List.append_nil]; rfl, post⟩

/-- One piece of code after the other. -/
theorem bind (first : Follows s x y P) (stop : ∀ log e t, P log (.error e) t → Q log (.error e) t)
    (next : ∀ log a t, P log (.ok a) t →
      Follows t (f a) (g a) fun log' answer u => Q (log ++ log') answer u) :
    Follows s (x >>= f) (y >>= g) Q := by
  rcases first with ⟨log, run, holds⟩
  rcases hx : x.run s with ⟨a, t⟩
  rw [hx] at run holds
  cases a with
  | error e =>
    refine ⟨log, fun past => ?_, ?_⟩
    · rw [run_bind_of_error (run past), run_bind_of_error hx]
    · rw [run_bind_of_error hx]
      exact stop _ _ _ holds
  | ok a =>
    obtain ⟨log', run', holds'⟩ := next _ _ _ holds
    refine ⟨log ++ log', fun past => ?_, ?_⟩
    · rw [run_bind_of_ok (run past), run_bind_of_ok hx, run', List.append_assoc]
    · rw [run_bind_of_ok hx]
      exact holds'

section Listed

variable {δ : Type} {z : CodeWith ε κ (Watched κ σ) δ} {h : δ → CodeWith ε κ (Watched κ σ) β}
  {t : Scene κ σ} {visit : Visit κ σ}

/-- The two may also return different values, if what they do with those follows. -/
theorem listed {a : α} {d : δ} (first : x.run s = (.ok a, t))
    (first' : ∀ past, z.run (s.watching past) = (.ok d, t.watching (past ++ [visit])))
    (rest : Follows t (f a) (h d) fun log answer u => Q (visit :: log) answer u) :
    Follows s (x >>= f) (z >>= h) Q := by
  rcases rest with ⟨log, run, holds⟩
  refine ⟨visit :: log, fun past => ?_, ?_⟩
  · rw [run_bind_of_ok (first' past), run_bind_of_ok first, run, List.append_assoc]
    rfl
  · rw [run_bind_of_ok first]
    exact holds

theorem stopped {e : ε} (first : x.run s = (.error e, t))
    (first' : ∀ past, z.run (s.watching past) = (.error e, t.watching (past ++ [visit])))
    (post : Q [visit] (.error e) t) : Follows s (x >>= f) (z >>= h) Q := by
  refine ⟨[visit], fun past => ?_, ?_⟩
  · rw [run_bind_of_error (first' past), run_bind_of_error first]
  · rw [run_bind_of_error first]
    exact post

end Listed

/-! ## The steps between calls -/

section Steps

variable {x : CodeWith ε κ σ α} {y : CodeWith ε κ (Watched κ σ) α} {f : Unit → CodeWith ε κ σ α}
  {g : Unit → CodeWith ε κ (Watched κ σ) α} {P : List (Visit κ σ) → Except ε α → Scene κ σ → Prop}

theorem adjust {c : Context κ → Context κ} (rest : Follows (s.adjusted c) (f ()) (g ()) P) :
    Follows s (CodeWith.adjust c >>= f) (CodeWith.adjust c >>= g) P := by
  rcases rest with ⟨log, run, holds⟩
  refine ⟨log, fun past => ?_, ?_⟩
  · rw [run_bind_of_ok (run_adjust c), run_bind_of_ok (run_adjust c)]
    exact run past
  · rw [run_bind_of_ok (run_adjust c)]
    exact holds

theorem note {e : Event} (rest : Follows (s.noted e) (f ()) (g ()) P) :
    Follows s (CodeWith.note e >>= f) (CodeWith.note e >>= g) P := by
  rcases rest with ⟨log, run, holds⟩
  refine ⟨log, fun past => ?_, ?_⟩
  · rw [run_bind_of_ok (run_note e), run_bind_of_ok (run_note e)]
    exact run past
  · rw [run_bind_of_ok (run_note e)]
    exact holds

theorem context {f : Context κ → CodeWith ε κ σ α} {g : Context κ → CodeWith ε κ (Watched κ σ) α}
    (rest : Follows s (f s.context) (g s.context) P) :
    Follows s (CodeWith.context >>= f) (CodeWith.context >>= g) P := by
  rcases rest with ⟨log, run, holds⟩
  refine ⟨log, fun past => ?_, ?_⟩
  · rw [run_bind_of_ok run_context, run_bind_of_ok run_context]
    exact run past
  · rw [run_bind_of_ok run_context]
    exact holds

theorem access {β : Type} {a : Access β} {r : Except IoFailure β} {w : World}
    {f : Except IoFailure β → Code κ σ α} {g : Except IoFailure β → Code κ (Watched κ σ) α}
    {P : List (Visit κ σ) → Except Stop α → Scene κ σ → Prop} (h : s.world.access a = (r, w))
    (rest : Follows { s with world := w } (f r) (g r) P) :
    Follows s (Code.access a >>= f) (Code.access a >>= g) P := by
  rcases rest with ⟨log, run, holds⟩
  have h' : ∀ past, (s.watching past).world.access a = (r, w) := fun _ => h
  refine ⟨log, fun past => ?_, ?_⟩
  · rw [run_bind_of_ok (Code.run_access h), run_bind_of_ok (Code.run_access (h' past))]
    exact run past
  · rw [run_bind_of_ok (Code.run_access h)]
    exact holds

end Steps

/-! ## Calls -/

/-- A call of the suite is listed as it was made. -/
theorem called (s : Scene κ σ) (call : Call) (stop : ε → Stop) (value : α → Answer)
    (x : CodeWith ε κ σ α) : Follows s x (x.watched call stop value)
      fun log a t => log = [s.visit call (.of stop value a)] ∧ x.run s = (a, t) :=
  ⟨[s.visit call (.of stop value (x.run s).1)], fun _ => rfl, rfl, rfl⟩

/-- What the code answers is kept from going further. -/
theorem contain {x : Code κ σ α} {y : Code κ (Watched κ σ) α}
    {P : List (Visit κ σ) → Except Stop α → Scene κ σ → Prop} (h : Follows s x y P) :
    Follows s (Code.contain x) (Code.contain y) fun log answer t =>
      (∃ a, P log (.ok a) t ∧ answer = .ok (.ok a)) ∨
      (∃ e c, P log (.error e) t ∧ e.caught? = some c ∧ answer = .ok (.error c)) ∨
      (∃ e, P log (.error e) t ∧ e.caught? = none ∧ answer = .error e) := by
  rcases h with ⟨log, run, holds⟩
  rcases hx : x.run s with ⟨a, t⟩
  rw [hx] at run holds
  cases a with
  | ok a =>
    refine ⟨log, fun past => ?_, ?_⟩
    · rw [Code.run_contain_of_ok hx, Code.run_contain_of_ok (run past)]
    · rw [Code.run_contain_of_ok hx]
      exact .inl ⟨a, holds, rfl⟩
  | error e =>
    cases hc : e.caught? with
    | some c =>
      refine ⟨log, fun past => ?_, ?_⟩
      · rw [Code.run_contain_of_caught hx hc, Code.run_contain_of_caught (run past) hc]
      · rw [Code.run_contain_of_caught hx hc]
        exact .inr (.inl ⟨e, c, holds, hc, rfl⟩)
    | none =>
      refine ⟨log, fun past => ?_, ?_⟩
      · rw [Code.run_contain_of_uncaught hx hc, Code.run_contain_of_uncaught (run past) hc]
      · rw [Code.run_contain_of_uncaught hx hc]
        exact .inr (.inr ⟨e, holds, hc, rfl⟩)

/-- Code that cannot fail, where it may also fail. -/
theorem ofCrashing {x : CodeWith Crash κ σ α} {y : CodeWith Crash κ (Watched κ σ) α}
    {P : List (Visit κ σ) → Except Crash α → Scene κ σ → Prop} (h : Follows s x y P) :
    Follows s (Code.ofCrashing x) (Code.ofCrashing y) fun log answer t =>
      ∃ a, P log a t ∧ answer = Code.crashing a := by
  rcases h with ⟨log, run, holds⟩
  rcases hx : x.run s with ⟨a, t⟩
  rw [hx] at run holds
  refine ⟨log, fun past => ?_, ?_⟩
  · rw [Code.run_ofCrashing hx, Code.run_ofCrashing (run past)]
  · rw [Code.run_ofCrashing hx]
    exact ⟨a, holds, rfl⟩

end Follows

end Microbench
