import Microbench.Proofs.Engine.Contexts

/-!
# Two suites side by side

Two suites are twins from a group on if no code of theirs that belongs to the groups from there can
be told apart: from scenes that look alike, what they do looks alike.

* `Agree`: two pieces of code that come from related scenes to related scenes and end in the same
  way. Its rules follow the steps that the engine is made of.
* `Twins`: what is asked of two suites.

Between two groups scenes need not look alike in everything. What the first group left of its runs
and of progress may differ (`Parted`), since the next one starts with neither.
-/

namespace Microbench

variable {ε κ σ τ α β γ δ : Type}

/-! ## Scenes -/

/-- All that code of a suite can read beside what the engine shows it. Nobody reads the journal. -/
structure Backdrop (σ : Type) where
  fixed : String × String × Properties
  state : σ
  world : World

def Scene.backdrop (s : Scene κ σ) : Backdrop σ :=
  ⟨s.context.fixed, s.state, { s.world with journal := #[] }⟩

/-- What the engine shows of an execution. -/
def Context.view (c : Context κ) : (Option Run × List Run) × κ × Knobs :=
  (c.sight, c.progress, c.knobs)

/-- Scenes that look alike to two suites. Whether their backdrops do is up to the suites: suites that
read nothing but their own states need these to be equal. -/
structure Alike (E : Backdrop σ → Backdrop τ → Prop) (s : Scene κ σ) (t : Scene κ τ) : Prop where
  view : t.context.view = s.context.view
  backdrop : E s.backdrop t.backdrop

/-- Scenes that will look alike when the next group has started. -/
structure Parted (E : Backdrop σ → Backdrop τ → Prop) (s : Scene κ σ) (t : Scene κ τ) : Prop where
  current : t.context.current = s.context.current
  knobs : t.context.knobs = s.context.knobs
  backdrop : E s.backdrop t.backdrop

namespace Alike

variable {E : Backdrop σ → Backdrop τ → Prop} {s : Scene κ σ} {t : Scene κ τ}

theorem current (h : Alike E s t) : t.context.current = s.context.current :=
  congrArg (·.1.1) h.view

theorem knobs (h : Alike E s t) : t.context.knobs = s.context.knobs := congrArg (·.2.2) h.view

theorem parted (h : Alike E s t) : Parted E s t := ⟨h.current, h.knobs, h.backdrop⟩

theorem noted (h : Alike E s t) (e e' : Event) : Alike E (s.noted e) (t.noted e') :=
  ⟨h.view, h.backdrop⟩

theorem advanced (h : Alike E s t) (progress : κ) :
    Alike E (s.adjusted (·.advance progress)) (t.adjusted (·.advance progress)) :=
  ⟨congrArg (fun view => (view.1, progress, view.2.2)) h.view, h.backdrop⟩

theorem running (h : Alike E s t) (current : Option Run) :
    Alike E (s.adjusted ({ · with current })) (t.adjusted ({ · with current })) :=
  ⟨congrArg (fun view => ((current, view.1.2), view.2)) h.view, h.backdrop⟩

theorem measured (h : Alike E s t) (done : Run) :
    Alike E (s.adjusted fun c => { c with terminated := c.terminated ++ [done] })
      (t.adjusted fun c => { c with terminated := c.terminated ++ [done] }) :=
  ⟨congrArg (fun view => ((view.1.1, view.1.2 ++ [done]), view.2)) h.view, h.backdrop⟩

end Alike

/-- What a group left of its runs and of progress is gone when the next one starts. -/
theorem Parted.opened {E : Backdrop σ → Backdrop τ → Prop} {s : Scene κ σ} {t : Scene κ τ}
    (h : Parted E s t) (window : Window κ) :
    Alike E (s.adjusted (Engine.opened window)) (t.adjusted (Engine.opened window)) :=
  ⟨Prod.ext (congrArg (·, []) h.current) (congrArg (window.start, ·) h.knobs), h.backdrop⟩

/-! ## Code that ends in the same way -/

/-- Both answers are the same stop, or both are values and these are related. -/
inductive Concur (P : α → β → Prop) : Except ε α → Except ε β → Prop
  | returned {a : α} {b : β} : P a b → Concur P (.ok a) (.ok b)
  | stopped {e : ε} : Concur P (.error e) (.error e)

theorem Concur.eq {a b : Except ε α} (h : Concur Eq a b) : b = a := by
  cases h with
  | returned same => rw [same]
  | stopped => rfl

theorem Concur.of_eq {a b : Except ε α} (same : b = a) : Concur Eq a b := by
  subst same
  cases b with
  | ok _ => exact .returned rfl
  | error _ => exact .stopped

theorem Concur.mono {P P' : α → β → Prop} {a : Except ε α} {b : Except ε β} (h : Concur P a b)
    (values : ∀ a b, P a b → P' a b) : Concur P' a b := by
  cases h with
  | returned related => exact .returned (values _ _ related)
  | stopped => exact .stopped

/-- From scenes related by `R` both pieces of code come to scenes related by `S`, and their answers
concur. -/
def Agree (R S : Scene κ σ → Scene κ τ → Prop) (P : α → β → Prop) (x : CodeWith ε κ σ α)
    (y : CodeWith ε κ τ β) : Prop :=
  ∀ s t, R s t → S (x.run s).2 (y.run t).2 ∧ Concur P (x.run s).1 (y.run t).1

/-- What the two pieces of code do looks alike. -/
abbrev Mirrors (E : Backdrop σ → Backdrop τ → Prop) (x : CodeWith ε κ σ α) (y : CodeWith ε κ τ α) :
    Prop :=
  Agree (Alike E) (Alike E) Eq x y

namespace Agree

open CodeWith

variable {R S U : Scene κ σ → Scene κ τ → Prop} {P : α → β → Prop} {Q : γ → δ → Prop}
  {x : CodeWith ε κ σ α} {y : CodeWith ε κ τ β}

theorem pure {a : α} {b : β} (related : P a b) :
    Agree R R P (Pure.pure a : CodeWith ε κ σ α) (Pure.pure b : CodeWith ε κ τ β) :=
  fun _ _ h => ⟨h, .returned related⟩

theorem mono {S' : Scene κ σ → Scene κ τ → Prop} {P' : α → β → Prop} (h : Agree R S P x y)
    (scenes : ∀ s t, S s t → S' s t) (values : ∀ a b, P a b → P' a b) : Agree R S' P' x y := by
  intro s t related
  obtain ⟨reached, ends⟩ := h s t related
  exact ⟨scenes _ _ reached, ends.mono values⟩

/-- One piece of code after the other. -/
theorem bind {f : α → CodeWith ε κ σ γ} {g : β → CodeWith ε κ τ δ} (first : Agree R S P x y)
    (next : ∀ a b, P a b → Agree S S Q (f a) (g b)) : Agree R S Q (x >>= f) (y >>= g) := by
  intro s t related
  obtain ⟨reached, ends⟩ := first s t related
  rcases hx : x.run s with ⟨a, s'⟩
  rcases hy : y.run t with ⟨b, t'⟩
  rw [hx, hy] at reached ends
  cases ends with
  | returned values =>
    rw [run_bind_of_ok hx, run_bind_of_ok hy]
    exact next _ _ values s' t' reached
  | stopped =>
    rw [run_bind_of_error hx, run_bind_of_error hy]
    exact ⟨reached, .stopped⟩

theorem andThen {x : CodeWith ε κ σ α} {y : CodeWith ε κ τ α} {f : α → CodeWith ε κ σ γ}
    {g : α → CodeWith ε κ τ δ} (first : Agree R S Eq x y) (next : ∀ a, Agree S S Q (f a) (g a)) :
    Agree R S Q (x >>= f) (y >>= g) := by
  refine first.bind ?_
  intro a b same
  subst same
  exact next a

section Alike

variable {E : Backdrop σ → Backdrop τ → Prop}

theorem noting (e e' : Event) : Mirrors E (CodeWith.note e : CodeWith ε κ σ Unit)
    (CodeWith.note e' : CodeWith ε κ τ Unit) :=
  fun _ _ alike => ⟨alike.noted e e', .returned rfl⟩

theorem note {e e' : Event} {f : Unit → CodeWith ε κ σ γ} {g : Unit → CodeWith ε κ τ δ}
    (rest : Agree (Alike E) S Q (f ()) (g ())) :
    Agree (Alike E) S Q (CodeWith.note e >>= f) (CodeWith.note e' >>= g) := by
  intro s t alike
  rw [run_bind_of_ok (run_note e), run_bind_of_ok (run_note e')]
  exact rest _ _ (alike.noted e e')

end Alike

theorem contain {x : Code κ σ α} {y : Code κ τ β} (h : Agree R S P x y) :
    Agree R S (Concur P) (Code.contain x) (Code.contain y) := by
  intro s t related
  obtain ⟨reached, ends⟩ := h s t related
  rcases hx : x.run s with ⟨a, s'⟩
  rcases hy : y.run t with ⟨b, t'⟩
  rw [hx, hy] at reached ends
  cases ends with
  | returned values =>
    rw [Code.run_contain_of_ok hx, Code.run_contain_of_ok hy]
    exact ⟨reached, .returned (.returned values)⟩
  | @stopped e =>
    cases caught : e.caught? with
    | some c =>
      rw [Code.run_contain_of_caught hx caught, Code.run_contain_of_caught hy caught]
      exact ⟨reached, .returned .stopped⟩
    | none =>
      rw [Code.run_contain_of_uncaught hx caught, Code.run_contain_of_uncaught hy caught]
      exact ⟨reached, .stopped⟩

theorem ofCrashing {x : CodeWith Crash κ σ α} {y : CodeWith Crash κ τ β} (h : Agree R S P x y) :
    Agree R S P (Code.ofCrashing x) (Code.ofCrashing y) := by
  intro s t related
  obtain ⟨reached, ends⟩ := h s t related
  rcases hx : x.run s with ⟨a, s'⟩
  rcases hy : y.run t with ⟨b, t'⟩
  rw [hx, hy] at reached ends
  rw [Code.run_ofCrashing hx, Code.run_ofCrashing hy]
  cases ends with
  | returned values => exact ⟨reached, .returned values⟩
  | stopped => exact ⟨reached, .stopped⟩

end Agree

/-! ## Twins -/

open CodeWith

/-- Two suites that do the same in some groups: for the hooks of these groups, and for those of the
runs that are offered there, what they do looks alike. -/
structure Twins (E : Backdrop σ → Backdrop τ → Prop) (group : String → Prop) (offered : Run → Prop)
    (suite : Suite κ σ) (suite' : Suite κ τ) : Prop where
  groupStarts : ∀ name, group name →
    Agree (Alike E) (Alike E) (fun rs rs' => rs' = rs ∧ ∀ run ∈ rs, offered run)
      (suite.groupStarts name) (suite'.groupStarts name)
  runStarts : ∀ run, offered run → Mirrors E (suite.runStarts run) (suite'.runStarts run)
  repetitionStarts : ∀ run repetition, offered run →
    Mirrors E (suite.repetitionStarts run repetition) (suite'.repetitionStarts run repetition)
  runEnds : ∀ run statistics, offered run →
    Mirrors E (suite.runEnds (run.complete statistics)) (suite'.runEnds (run.complete statistics))
  groupEnds : ∀ name, group name → Mirrors E (suite.groupEnds name) (suite'.groupEnds name)
  groupFailed : ∀ name error, group name →
    Mirrors E (suite.groupFailed name error) (suite'.groupFailed name error)

/-- Two operations of one name whose calls look alike. -/
structure Operation.Twins (κ : Type) (E : Backdrop σ → Backdrop τ → Prop) (o : Operation σ)
    (o' : Operation τ) : Prop where
  name : o'.name = o.name
  call : Mirrors E (ofWork o.call : Code κ σ Unit) (ofWork o'.call)

end Microbench
