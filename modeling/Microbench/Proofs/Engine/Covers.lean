import Microbench.Proofs.Engine.Shadows

/-!
# Suites that remember more

A suite covers another one if it does the same and may remember more of it: it has more in its state,
and nothing that it does depends on that. The engine takes both through the same life, and the calls
that it makes of the one are those that it makes of the other.

* `Covers`: code that does the same and remembers more.
* `run_along`, `calls_along`: a run of a suite and its calls, from those of a suite that covers it.
-/

namespace Microbench

open CodeWith

variable {ε κ σ τ α β γ δ : Type}

/-! ## Covered scenes -/

/-- The scene of a suite that remembers less. -/
def Scene.along (t : Scene κ τ) (π : τ → σ) : Scene κ σ := { t with state := π t.state }

/-- The call as it is made of a suite that remembers less. -/
def Visit.along (π : τ → σ) (v : Visit κ τ) : Visit κ σ := { v with state := π v.state }

/-- The second scene is the first with less in its state. -/
def Along (π : τ → σ) (t : Scene κ τ) (s : Scene κ σ) : Prop := s = t.along π

/-- `x` does what `z` does and may remember more of it. -/
abbrev Covers (π : τ → σ) (x : CodeWith ε κ τ α) (z : CodeWith ε κ σ α) : Prop :=
  Agree (Along π) (Along π) Eq x z

variable {π : τ → σ}

theorem inStep_along (π : τ → σ) : InStep True (Along (κ := κ) π) where
  knobs := by
    intro t s shown
    rw [shown]
    rfl
  name := by
    intro t s shown _
    rw [shown]
    rfl
  noted := by
    intro t s e e' shown same
    rw [shown, same trivial]
    rfl
  adjusted := by
    intro t s f shown _
    rw [shown]
    rfl

namespace Covers

theorem run {x : CodeWith ε κ τ α} {z : CodeWith ε κ σ α} (h : Covers π x z) (t : Scene κ τ) :
    z.run (t.along π) = ((x.run t).1, (x.run t).2.along π) := by
  obtain ⟨reached, ends⟩ := h t (t.along π) rfl
  exact Prod.ext ends.eq reached

theorem of_run {x : CodeWith ε κ τ α} {z : CodeWith ε κ σ α}
    (h : ∀ t, z.run (t.along π) = ((x.run t).1, (x.run t).2.along π)) : Covers π x z := by
  intro t s shown
  rw [shown, h t]
  exact ⟨rfl, .of_eq rfl⟩

theorem note (e : Event) :
    Covers π (CodeWith.note e : CodeWith ε κ τ Unit) (CodeWith.note e : CodeWith ε κ σ Unit) :=
  .of_run fun _ => rfl

theorem context {f : Context κ → CodeWith ε κ τ α} {g : Context κ → CodeWith ε κ σ α}
    (rest : ∀ c, Covers π (f c) (g c)) :
    Covers π (CodeWith.context >>= f) (CodeWith.context >>= g) :=
  .of_run fun t => (rest t.context).run t

theorem throw (e : ε) :
    Covers π (MonadExcept.throw e : CodeWith ε κ τ α) (MonadExcept.throw e : CodeWith ε κ σ α) :=
  .of_run fun _ => rfl

/-- Hooks that cover a suite's hooks. -/
theorem called {G : Visit κ τ → Prop} {call : Call} {stop : ε → Stop} {value : α → Answer}
    {x : CodeWith ε κ τ α} {z : CodeWith ε κ σ α} (h : Covers π x z) :
    Called G (Along π) (Along π) Eq call stop value x z :=
  .of_agree h

end Covers

/-! ## Covered calls -/

/-- The state of a suite that is watched, without what the suite remembers beside what is covered. -/
def Watched.along (π : τ → σ) (p : Watched κ τ) : Watched κ σ := (π p.1, p.2.map (·.along π))

theorem Along.watching {t : Scene κ τ} {s : Scene κ σ} (shown : Along π t s)
    (past : List (Visit κ τ)) {v : Visit κ τ} {v' : Visit κ σ} (same : v' = v.along π) :
    Along (Watched.along π) (t.watching (past ++ [v]))
      (s.watching (past.map (·.along π) ++ [v'])) := by
  have log : past.map (·.along π) ++ [v'] = (past ++ [v]).map (·.along π) := by
    rw [List.map_append, same]
    rfl
  rw [shown, log]
  rfl

/-- What two answers that concur are listed as. -/
theorem Concur.listed {P : α → β → Prop} {a : Except ε α} {b : Except ε β} (h : Concur P a b)
    (stop : ε → Stop) (value : α → Answer) (value' : β → Answer)
    (values : ∀ a b, P a b → value' b = value a) :
    Answer.of stop value' b = .of stop value a := by
  cases h with
  | returned related => exact values _ _ related
  | stopped => rfl

/-- Hooks that cover others still do when both are watched. -/
theorem Called.along {G : Visit κ (Watched κ τ) → Prop} {P : α → β → Prop} {call : Call}
    {stop : ε → Stop} {value : α → Answer} {value' : β → Answer} {x : CodeWith ε κ τ α}
    {z : CodeWith ε κ σ β} (h : Called (fun _ => True) (Along π) (Along π) P call stop value x z)
    (values : ∀ a b, P a b → value' b = value a) :
    Called G (Along (Watched.along π)) (Along (Watched.along π)) P call stop value
      (x.watched call stop value) (z.watched call stop value') := by
  rintro t _ rfl _
  obtain ⟨reached, ends⟩ := h (t.along Prod.fst) _ rfl trivial
  have same := congrArg (((t.along Prod.fst).along π).visit call) (ends.listed stop value value' values)
  exact ⟨reached.watching t.state.2 same, ends⟩

/-- Operations that cover others still do when both are watched. -/
theorem Operation.Paired.along {o : Operation τ} {o' : Operation σ}
    (pair : o.Paired (Along (κ := κ) π) o') (place : Nat) :
    (o.watched (κ := κ) place).Paired (Along (κ := κ) (Watched.along π)) (o'.watched place) where
  name := pair.name
  call := by
    rintro t _ rfl
    obtain ⟨reached, ends⟩ := pair.call (t.along Prod.fst) _ rfl
    have answers := congrArg (Answer.of id fun _ => .returned) ends.eq
    have same := congrArg (((t.along Prod.fst).along π).invocation (.operation place)) answers
    exact ⟨reached.watching t.state.2 same, ends⟩

theorem names_of_paired {R : Scene κ σ → Scene κ τ → Prop} {os : List (Operation σ)}
    {os' : List (Operation τ)} (pairs : List.Forall₂ (Operation.Paired R) os os') :
    os'.map (·.name) = os.map (·.name) := by
  induction pairs with
  | nil => rfl
  | cons pair _ ih => rw [List.map_cons, List.map_cons, pair.name, ih]

theorem paired_along {os : List (Operation τ)} {os' : List (Operation σ)}
    (pairs : List.Forall₂ (Operation.Paired (Along (κ := κ) π)) os os') (place : Nat → Nat) :
    List.Forall₂ (Operation.Paired (Along (κ := κ) (Watched.along π)))
      (os.mapIdx fun i => Operation.watched (κ := κ) (place i))
      (os'.mapIdx fun i => Operation.watched (κ := κ) (place i)) := by
  induction pairs generalizing place with
  | nil => exact .nil
  | cons pair _ ih =>
    rw [List.mapIdx_cons, List.mapIdx_cons]
    exact .cons (pair.along _) (ih fun i => place (i + 1))

variable {suite : Suite κ τ} {suite' : Suite κ σ}

/-- A suite that is watched and covers another one, watched as well. -/
theorem PairedLives.along (lives : PairedLives (fun _ => True) (Along π) (Along π) suite suite') :
    PairedLives (fun _ => True) (Along (Watched.along π)) (Along (Watched.along π)) suite.watched
      suite'.watched where
  groupStarts name inside := (lives.groupStarts name inside).along
    fun _ _ same => congrArg Answer.runs same.1
  runStarts run offer := (lives.runStarts run offer).along fun _ _ _ => rfl
  repetitionStarts run repetition offer :=
    (lives.repetitionStarts run repetition offer).along fun _ _ _ => rfl
  runEnds run statistics offer := (lives.runEnds run statistics offer).along fun _ _ _ => rfl
  groupEnds name inside := (lives.groupEnds name inside).along fun _ _ _ => rfl
  groupFailed name error inside := (lives.groupFailed name error inside).along fun _ _ _ => rfl
  setUp := lives.setUp.along fun _ _ _ => rfl
  operations := by
    rintro t _ rfl
    obtain ⟨reached, ends⟩ := lives.operations (t.along Prod.fst) _ rfl
    rcases hx : (ofWork suite.operations : CodeWith Crash κ τ _).run (t.along Prod.fst) with ⟨a, u⟩
    rcases hy : (ofWork suite'.operations : CodeWith Crash κ σ _).run ((t.along Prod.fst).along π)
      with ⟨b, w⟩
    rw [hx, hy] at reached ends
    have watched : (ofWork suite.watched.operations : CodeWith Crash κ _ _).run t = _ :=
      Engine.run_watched_operations suite hx t.state.2
    have watched' : (ofWork suite'.watched.operations : CodeWith Crash κ _ _).run
        (t.along (Watched.along π)) = _ :=
      Engine.run_watched_operations suite' hy (t.state.2.map (Visit.along π))
    have answers := ends.listed Stop.crash Operation.names Operation.names
      fun _ _ pairs => congrArg Answer.declared (names_of_paired pairs)
    have same := congrArg (((t.along Prod.fst).along π).invocation .operations) answers
    rw [watched, watched']
    refine ⟨reached.watching t.state.2 same, ?_⟩
    cases ends with
    | returned pairs => exact .returned (paired_along pairs id)
    | stopped => exact .stopped
  tearDown := lives.tearDown.along fun _ _ _ => rfl

namespace Engine

variable [Arithmetic κ] {V : τ → σ → Prop}

/-- A run of the suite that remembers less. -/
theorem run_along (lives : PairedLives (fun _ => True) (Along π) (Along π) suite suite')
    (clock : Clock) (window : Window κ) (t : Scene κ τ) :
    (run suite' clock window).run (t.along π) =
      (((run suite clock window).run t).1, ((run suite clock window).run t).2.along π) := by
  have opens : ∀ (t : Scene κ τ) (s : Scene κ σ) (window : Window κ), Along π t s →
      Along π (t.adjusted (opened window)) (s.adjusted (opened window)) := by
    rintro t _ window rfl
    rfl
  have level : ∀ (t : Scene κ τ) (s : Scene κ σ), Level (fun a b => b = π a) t s → Along π t s := by
    rintro t ⟨state, context, world⟩ ⟨rfl, rfl, rfl⟩
    rfl
  have named : ∀ (t : Scene κ τ) (s : Scene κ σ), Along π t s →
      s.context.suite = t.context.suite := by
    rintro t _ rfl
    rfl
  obtain ⟨reached, ends⟩ := run_paired (inStep_along π) (inStep_along π) opens level named
    (fun _ _ => id) lives (s := t) (t := t.along π) ⟨rfl, rfl, rfl⟩ fun _ _ => trivial
  exact Prod.ext ends reached

/-- The calls that are made of it. -/
theorem calls_along (lives : PairedLives (fun _ => True) (Along π) (Along π) suite suite')
    (clock : Clock) (window : Window κ) (t : Scene κ τ) :
    calls suite' clock window (t.along π) = (calls suite clock window t).map (·.along π) := by
  have ran := run_along lives.along clock window (t.watching [])
  exact congrArg (fun r => r.2.state.2) ran

end Engine

end Microbench
