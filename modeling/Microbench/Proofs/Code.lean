import Microbench.Engine

/-!
# Running code

What the pieces that code is made of answer and which scene they reach, one equation for each.
-/

namespace Microbench

variable {ε κ σ α β : Type}

theorem World.disk_noteAll (w : World) (es : List Event) : (w.noteAll es).disk = w.disk := by
  induction es generalizing w with
  | nil => rfl
  | cons e es ih => exact ih (w.note e)

namespace Scene

/-- The scene with another context. -/
def adjusted (s : Scene κ σ) (f : Context κ → Context κ) : Scene κ σ :=
  { s with context := f s.context }

/-- The scene after an event was noted. -/
def noted (s : Scene κ σ) (e : Event) : Scene κ σ := { s with world := s.world.note e }

/-- The scenes differ at most in what was noted. -/
structure SameButNotes (s t : Scene κ σ) : Prop where
  state : t.state = s.state
  context : t.context = s.context
  disk : t.world.disk = s.world.disk
  host : t.world.host = s.world.host
  stdout : t.world.stdout = s.world.stdout
  stderr : t.world.stderr = s.world.stderr
  observations : t.world.observations = s.world.observations

theorem SameButNotes.refl (s : Scene κ σ) : SameButNotes s s := ⟨rfl, rfl, rfl, rfl, rfl, rfl, rfl⟩

theorem SameButNotes.trans {s t u : Scene κ σ} (h : SameButNotes s t) (h' : SameButNotes t u) :
    SameButNotes s u :=
  ⟨h'.state.trans h.state, h'.context.trans h.context, h'.disk.trans h.disk, h'.host.trans h.host,
    h'.stdout.trans h.stdout, h'.stderr.trans h.stderr, h'.observations.trans h.observations⟩

theorem SameButNotes.noted (s : Scene κ σ) (e : Event) : SameButNotes s (s.noted e) :=
  ⟨rfl, rfl, rfl, rfl, rfl, rfl, rfl⟩

theorem SameButNotes.adjusted {s t : Scene κ σ} (h : SameButNotes s t)
    (f : Context κ → Context κ) : SameButNotes (s.adjusted f) (t.adjusted f) :=
  ⟨h.state, congrArg f h.context, h.disk, h.host, h.stdout, h.stderr, h.observations⟩

end Scene

section Answer

variable {answer : Except ε α}

theorem eq_ok_of_toOption {a : α} (told : answer.toOption = some a) : answer = .ok a := by
  cases answer with
  | error _ => cases told
  | ok _ => exact congrArg Except.ok (Option.some.inj told)

theorem exists_ok_of_map {f : α → β} {b : β} (told : answer.toOption.map f = some b) :
    ∃ a, answer = .ok a ∧ f a = b := by
  obtain ⟨a, given, same⟩ := Option.map_eq_some_iff.mp told
  exact ⟨a, eq_ok_of_toOption given, same⟩

theorem exists_ok_of_any {p : α → Bool} (holds : answer.toOption.any p = true) :
    ∃ a, answer = .ok a ∧ p a = true := by
  obtain ⟨a, given, same⟩ := (Option.any_eq_true _ _).mp holds
  exact ⟨a, eq_ok_of_toOption given, same⟩

end Answer

section Action

variable {S : Type} {x : ExceptT ε (StateM S) α} {f : α → ExceptT ε (StateM S) β} {s t : S}

theorem run_bind_of_ok {a : α} (h : x.run s = (.ok a, t)) : (x >>= f).run s = (f a).run t := by
  have step : (x >>= f).run s = (ExceptT.bindCont f (x.run s).1) (x.run s).2 := rfl
  rw [step, h]; rfl

theorem run_bind_of_error {e : ε} (h : x.run s = (.error e, t)) :
    (x >>= f).run s = (.error e, t) := by
  have step : (x >>= f).run s = (ExceptT.bindCont f (x.run s).1) (x.run s).2 := rfl
  rw [step, h]; rfl

/-- What returns in the end has returned at every step. -/
theorem exists_of_run_bind_ok {b : β} (h : (x >>= f).run s = (.ok b, t)) :
    ∃ a u, x.run s = (.ok a, u) ∧ (f a).run u = (.ok b, t) := by
  rcases first : x.run s with ⟨answer, u⟩
  cases answer with
  | error e =>
    rw [run_bind_of_error first] at h
    cases h
  | ok a =>
    rw [run_bind_of_ok first] at h
    exact ⟨a, u, rfl, h⟩

/-- An action that keeps a property of the state, however it ends. -/
def Preserves (P : S → Prop) (x : ExceptT ε (StateM S) α) : Prop := ∀ s, P s → P (x.run s).2

namespace Preserves

variable {P : S → Prop}

theorem pure (a : α) : Preserves P (Pure.pure a : ExceptT ε (StateM S) α) := fun _ holds => holds

theorem throw (e : ε) : Preserves P (MonadExcept.throw e : ExceptT ε (StateM S) α) :=
  fun _ holds => holds

theorem get : Preserves P (MonadState.get : ExceptT ε (StateM S) S) := fun _ holds => holds

theorem bind (first : Preserves P x) (second : ∀ a, Preserves P (f a)) : Preserves P (x >>= f) := by
  intro s holds
  have kept := first s holds
  rcases ran : x.run s with ⟨answer, t⟩
  rw [ran] at kept
  cases answer with
  | error e =>
    rw [run_bind_of_error ran]
    exact kept
  | ok a =>
    rw [run_bind_of_ok ran]
    exact second a t kept

end Preserves

end Action

namespace CodeWith

variable {x : CodeWith ε κ σ α} {s t : Scene κ σ}

theorem run_adjust (f : Context κ → Context κ) :
    (adjust f : CodeWith ε κ σ Unit).run s = (.ok (), s.adjusted f) := rfl

theorem run_note (e : Event) : (note e : CodeWith ε κ σ Unit).run s = (.ok (), s.noted e) := rfl

theorem run_context : (context : CodeWith ε κ σ (Context κ)).run s = (.ok s.context, s) := rfl

end CodeWith

/-- What an answer keeps from going further: nothing stops it but the end of the process. -/
def Stop.caught? : Stop → Option Caught
  | .failure e => some (.failure e)
  | .crash (.panic p) => some (.panic p)
  | .crash (.halt _) => none

namespace Code

variable {x : Code κ σ α} {s t : Scene κ σ}

theorem run_contain (x : Code κ σ α) (s : Scene κ σ) : (contain x).run s =
    match x.run s with
    | (.ok a, t) => (.ok (.ok a), t)
    | (.error (.failure e), t) => (.ok (.error (.failure e)), t)
    | (.error (.crash (.panic p)), t) => (.ok (.error (.panic p)), t)
    | (.error (.crash (.halt f)), t) => (.error (.crash (.halt f)), t) := rfl

theorem run_contain_of_ok {a : α} (h : x.run s = (.ok a, t)) :
    (contain x).run s = (.ok (.ok a), t) := by
  rw [run_contain, h]

theorem run_contain_of_caught {e : Stop} {c : Caught} (h : x.run s = (.error e, t))
    (caught : e.caught? = some c) : (contain x).run s = (.ok (.error c), t) := by
  rw [run_contain, h]
  cases e with
  | failure e => cases caught; rfl
  | crash c =>
    cases c with
    | panic p => cases caught; rfl
    | halt f => cases caught

theorem run_contain_of_uncaught {e : Stop} (h : x.run s = (.error e, t))
    (uncaught : e.caught? = none) : (contain x).run s = (.error e, t) := by
  rw [run_contain, h]
  cases e with
  | failure e => cases uncaught
  | crash c =>
    cases c with
    | panic p => cases uncaught
    | halt f => rfl

/-- The scene after the world did something else. -/
theorem run_access {a : Except IoFailure α} {access : Access α} {w : World}
    (h : s.world.access access = (a, w)) :
    (Code.access access : Code κ σ _).run s = (.ok a, { s with world := w }) := by
  have step : (Code.access access : Code κ σ _).run s =
    (.ok (s.world.access access).1, { s with world := (s.world.access access).2 }) := rfl
  rw [step, h]

/-- The answer of code that can crash but not fail, where it may also fail. -/
def crashing : Except Crash α → Except Stop α
  | .ok a => .ok a
  | .error c => .error (.crash c)

theorem run_ofCrashing {x : CodeWith Crash κ σ α} {a : Except Crash α} (h : x.run s = (a, t)) :
    (ofCrashing x).run s = (crashing a, t) := by
  unfold ofCrashing
  simp only [ExceptT.run] at h ⊢
  rw [h]
  cases a <;> rfl

theorem run_ofCrashing_eq_ok_iff {x : CodeWith Crash κ σ α} {a : α} :
    (ofCrashing x).run s = (.ok a, t) ↔ x.run s = (.ok a, t) := by
  rcases h : x.run s with ⟨answer, u⟩
  rw [run_ofCrashing h]
  cases answer with
  | ok b =>
    constructor <;>
    · intro same
      cases same
      rfl
  | error c => exact ⟨nofun, nofun⟩

end Code

end Microbench
