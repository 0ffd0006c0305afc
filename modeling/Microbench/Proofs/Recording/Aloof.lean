import Microbench.Proofs.Engine.Twins
import Microbench.Proofs.Recording.Hooks

/-!
# Code that has nothing to do with the disk

Code is aloof if it leaves the disk alone and would do the same on any other. For code that asks for
rows the answers that it is given, and what it is shown of the recorder, take the place of the disk:
it asks for the same rows again as long as these are the same (`Dictation.Matches`).

* `RecordedSuite.Aloof`: a recorded suite whose only files are those of its recorder.
-/

namespace Microbench

variable {ε κ σ α β : Type}

/-- Backdrops that differ at most in their disks. -/
structure Beside (b b' : Backdrop σ) : Prop where
  fixed : b'.fixed = b.fixed
  state : b'.state = b.state
  world : b'.world = { b.world with disk := b'.world.disk }

/-- Code that neither reads the disk nor writes to it. -/
structure CodeWith.Aloof (x : CodeWith ε κ σ α) : Prop where
  blind : Mirrors Beside x x
  leaves : x.LeavesDisk

theorem CodeWith.aloof_pure (a : α) : (pure a : CodeWith ε κ σ α).Aloof :=
  ⟨.pure rfl, fun _ => .refl _⟩

/-- Two executions went on side by side, and each left its disk alone. -/
structure Stroll (s t s' t' : Scene κ σ) : Prop where
  alike : Alike Beside s' t'
  left : s.world.disk.Untouched s'.world.disk
  right : t.world.disk.Untouched t'.world.disk

theorem Stroll.refl {s t : Scene κ σ} (alike : Alike Beside s t) : Stroll s t s t :=
  ⟨alike, .refl _, .refl _⟩

theorem Stroll.trans {s t s' t' s'' t'' : Scene κ σ} (h : Stroll s t s' t')
    (h' : Stroll s' t' s'' t'') : Stroll s t s'' t'' :=
  ⟨h'.alike, h.left.trans h'.left, h.right.trans h'.right⟩

theorem CodeWith.Aloof.stroll {x : CodeWith ε κ σ α} (aloof : x.Aloof) {s t : Scene κ σ}
    (alike : Alike Beside s t) : Stroll s t (x.run s).2 (x.run t).2 :=
  ⟨(aloof.blind s t alike).1, aloof.leaves s, aloof.leaves t⟩

/-! ## Rows -/

namespace Dictation

/-- From scenes side by side, two computations ask for the same rows and end in the same way. What
the first is told, the other is told. -/
inductive Matches : Scene κ σ → Scene κ σ → Dictation κ σ α → Dictation κ σ α → Prop
  | done {s t s' t' : Scene κ σ} {answer : Except Stop α} :
    Stroll s t s' t' → Matches s t (done answer s') (done answer t')
  | row {s t s' t' : Scene κ σ} {cells : List String}
      {next next' : Except RecordFailure Unit → RecorderView → Scene κ σ → Dictation κ σ α} :
    Stroll s t s' t' →
    (∀ answer view u v, Alike Beside u v → Matches u v (next answer view u) (next' answer view v)) →
    Matches s t (row cells s' next) (row cells t' next')

variable {s t s' t' : Scene κ σ} {x y : Dictation κ σ α}

theorem Matches.after (stroll : Stroll s t s' t') (h : Matches s' t' x y) : Matches s t x y := by
  cases h with
  | done later => exact .done (stroll.trans later)
  | row later next => exact .row (stroll.trans later) next

theorem Matches.andThen (h : Matches s t x y) {view : RecorderView}
    {f g : α → RecorderView → Scene κ σ → Dictation κ σ β}
    (next : ∀ a view u v, Alike Beside u v → Matches u v (f a view u) (g a view v)) :
    Matches s t (x.andThen view f) (y.andThen view g) := by
  induction h generalizing view with
  | @done _ _ _ _ answer stroll =>
    cases answer with
    | error e => exact .done stroll
    | ok a => exact (next a view _ _ stroll.alike).after stroll
  | row stroll _ ih => exact .row stroll fun answer view u v alike => ih answer view u v alike

end Dictation

namespace Recorded

/-- Code that sees no more of the disk than the recorder shows it. -/
def Aloof (x : Recorded κ σ α) : Prop :=
  ∀ view s t, Alike Beside s t → Dictation.Matches s t (x view s) (x view t)

theorem aloof_pure (a : α) : (pure a : Recorded κ σ α).Aloof :=
  fun _ _ _ alike => .done (.refl alike)

theorem Aloof.bind {x : Recorded κ σ α} {f : α → Recorded κ σ β} (first : x.Aloof)
    (next : ∀ a, (f a).Aloof) : (x >>= f).Aloof :=
  fun view s t alike => (first view s t alike).andThen next

theorem aloof_row (cells : List String) : (row cells : Recorded κ σ Unit).Aloof := by
  intro view s t alike
  refine .row (.refl alike) fun answer _ u v alike' => ?_
  cases answer <;> exact .done (.refl alike')

theorem aloof_rows (table : List (List String)) : (rows table : Recorded κ σ Unit).Aloof := by
  induction table with
  | nil => exact aloof_pure ()
  | cons cells rest ih => exact (aloof_row cells).bind fun _ => ih

end Recorded

theorem Recording.aloof_standardRows : (standardRows : Recorded κ σ Unit).Aloof := by
  intro view s t alike
  have terminated : t.context.terminated = s.context.terminated := congrArg (·.1.2) alike.view
  have load : t.world.host.load = s.world.host.load := congrArg (·.host.load) alike.backdrop.world
  unfold standardRows
  rw [terminated, load]
  exact Recorded.aloof_rows _ view s t alike

/-- A recorded suite whose code neither reads the disk nor writes to it, apart from the rows that it
asks for. -/
structure RecordedSuite.Aloof (inner : RecordedSuite κ σ) : Prop where
  setUp : inner.setUp.Aloof
  operations : (CodeWith.ofWork inner.operations : CodeWith Crash κ σ (List (Operation σ))).Aloof
  calls : ∀ s os, (inner.operations.run s).1 = .ok os →
    ∀ o ∈ os, (CodeWith.ofWork o.call : Code κ σ Unit).Aloof
  determineRuns : ∀ group, (inner.determineRuns group).Aloof
  runStarts : ∀ run, (inner.runStarts run).Aloof
  repetitionStarts : ∀ run repetition, (inner.repetitionStarts run repetition).Aloof
  runEnds : ∀ run, (inner.runEnds run).Aloof
  groupEnds : ∀ group, (inner.groupEnds group).Aloof
  tearDown : inner.tearDown.Aloof

end Microbench
