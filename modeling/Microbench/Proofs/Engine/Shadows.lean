import Mathlib.Data.List.Forall2
import Microbench.Proofs.Engine.Stages
import Microbench.Proofs.Engine.Twins

/-!
# Executions in step

The engine does the same for every suite. So if two suites answer each call in the same way, from
scenes in a relation that the engine's own steps keep (`InStep`), then the executions of the two stay
in this relation to the end.

Some suites only do the same as long as all goes well for the first of them: the other one cannot
tell that a disk is full. Which calls of the first suite go well is said by `G`, and executions are
compared as far as all calls listed satisfy it.

* `Shadows`: one piece of code beside another, as long as the calls of the first satisfy `G`. Its
  rules follow the steps that the engine is made of.
* `Paired`: what is asked of the hooks of two suites.
* `shadows_groups`: the groups of paired suites have the same fates; for twins, `agree_groups`.
* `run_paired`: paired suites are taken through the same life.
-/

namespace Microbench

open CodeWith

variable {ε κ σ τ α β γ δ : Type}

/-! ## Listed calls -/

/-- The calls that code of a watched suite lists. -/
def CodeWith.calls (y : CodeWith ε κ (Watched κ σ) α) (s : Scene κ σ) : List (Visit κ σ) :=
  (y.run (s.watching [])).2.state.2

/-- `y` does what `x` does, whatever was listed before it, and lists its calls. -/
def Lists (x : CodeWith ε κ σ α) (y : CodeWith ε κ (Watched κ σ) α) : Prop :=
  ∀ s, Follows s x y fun log _ _ => log = y.calls s

namespace Lists

variable {x : CodeWith ε κ σ α} {y : CodeWith ε κ (Watched κ σ) α} {f : α → CodeWith ε κ σ β}
  {f' : α → CodeWith ε κ (Watched κ σ) β} {s t : Scene κ σ}

theorem of_follows {Q : Scene κ σ → List (Visit κ σ) → Except ε α → Scene κ σ → Prop}
    (h : ∀ s, Follows s x y (Q s)) : Lists x y :=
  fun s => ⟨_, (h s).listed_fresh.1, rfl⟩

theorem run (lists : Lists x y) (s : Scene κ σ) (past : List (Visit κ σ)) :
    y.run (s.watching past) = ((x.run s).1, (x.run s).2.watching (past ++ y.calls s)) := by
  obtain ⟨log, ran, same⟩ := lists s
  rw [ran, same]

theorem bind (first : Lists x y) (next : ∀ a, Lists (f a) (f' a)) : Lists (x >>= f) (y >>= f') :=
  .of_follows (Q := fun _ _ _ _ => True) fun s =>
    (first s).bind (fun _ _ _ _ => trivial) fun _ a t _ => (next a t).mono fun _ _ _ _ => trivial

theorem calls_bind_of_error {e : ε} (first : Lists x y) (stopped : x.run s = (.error e, t)) :
    (y >>= f').calls s = y.calls s := by
  have watched := first.run s []
  rw [stopped] at watched
  unfold CodeWith.calls
  rw [run_bind_of_error watched, watched]

theorem calls_bind_of_ok {a : α} (first : Lists x y) (next : Lists (f a) (f' a))
    (returned : x.run s = (.ok a, t)) : (y >>= f').calls s = y.calls s ++ (f' a).calls t := by
  have watched := first.run s []
  rw [returned] at watched
  have step : (y >>= f').calls s = ((f' a).run (t.watching ([] ++ y.calls s))).2.state.2 := by
    unfold CodeWith.calls at watched ⊢
    rw [run_bind_of_ok watched]
  rw [step, next.run]
  rfl

end Lists

/-! ## Code beside other code -/

/-- `x` and its watched form `y`, beside `z`. As long as the calls that `y` lists satisfy `G`, `x` and
`z` come from scenes related by `R` to scenes related by `S`, and their answers concur. -/
structure Shadows (G : Visit κ σ → Prop) (R S : Scene κ σ → Scene κ τ → Prop) (P : α → β → Prop)
    (x : CodeWith ε κ σ α) (y : CodeWith ε κ (Watched κ σ) α) (z : CodeWith ε κ τ β) : Prop where
  lists : Lists x y
  agree : Agree (fun s t => R s t ∧ ∀ v ∈ y.calls s, G v) S P x z

namespace Shadows

variable {G : Visit κ σ → Prop} {R S U : Scene κ σ → Scene κ τ → Prop} {P : α → β → Prop}
  {Q : γ → δ → Prop} {x : CodeWith ε κ σ α} {y : CodeWith ε κ (Watched κ σ) α}
  {z : CodeWith ε κ τ β}

theorem of_agree (lists : Lists x y) (agree : Agree R S P x z) : Shadows G R S P x y z :=
  ⟨lists, fun s t related => agree s t related.1⟩

theorem pure {a : α} {b : β} (related : P a b) :
    Shadows G R R P (Pure.pure a : CodeWith ε κ σ α) (Pure.pure a) (Pure.pure b : CodeWith ε κ τ β) :=
  .of_agree (.of_follows (Q := fun _ _ _ _ => True) fun _ => .pure trivial) (.pure related)

theorem throw {e : ε} : Shadows G R R P (MonadExcept.throw e : CodeWith ε κ σ α)
    (MonadExcept.throw e) (MonadExcept.throw e : CodeWith ε κ τ β) :=
  .of_agree (.of_follows (Q := fun _ _ _ _ => True) fun _ => .throw trivial)
    fun _ _ related => ⟨related, .stopped⟩

theorem mono {R' S' : Scene κ σ → Scene κ τ → Prop} {P' : α → β → Prop}
    (h : Shadows G R S P x y z) (before : ∀ s t, R' s t → R s t) (after : ∀ s t, S s t → S' s t)
    (values : ∀ a b, P a b → P' a b) : Shadows G R' S' P' x y z where
  lists := h.lists
  agree := by
    intro s t ⟨related, good⟩
    obtain ⟨reached, ends⟩ := h.agree s t ⟨before s t related, good⟩
    exact ⟨after _ _ reached, ends.mono values⟩

section Bind

variable {f : α → CodeWith ε κ σ γ} {f' : α → CodeWith ε κ (Watched κ σ) γ}

/-- One piece of code after the other. That the second lists its calls is asked for whatever the
first returned: only then is it known that the first made good calls. -/
theorem bind {g : β → CodeWith ε κ τ δ} (first : Shadows G R S P x y z)
    (stops : ∀ s t, S s t → U s t) (lists : ∀ a, Lists (f a) (f' a))
    (next : ∀ a b, P a b → Shadows G S U Q (f a) (f' a) (g b)) :
    Shadows G R U Q (x >>= f) (y >>= f') (z >>= g) where
  lists := first.lists.bind lists
  agree := by
    intro s t ⟨related, good⟩
    rcases hx : x.run s with ⟨a, s'⟩
    rcases hz : z.run t with ⟨b, t'⟩
    cases a with
    | error e =>
      rw [first.lists.calls_bind_of_error hx] at good
      obtain ⟨reached, ends⟩ := first.agree s t ⟨related, good⟩
      rw [hx, hz] at reached ends
      cases ends
      rw [run_bind_of_error hx, run_bind_of_error hz]
      exact ⟨stops s' t' reached, .stopped⟩
    | ok a =>
      rw [first.lists.calls_bind_of_ok (lists a) hx] at good
      obtain ⟨before, after⟩ := List.forall_mem_append.mp good
      obtain ⟨reached, ends⟩ := first.agree s t ⟨related, before⟩
      rw [hx, hz] at reached ends
      cases ends with
      | returned values =>
        rw [run_bind_of_ok hx, run_bind_of_ok hz]
        exact (next a _ values).agree s' t' ⟨reached, after⟩

theorem andThenTo {z : CodeWith ε κ τ α} {g : α → CodeWith ε κ τ δ}
    (first : Shadows G R S Eq x y z) (stops : ∀ s t, S s t → U s t)
    (next : ∀ a, Shadows G S U Q (f a) (f' a) (g a)) :
    Shadows G R U Q (x >>= f) (y >>= f') (z >>= g) := by
  refine first.bind stops (fun a => (next a).lists) ?_
  intro a b same
  subst same
  exact next a

theorem andThen {z : CodeWith ε κ τ α} {g : α → CodeWith ε κ τ δ}
    (first : Shadows G R S Eq x y z) (next : ∀ a, Shadows G S S Q (f a) (f' a) (g a)) :
    Shadows G R S Q (x >>= f) (y >>= f') (z >>= g) :=
  first.andThenTo (fun _ _ => id) next

end Bind

section Steps

variable {f : Unit → CodeWith ε κ σ γ} {f' : Unit → CodeWith ε κ (Watched κ σ) γ}
  {g : Unit → CodeWith ε κ τ δ}

theorem adjust {c : Context κ → Context κ}
    (moves : ∀ s t, R s t → S (s.adjusted c) (t.adjusted c))
    (rest : Shadows G S U Q (f ()) (f' ()) (g ())) :
    Shadows G R U Q (CodeWith.adjust c >>= f) (CodeWith.adjust c >>= f')
      (CodeWith.adjust c >>= g) where
  lists := .of_follows fun s => .adjust (rest.lists (s.adjusted c))
  agree := by
    intro s t ⟨related, good⟩
    rw [run_bind_of_ok (run_adjust c), run_bind_of_ok (run_adjust c)]
    exact rest.agree _ _ ⟨moves s t related, good⟩

theorem note {e e' : Event} (moves : ∀ s t, R s t → S (s.noted e) (t.noted e'))
    (rest : Shadows G S U Q (f ()) (f' ()) (g ())) :
    Shadows G R U Q (CodeWith.note e >>= f) (CodeWith.note e >>= f') (CodeWith.note e' >>= g) where
  lists := .of_follows fun s => .note (rest.lists (s.noted e))
  agree := by
    intro s t ⟨related, good⟩
    rw [run_bind_of_ok (run_note e), run_bind_of_ok (run_note e')]
    exact rest.agree _ _ ⟨moves s t related, good⟩

theorem noting {e e' : Event} (moves : ∀ s t, R s t → S (s.noted e) (t.noted e')) :
    Shadows G R S Eq (CodeWith.note e : CodeWith ε κ σ Unit) (CodeWith.note e)
      (CodeWith.note e' : CodeWith ε κ τ Unit) :=
  .of_agree (.of_follows (Q := fun _ _ _ _ => True) fun _ => .noting trivial)
    fun s t related => ⟨moves s t related, .returned rfl⟩

/-- What is known of the contexts of related scenes is known of what is read of them. -/
theorem context {K : Context κ → Context κ → Prop} (refl : ∀ c, K c c)
    (known : ∀ s t, R s t → K s.context t.context) {f : Context κ → CodeWith ε κ σ γ}
    {f' : Context κ → CodeWith ε κ (Watched κ σ) γ} {g : Context κ → CodeWith ε κ τ δ}
    (rest : ∀ c c', K c c' → Shadows G R S Q (f c) (f' c) (g c')) :
    Shadows G R S Q (CodeWith.context >>= f) (CodeWith.context >>= f')
      (CodeWith.context >>= g) where
  lists := .of_follows fun s => .context ((rest _ _ (refl s.context)).lists s)
  agree := by
    intro s t ⟨related, good⟩
    rw [run_bind_of_ok run_context, run_bind_of_ok run_context]
    exact (rest _ _ (known s t related)).agree s t ⟨related, good⟩

end Steps

theorem calls_contain (y : Code κ (Watched κ σ) α) (s : Scene κ σ) :
    (Code.contain y).calls s = y.calls s := by
  unfold CodeWith.calls
  rcases ran : y.run (s.watching []) with ⟨answer, t⟩
  cases answer with
  | ok a => rw [Code.run_contain_of_ok ran]
  | error e =>
    cases caught : e.caught? with
    | some c => rw [Code.run_contain_of_caught ran caught]
    | none => rw [Code.run_contain_of_uncaught ran caught]

theorem contain {x : Code κ σ α} {y : Code κ (Watched κ σ) α} {z : Code κ τ α}
    (h : Shadows G R S Eq x y z) :
    Shadows G R S Eq (Code.contain x) (Code.contain y) (Code.contain z) where
  lists := .of_follows fun s => .contain (h.lists s)
  agree := by
    intro s t ⟨related, good⟩
    rw [calls_contain] at good
    obtain ⟨reached, ends⟩ := h.agree.contain s t ⟨related, good⟩
    exact ⟨reached, ends.mono fun _ _ same => same.eq.symm⟩

theorem calls_ofCrashing (y : CodeWith Crash κ (Watched κ σ) α) (s : Scene κ σ) :
    (Code.ofCrashing y).calls s = y.calls s := by
  unfold CodeWith.calls
  rcases ran : y.run (s.watching []) with ⟨answer, t⟩
  rw [Code.run_ofCrashing ran]

theorem ofCrashing {x : CodeWith Crash κ σ α} {y : CodeWith Crash κ (Watched κ σ) α}
    {z : CodeWith Crash κ τ β} (h : Shadows G R S P x y z) :
    Shadows G R S P (Code.ofCrashing x) (Code.ofCrashing y) (Code.ofCrashing z) where
  lists := .of_follows fun s => .ofCrashing (h.lists s)
  agree := by
    intro s t ⟨related, good⟩
    rw [calls_ofCrashing] at good
    exact h.agree.ofCrashing s t ⟨related, good⟩

end Shadows

/-! ## Relations that the engine keeps -/

/-- What the engine does to a context between calls, apart from the start of a group. -/
inductive Engine.Moves : (Context κ → Context κ) → Prop
  | advanced (progress : κ) : Moves (·.advance progress)
  | running (current : Option Run) : Moves ({ · with current })
  | measured (done : Run) : Moves fun c => { c with terminated := c.terminated ++ [done] }

/-- Scenes in a relation that the engine keeps by itself. What it notes there may differ, unless the
relation is so `close` that suites in related scenes have the same name. -/
structure InStep (close : Prop) (R : Scene κ σ → Scene κ τ → Prop) : Prop where
  knobs : ∀ s t, R s t → t.context.knobs = s.context.knobs
  name : ∀ s t, R s t → close → t.context.suite = s.context.suite
  noted : ∀ s t e e', R s t → (close → e' = e) → R (s.noted e) (t.noted e')
  adjusted : ∀ s t f, R s t → Engine.Moves f → R (s.adjusted f) (t.adjusted f)

namespace InStep

variable {close : Prop} {R : Scene κ σ → Scene κ τ → Prop} (inStep : InStep close R)
  {G : Visit κ σ → Prop} {Q : γ → δ → Prop}

section Steps

variable {f : Unit → CodeWith ε κ σ γ} {f' : Unit → CodeWith ε κ (Watched κ σ) γ}
  {g : Unit → CodeWith ε κ τ δ}

include inStep

theorem adjust {c : Context κ → Context κ} (moves : Engine.Moves c)
    (rest : Shadows G R R Q (f ()) (f' ()) (g ())) :
    Shadows G R R Q (CodeWith.adjust c >>= f) (CodeWith.adjust c >>= f')
      (CodeWith.adjust c >>= g) :=
  .adjust (fun s t related => inStep.adjusted s t c related moves) rest

theorem note {e e' : Event} (same : close → e' = e)
    (rest : Shadows G R R Q (f ()) (f' ()) (g ())) :
    Shadows G R R Q (CodeWith.note e >>= f) (CodeWith.note e >>= f') (CodeWith.note e' >>= g) :=
  .note (fun s t related => inStep.noted s t e e' related same) rest

theorem noting {e e' : Event} (same : close → e' = e) :
    Shadows G R R Eq (CodeWith.note e : CodeWith ε κ σ Unit) (CodeWith.note e)
      (CodeWith.note e' : CodeWith ε κ τ Unit) :=
  .noting fun s t related => inStep.noted s t e e' related same

end Steps

section Context

variable {f : Context κ → CodeWith ε κ σ γ} {f' : Context κ → CodeWith ε κ (Watched κ σ) γ}
  {g : Context κ → CodeWith ε κ τ δ}

include inStep

theorem context_knobs (rest : ∀ c c' : Context κ, c'.knobs = c.knobs →
      Shadows G R R Q (f c) (f' c) (g c')) :
    Shadows G R R Q (CodeWith.context >>= f) (CodeWith.context >>= f')
      (CodeWith.context >>= g) :=
  .context (K := fun c c' => c'.knobs = c.knobs) (fun _ => rfl) inStep.knobs rest

theorem context_name (rest : ∀ c c' : Context κ, (close → c'.suite = c.suite) →
      Shadows G R R Q (f c) (f' c) (g c')) :
    Shadows G R R Q (CodeWith.context >>= f) (CodeWith.context >>= f')
      (CodeWith.context >>= g) :=
  .context (K := fun c c' => close → c'.suite = c.suite) (fun _ _ => rfl) inStep.name rest

end Context

end InStep

theorem inStep_alike (E : Backdrop σ → Backdrop τ → Prop) : InStep False (Alike (κ := κ) E) where
  knobs _ _ alike := alike.knobs
  name _ _ _ := False.elim
  noted _ _ e e' alike _ := alike.noted e e'
  adjusted _ _ _ alike moves :=
    match moves with
    | .advanced progress => alike.advanced progress
    | .running current => alike.running current
    | .measured done => alike.measured done

/-! ## Paired suites -/

/-- A hook of one suite beside that of another: they do the same if the call of the first is good. -/
def Called (G : Visit κ σ → Prop) (R S : Scene κ σ → Scene κ τ → Prop) (P : α → β → Prop)
    (call : Call) (stop : ε → Stop) (value : α → Answer) (x : CodeWith ε κ σ α)
    (z : CodeWith ε κ τ β) : Prop :=
  ∀ s t, R s t → G (s.visit call (.of stop value (x.run s).1)) →
    S (x.run s).2 (z.run t).2 ∧ Concur P (x.run s).1 (z.run t).1

section Called

variable {G : Visit κ σ → Prop} {R S : Scene κ σ → Scene κ τ → Prop} {P : α → β → Prop}
  {call : Call} {stop : ε → Stop} {value : α → Answer} {x : CodeWith ε κ σ α}
  {z : CodeWith ε κ τ β}

theorem Called.of_agree (h : Agree R S P x z) : Called G R S P call stop value x z :=
  fun s t related _ => h s t related

theorem Called.shadows (h : Called G R S P call stop value x z) :
    Shadows G R S P x (x.watched call stop value) z where
  lists := .of_follows fun s => .called s call stop value x
  agree := fun s t ⟨related, good⟩ => h s t related (good _ (List.mem_singleton.mpr rfl))

end Called

/-- Two suites that do the same in some groups as long as the calls of the first are good. -/
structure Paired (G : Visit κ σ → Prop) (R : Scene κ σ → Scene κ τ → Prop) (group : String → Prop)
    (offered : Run → Prop) (suite : Suite κ σ) (suite' : Suite κ τ) : Prop where
  groupStarts : ∀ name, group name →
    Called G R R (fun rs rs' => rs' = rs ∧ ∀ run ∈ rs, offered run) (.groupStarts name) id .runs
      (suite.groupStarts name) (suite'.groupStarts name)
  runStarts : ∀ run, offered run →
    Called G R R Eq (.runStarts run) id (fun _ => .returned) (suite.runStarts run)
      (suite'.runStarts run)
  repetitionStarts : ∀ run repetition, offered run →
    Called G R R Eq (.repetitionStarts run repetition) id (fun _ => .returned)
      (suite.repetitionStarts run repetition) (suite'.repetitionStarts run repetition)
  runEnds : ∀ run statistics, offered run →
    Called G R R Eq (.runEnds (run.complete statistics)) id (fun _ => .returned)
      (suite.runEnds (run.complete statistics)) (suite'.runEnds (run.complete statistics))
  groupEnds : ∀ name, group name →
    Called G R R Eq (.groupEnds name) id (fun _ => .returned) (suite.groupEnds name)
      (suite'.groupEnds name)
  groupFailed : ∀ name error, group name →
    Called G R R Eq (.groupFailed name error) Stop.crash (fun _ => .returned)
      (suite.groupFailed name error) (suite'.groupFailed name error)

/-- Twins are paired, however their calls go. -/
theorem Twins.paired {E : Backdrop σ → Backdrop τ → Prop} {group : String → Prop}
    {offered : Run → Prop} {suite : Suite κ σ} {suite' : Suite κ τ}
    (twins : Twins E group offered suite suite') :
    Paired (fun _ => True) (Alike E) group offered suite suite' where
  groupStarts name inside := .of_agree (twins.groupStarts name inside)
  runStarts run offer := .of_agree (twins.runStarts run offer)
  repetitionStarts run repetition offer := .of_agree (twins.repetitionStarts run repetition offer)
  runEnds run statistics offer := .of_agree (twins.runEnds run statistics offer)
  groupEnds name inside := .of_agree (twins.groupEnds name inside)
  groupFailed name error inside := .of_agree (twins.groupFailed name error inside)

/-- Two operations of one name that do the same. -/
structure Operation.Paired (R : Scene κ σ → Scene κ τ → Prop) (o : Operation σ) (o' : Operation τ) :
    Prop where
  name : o'.name = o.name
  call : Agree R R Eq (ofWork o.call : Code κ σ Unit) (ofWork o'.call)

theorem Operation.Twins.paired {E : Backdrop σ → Backdrop τ → Prop} {o : Operation σ}
    {o' : Operation τ} (twin : o.Twins κ E o') : o.Paired (Alike (κ := κ) E) o' :=
  ⟨twin.name, twin.call⟩

/-- Two suites that do the same throughout their lives as long as the calls of the first are good. What
they do last may take them from scenes related by `R` to scenes related by `S`. -/
structure PairedLives (G : Visit κ σ → Prop) (R S : Scene κ σ → Scene κ τ → Prop)
    (suite : Suite κ σ) (suite' : Suite κ τ) : Prop extends
    Paired G R (fun _ => True) (fun _ => True) suite suite' where
  setUp : Called G R R Eq .setUp id (fun _ => .returned) suite.setUp suite'.setUp
  operations : Agree R R (List.Forall₂ (Operation.Paired R))
    (ofWork suite.operations : CodeWith Crash κ σ (List (Operation σ))) (ofWork suite'.operations)
  tearDown : Called G R S Eq .tearDown id (fun _ => .returned) suite.tearDown suite'.tearDown

namespace Engine

variable {close : Prop} {G : Visit κ σ → Prop} {R : Scene κ σ → Scene κ τ → Prop}
  {group : String → Prop} {offered : Run → Prop} {suite : Suite κ σ} {suite' : Suite κ τ}
  {clock clock' : Clock} {o : Operation σ} {o' : Operation τ}

/-! ## Runs of paired suites -/

theorem agree_callTimes (pair : o.Paired R o') (n : Nat) :
    Agree R R Eq (ofWork (callTimes o.call n) : Code κ σ Unit) (ofWork (callTimes o'.call n)) := by
  induction n with
  | zero => exact fun _ _ related => ⟨related, .returned rfl⟩
  | succ n ih =>
    intro s t related
    obtain ⟨reached, ends⟩ := pair.call s t related
    rcases hx : (ofWork o.call : Code κ σ Unit).run s with ⟨a, s'⟩
    rcases hy : (ofWork o'.call : Code κ τ Unit).run t with ⟨b, t'⟩
    rw [hx, hy] at reached ends
    cases ends with
    | returned _ =>
      rw [run_ofWork_callTimes_of_ok hx, run_ofWork_callTimes_of_ok hy]
      exact ih s' t' reached
    | stopped =>
      rw [run_ofWork_callTimes_of_error hx, run_ofWork_callTimes_of_error hy]
      exact ⟨reached, .stopped⟩

theorem agree_batch (pair : o.Paired R o') (run : Run) (n : Nat) :
    Agree R R Eq (batch o run n : Code κ σ Unit) (batch o' run n) := by
  intro s t related
  obtain ⟨reached, ends⟩ := agree_callTimes pair n s t related
  rw [run_batch, run_batch, pair.name]
  refine ⟨reached, ?_⟩
  generalize ((ofWork (callTimes o.call n) : Code κ σ Unit).run s).1 = a at ends
  generalize ((ofWork (callTimes o'.call n) : Code κ τ Unit).run t).1 = b at ends
  cases ends with
  | returned same => exact .returned same
  | stopped => exact .stopped

theorem shadows_batch (pair : o.Paired R o') (run : Run) (place n : Nat) :
    Shadows G R R Eq (batch o run n : Code κ σ Unit) (batch (o.watched place) run n)
      (batch o' run n) :=
  .of_agree (.of_follows (follows_batch o run place n)) (agree_batch pair run n)

theorem shadows_runStart (inStep : InStep close R) (paired : Paired G R group offered suite suite')
    {run : Run} (offer : offered run) (repetitions : Nat) :
    Shadows G R R Eq (runStart suite run repetitions) (runStart suite.watched run repetitions)
      (runStart suite' run repetitions) := by
  refine inStep.adjust (.running (some run)) ?_
  by_cases several : 1 < repetitions
  · rw [if_pos several, if_pos several, if_pos several]
    exact (paired.runStarts run offer).shadows
  · rw [if_neg several, if_neg several, if_neg several]
    exact .pure rfl

theorem shadows_runEnd (inStep : InStep close R) (paired : Paired G R group offered suite suite')
    (pair : o.Paired R o') {run : Run} (offer : offered run) (place : Nat)
    (ms : List Measurement) :
    Shadows G R R Eq (runEnd suite o run ms) (runEnd suite.watched (o.watched place) run ms)
      (runEnd suite' o' run ms) := by
  have name : (o.watched (κ := κ) place).name = o.name := rfl
  have ended := (paired.runEnds run (.ofMeasurements ms) offer).shadows
  unfold runEnd runNote
  rw [pair.name, name]
  by_cases twice : run.isCompleted = true
  · simp only [twice, if_true]
    refine inStep.note (fun _ => rfl) (inStep.adjust (.running none) ?_)
    exact inStep.note (fun _ => rfl) (inStep.adjust (.measured _) ended)
  · simp only [twice]
    refine inStep.adjust (.running none) ?_
    exact inStep.note (fun _ => rfl) (inStep.adjust (.measured _) ended)

section Runs

variable [Arithmetic κ]

theorem shadows_repetition (inStep : InStep close R)
    (paired : Paired G R group offered suite suite') (pair : o.Paired R o') {run : Run}
    (offer : offered run) (calls : Nat) {place : BatchPlace} (times : clock' place = clock place)
    (window : Window κ) :
    Shadows G R R Eq (repetition suite clock o run calls place window)
      (repetition suite.watched clock (o.watched place.group) run calls place window)
      (repetition suite' clock' o' run calls place window) := by
  have name : (o.watched (κ := κ) place.group).name = o.name := rfl
  unfold repetition
  rw [times, pair.name, name]
  refine inStep.adjust (.advanced window.start) ?_
  refine .andThen (paired.repetitionStarts run place.repetition offer).shadows fun _ => ?_
  refine inStep.context_knobs fun c c' knobs => ?_
  rw [knobs]
  refine inStep.note (fun _ => rfl) ?_
  refine .andThen (shadows_batch pair run place.group calls) fun _ => ?_
  exact inStep.adjust (.advanced window.finish) (inStep.note (fun _ => rfl) (.pure rfl))

theorem shadows_repetitions (inStep : InStep close R)
    (paired : Paired G R group offered suite suite') (pair : o.Paired R o') {run : Run}
    (offer : offered run) (calls : Nat) {index : Nat}
    (times : ∀ place : BatchPlace, place.group = index → clock' place = clock place)
    {place : BatchPlace} (here : place.group = index) (windows : List (Window κ)) :
    Shadows G R R Eq (repetitions suite clock o run calls place windows)
      (repetitions suite.watched clock (o.watched place.group) run calls place windows)
      (repetitions suite' clock' o' run calls place windows) := by
  induction windows generalizing place with
  | nil => exact .pure rfl
  | cons window rest ih =>
    have first := shadows_repetition inStep paired pair offer calls (times place here) window
    refine first.andThen fun m => ?_
    have next : BatchPlace.group { place with repetition := place.repetition + 1 } = index := here
    exact .andThen (ih next) fun ms => .pure rfl

theorem shadows_runOne (inStep : InStep close R) (paired : Paired G R group offered suite suite')
    (pair : o.Paired R o') {run : Run} (offer : offered run) {index : Nat}
    (times : ∀ place : BatchPlace, place.group = index → clock' place = clock place)
    {place : BatchPlace} (here : place.group = index) (window : Window κ) :
    Shadows G R R Eq (runOne suite clock o run place window)
      (runOne suite.watched clock (o.watched place.group) run place window)
      (runOne suite' clock' o' run place window) := by
  refine inStep.context_knobs fun c c' knobs => ?_
  rw [knobs]
  refine .andThen (shadows_runStart inStep paired offer c.knobs.repetitions) fun _ => ?_
  refine .andThen (shadows_repetitions inStep paired pair offer c.knobs.calls times here _) ?_
  exact fun ms => shadows_runEnd inStep paired pair offer place.group ms

theorem shadows_runs (inStep : InStep close R) (paired : Paired G R group offered suite suite')
    (pair : o.Paired R o') {index : Nat}
    (times : ∀ place : BatchPlace, place.group = index → clock' place = clock place)
    {place : BatchPlace} (here : place.group = index) {rs : List (Run × Window κ)}
    (offers : ∀ r ∈ rs, offered r.1) :
    Shadows G R R Eq (runs suite clock o place rs)
      (runs suite.watched clock (o.watched place.group) place rs)
      (runs suite' clock' o' place rs) := by
  induction rs generalizing place with
  | nil => exact .pure rfl
  | cons head rest ih =>
    obtain ⟨first, others⟩ := List.forall_mem_cons.mp offers
    refine .andThen (shadows_runOne inStep paired pair first times here head.2) fun _ => ?_
    have next : BatchPlace.group { place with run := place.run + 1 } = index := here
    exact ih next others

end Runs

/-! ## Groups of paired suites -/

theorem shadows_groupFailure (inStep : InStep close R)
    (paired : Paired G R group offered suite suite') {label label' : String}
    (labels : close → label' = label) {name : String} (inside : group name) (error : BenchError)
    (ended : Bool) :
    Shadows G R R Eq (groupFailure suite label name error ended)
      (groupFailure suite.watched label name error ended)
      (groupFailure suite' label' name error ended) := by
  refine inStep.adjust (.running none) ?_
  refine .andThen (.ofCrashing (paired.groupFailed name error inside).shadows) fun _ => ?_
  cases ended with
  | true =>
    exact inStep.noting fun close => by rw [labels close]
  | false =>
    refine .andThen (.contain (paired.groupEnds name inside).shadows) fun answer => ?_
    cases answer with
    | ok _ => exact .pure rfl
    | error c => exact inStep.noting fun close => by rw [labels close]

theorem shadows_groupEnd [Arithmetic κ] (inStep : InStep close R)
    (paired : Paired G R group offered suite suite') (pair : o.Paired R o')
    (inside : group o.name) (place : Nat) (window : Window κ) (count : Nat) :
    Shadows G R R Eq (groupEnd suite o window count)
      (groupEnd suite.watched (o.watched place) window count) (groupEnd suite' o' window count) := by
  unfold groupEnd
  rw [pair.name]
  refine .andThen (paired.groupEnds o.name inside).shadows fun _ => ?_
  refine inStep.context_name fun c c' same => ?_
  exact inStep.noting fun close => by rw [same close]

section Groups

variable [Arithmetic κ] {R₀ : Scene κ σ → Scene κ τ → Prop}

/-- From its start on, a group of paired suites is in step. -/
theorem shadows_groupBody (inStep : InStep close R)
    (opens : ∀ s t (window : Window κ), R₀ s t →
      R (s.adjusted (opened window)) (t.adjusted (opened window)))
    (paired : Paired G R group offered suite suite') (pair : o.Paired R o') (inside : group o.name)
    {index : Nat}
    (times : ∀ place : BatchPlace, place.group = index → clock' place = clock place)
    (window : Window κ) :
    Shadows G R₀ R Eq (groupBody suite clock o index window)
      (groupBody suite.watched clock (o.watched index) index window)
      (groupBody suite' clock' o' index window) := by
  unfold groupBody
  rw [pair.name]
  refine .adjust (S := fun s t => R (s.adjusted (·.advance window.start))
    (t.adjusted (·.advance window.start))) (fun s t related => opens s t window related) ?_
  refine Shadows.adjust (fun _ _ related => related) ?_
  refine inStep.context_name fun c c' same => ?_
  refine inStep.note (fun close => ?_) ?_
  · rw [same close]
  · refine (paired.groupStarts o.name inside).shadows.bind (fun _ _ => id) (fun rs => ?_) ?_
    · refine Lists.bind (.of_follows (follows_runs suite clock o ⟨index, 0, 0⟩ _)) fun _ => ?_
      exact .of_follows (Q := fun _ _ _ _ => True) fun _ => .pure trivial
    · intro rs rs' ⟨same, offers⟩
      subst same
      refine .andThen (shadows_runs inStep paired pair times rfl ?_) fun _ => .pure rfl
      intro r mem
      exact offers r.1 (List.of_mem_zip mem).1

theorem shadows_groupOutcome (inStep : InStep close R)
    (opens : ∀ s t (window : Window κ), R₀ s t →
      R (s.adjusted (opened window)) (t.adjusted (opened window)))
    (paired : Paired G R group offered suite suite') (pair : o.Paired R o') (inside : group o.name)
    {label label' : String} (labels : close → label' = label) {index : Nat}
    (times : ∀ place : BatchPlace, place.group = index → clock' place = clock place)
    (window : Window κ) :
    Shadows G R₀ R Eq (groupOutcome suite clock label o index window)
      (groupOutcome suite.watched clock label (o.watched index) index window)
      (groupOutcome suite' clock' label' o' index window) := by
  unfold groupOutcome
  rw [pair.name]
  have body := shadows_groupBody inStep opens paired pair inside times window
  refine .andThen body.contain fun answer => ?_
  cases answer with
  | error c =>
    exact .andThen (shadows_groupFailure inStep paired labels inside _ false) fun _ => .pure rfl
  | ok count =>
    have ending := shadows_groupEnd inStep paired pair inside index window count
    refine .andThen ending.contain fun answer => ?_
    cases answer with
    | error c =>
      exact .andThen (shadows_groupFailure inStep paired labels inside _ true) fun _ => .pure rfl
    | ok _ =>
      exact inStep.adjust (.running none) (.pure rfl)

theorem shadows_group (inStep : InStep close R)
    (opens : ∀ s t (window : Window κ), R₀ s t →
      R (s.adjusted (opened window)) (t.adjusted (opened window)))
    (paired : Paired G R group offered suite suite') (pair : o.Paired R o') (inside : group o.name)
    {label label' : String} (labels : close → label' = label) {index : Nat}
    (times : ∀ place : BatchPlace, place.group = index → clock' place = clock place)
    (window : Window κ) :
    Shadows G R₀ R Eq (Engine.group suite clock label o index window)
      (Engine.group suite.watched clock label (o.watched index) index window)
      (Engine.group suite' clock' label' o' index window) := by
  have outcome := shadows_groupOutcome inStep opens paired pair inside labels times window
  refine outcome.andThen fun completed => ?_
  exact inStep.adjust (.advanced window.finish) (.pure rfl)

/-- The groups of paired suites have the same fates. Between two groups, and before the first, scenes
may be related more loosely. -/
theorem shadows_groups (inStep : InStep close R)
    (opens : ∀ s t (window : Window κ), R₀ s t →
      R (s.adjusted (opened window)) (t.adjusted (opened window)))
    (parts : ∀ s t, R s t → R₀ s t) (paired : Paired G R group offered suite suite') {index : Nat}
    (times : ∀ place : BatchPlace, index ≤ place.group → clock' place = clock place)
    {list : List (Operation σ × Window κ)} {list' : List (Operation τ × Window κ)}
    (pairs : List.Forall₂ (fun o o' => o.1.Paired R o'.1 ∧ o'.2 = o.2) list list')
    (all_inside : ∀ o ∈ list, group o.1.name) (summary summary' : Summary)
    (labels : close → summary'.suite = summary.suite) :
    Shadows G R₀ R₀ (fun final final' => ∃ fates : List (String × Bool),
        fates.map (·.1) = list.map (·.1.name) ∧ final = tallied summary fates ∧
          final' = tallied summary' fates)
      (groups suite clock index summary list)
      (groups suite.watched clock index summary (watchedFrom index list))
      (groups suite' clock' index summary' list') := by
  induction pairs generalizing index summary summary' with
  | nil => exact .pure ⟨[], rfl, rfl, rfl⟩
  | @cons head head' rest rest' heads _ ih =>
    obtain ⟨o, window⟩ := head
    obtain ⟨o', window'⟩ := head'
    obtain ⟨pair, same⟩ : o.Paired R o' ∧ window' = window := heads
    subst same
    obtain ⟨inside, others⟩ := List.forall_mem_cons.mp all_inside
    have here : ∀ place : BatchPlace, place.group = index → clock' place = clock place :=
      fun place same => times place (Nat.le_of_eq same.symm)
    have later : ∀ place : BatchPlace, index + 1 ≤ place.group → clock' place = clock place :=
      fun place beyond => times place (Nat.le_of_succ_le beyond)
    rw [watchedFrom_cons]
    have first := shadows_group inStep opens paired pair inside labels here window'
    refine .andThen (first.mono (fun _ _ => id) parts fun _ _ => id) fun completed => ?_
    have labels' : close → (summary'.tally o'.name completed).suite =
        (summary.tally o.name completed).suite := fun close => by
      rw [suite_tally, suite_tally, labels close]
    refine (ih later others _ _ labels').mono (fun _ _ => id) (fun _ _ => id) ?_
    intro final final' ⟨fates, names, counted, counted'⟩
    rw [pair.name] at counted'
    exact ⟨(o.name, completed) :: fates, congrArg (o.name :: ·) names, counted, counted'⟩

end Groups

/-! ## Lives of paired suites -/

section Ends

variable {S : Scene κ σ → Scene κ τ → Prop} {V : σ → τ → Prop}

/-- Suites whose last hooks are paired are torn down in step. -/
theorem shadows_tearDown (inStep : InStep close S) {label label' : String}
    (labels : close → label' = label)
    (last : Called G R S Eq .tearDown id (fun _ => .returned) suite.tearDown suite'.tearDown) :
    Shadows G R S Eq (tearDown suite label) (tearDown suite.watched label)
      (tearDown suite' label') where
  lists := .of_follows fun s => follows_tearDown suite label s
  agree := by
    intro s t ⟨related, good⟩
    have calls : (tearDown suite.watched label).calls s =
        [s.visit .tearDown (.of id (fun _ => .returned) (suite.tearDown.run s).1)] := by
      obtain ⟨-, a, u, listed, ran, -⟩ := (follows_tearDown suite label s).listed_fresh
      rw [ran]
      exact listed
    rw [calls] at good
    obtain ⟨reached, ends⟩ := last s t related (List.forall_mem_singleton.mp good)
    rcases hx : suite.tearDown.run s with ⟨a, s'⟩
    rcases hy : suite'.tearDown.run t with ⟨b, t'⟩
    rw [hx, hy] at reached ends
    rw [run_tearDown, run_tearDown, hx, hy]
    cases ends with
    | returned same => exact ⟨reached, .returned same⟩
    | @stopped e =>
      cases e with
      | failure e =>
        refine ⟨inStep.noted _ _ _ _ reached fun close => ?_, .returned rfl⟩
        rw [labels close]
      | crash c => exact ⟨reached, .stopped⟩

/-- Where paired suites start: nothing of what they share has parted yet. -/
structure Level (V : σ → τ → Prop) (s : Scene κ σ) (t : Scene κ τ) : Prop where
  context : t.context = s.context
  world : t.world = s.world
  state : V s.state t.state

theorem Level.adjusted {s : Scene κ σ} {t : Scene κ τ} (h : Level V s t)
    (f : Context κ → Context κ) : Level V (s.adjusted f) (t.adjusted f) :=
  ⟨congrArg f h.context, h.world, h.state⟩

theorem Level.noted {s : Scene κ σ} {t : Scene κ τ} (h : Level V s t)
    (e : Event) : Level V (s.noted e) (t.noted e) :=
  ⟨h.context, congrArg (·.note e) h.world, h.state⟩

/-- The directory is made in the same world for both. -/
theorem shadows_setUp (level : ∀ s t, Level V s t → R s t)
    (named : ∀ s t, R s t → t.context.suite = s.context.suite)
    (first : Called G R R Eq .setUp id (fun _ => .returned) suite.setUp suite'.setUp) :
    Shadows G (Level V) R Eq (setUp suite) (setUp suite.watched) (setUp suite') := by
  have same : ∀ s t : Scene κ _, Level V s t → t.context = s.context := fun _ _ h => h.context
  -- an error goes by the name in the context, which is the same in related scenes
  have refused : ∀ e : BenchError, Shadows G R R Eq
      (context >>= fun c => throw (.failure (.setUp c.suite e)) : Code κ σ Unit)
      (context >>= fun c => throw (.failure (.setUp c.suite e)))
      (context >>= fun c => throw (.failure (.setUp c.suite e)) : Code κ τ Unit) := fun e =>
    .context (K := fun c c' => c'.suite = c.suite) (fun _ => rfl) named fun c c' same => by
      rw [same]
      exact .throw
  refine .context (K := fun c c' => c' = c) (fun _ => rfl) same fun c c' same => ?_
  subst same
  have made : Shadows G (Level V) R Eq
      (Code.access (Access.makeDirectories c'.outputDirectory) : Code κ σ _)
      (Code.access (Access.makeDirectories c'.outputDirectory))
      (Code.access (Access.makeDirectories c'.outputDirectory) : Code κ τ _) := by
    refine .of_agree (.of_follows (Q := fun _ _ _ _ => True) fun s => ?_) fun s t h => ?_
    · exact ⟨[], fun past => by rw [List.append_nil]; rfl, trivial⟩
    · rcases ran : s.world.access (Access.makeDirectories c'.outputDirectory) with ⟨a, w⟩
      have ran' : t.world.access (Access.makeDirectories c'.outputDirectory) = (a, w) := by
        rw [h.world, ran]
      rw [Code.run_access ran, Code.run_access ran']
      exact ⟨level _ _ ⟨h.context, rfl, h.state⟩, .returned rfl⟩
  refine made.andThen fun answer => ?_
  cases answer with
  | error e => exact refused (.io e)
  | ok _ =>
    refine .andThen (.contain first.shadows) fun answer => ?_
    cases answer with
    | error e => exact refused e.error
    | ok _ => exact .pure rfl

/-- A watched suite declares watched operations, so it does not answer what the suite does; but all
that follows goes by the operations of the suite. -/
theorem shadows_declared {P : α → β → Prop}
    (declares : Agree R R (List.Forall₂ (Operation.Paired R))
      (ofWork suite.operations : CodeWith Crash κ σ (List (Operation σ))) (ofWork suite'.operations))
    {f : List (Operation σ) → Code κ σ α}
    {f' : List (Operation (Watched κ σ)) → Code κ (Watched κ σ) α}
    {g : List (Operation τ) → Code κ τ β}
    (stops : ∀ s t, R s t → S s t) (lists : ∀ os, Lists (f os) (f' (os.mapIdx Operation.watched)))
    (rest : ∀ os os', List.Forall₂ (Operation.Paired R) os os' →
      Shadows G R S P (f os) (f' (os.mapIdx Operation.watched)) (g os')) :
    Shadows G R S P (Code.ofCrashing (ofWork suite.operations) >>= f)
      (Code.ofCrashing (ofWork suite.watched.operations) >>= f')
      (Code.ofCrashing (ofWork suite'.operations) >>= g) where
  lists := by
    refine .of_follows (Q := fun _ _ _ _ => True) fun s => ?_
    rcases declared : (ofWork suite.operations : CodeWith Crash κ σ _).run s with ⟨a, s'⟩
    have watched := fun past => Code.run_ofCrashing (run_watched_operations suite declared past)
    cases a with
    | error c => exact .stopped (Code.run_ofCrashing declared) watched trivial
    | ok os =>
      exact .listed (Code.run_ofCrashing declared) watched
        ((lists os s').mono fun _ _ _ _ => trivial)
  agree := by
    intro s t ⟨related, good⟩
    obtain ⟨reached, ends⟩ := declares s t related
    rcases hx : (ofWork suite.operations : CodeWith Crash κ σ _).run s with ⟨a, s'⟩
    rcases hy : (ofWork suite'.operations : CodeWith Crash κ τ _).run t with ⟨b, t'⟩
    rw [hx, hy] at reached ends
    cases ends with
    | stopped =>
      rw [run_bind_of_error (Code.run_ofCrashing hx), run_bind_of_error (Code.run_ofCrashing hy)]
      exact ⟨stops s' t' reached, .stopped⟩
    | @returned os os' pairs =>
      have watched := Code.run_ofCrashing (run_watched_operations suite hx [])
      have made := congrArg (fun r => r.2.state.2) ((lists os).run s'
        [s.invocation .operations (.declared (os.map (·.name)))])
      rw [run_bind_of_ok (Code.run_ofCrashing hx), run_bind_of_ok (Code.run_ofCrashing hy)]
      refine (rest os os' pairs).agree s' t' ⟨reached, fun v listed => good v ?_⟩
      unfold CodeWith.calls
      rw [run_bind_of_ok watched]
      exact made ▸ List.mem_cons_of_mem _ listed

theorem forall₂_zip {T : α → β → Prop} {as : List α} {bs : List β} (pairs : List.Forall₂ T as bs)
    (list : List γ) :
    List.Forall₂ (fun a b => T a.1 b.1 ∧ b.2 = a.2) (as.zip list) (bs.zip list) := by
  induction pairs generalizing list with
  | nil => exact .nil
  | cons head _ ih =>
    cases list with
    | nil => exact .nil
    | cons c list => exact .cons ⟨head, rfl⟩ (ih list)

variable [Arithmetic κ]

theorem shadows_run (inStep : InStep close R) (inStep' : InStep close S)
    (opens : ∀ s t (window : Window κ), R s t →
      R (s.adjusted (opened window)) (t.adjusted (opened window)))
    (level : ∀ s t, Level V s t → R s t)
    (named : ∀ s t, R s t → t.context.suite = s.context.suite) (stops : ∀ s t, R s t → S s t)
    (lives : PairedLives G R S suite suite') (clock : Clock) (window : Window κ) :
    Shadows G (Level V) S Eq (run suite clock window) (run suite.watched clock window)
      (run suite' clock window) := by
  have same : ∀ s t : Scene κ _, Level V s t → t.context = s.context := fun _ _ h => h.context
  refine .adjust (fun s t h => h.adjusted _) ?_
  refine .context (K := fun c c' => c' = c) (fun _ => rfl) same fun c c' same => ?_
  subst same
  refine .note (fun s t h => h.noted _) ?_
  refine .andThenTo (shadows_setUp level named lives.setUp) stops fun _ => ?_
  refine shadows_declared lives.operations stops (fun os => ?_) fun os os' pairs => ?_
  · rw [← watchedFrom_scheduled]
    exact .of_follows (follows_onwards suite clock window c'.suite 0 _ (scheduled window os))
  · rw [← watchedFrom_scheduled, ← pairs.length_eq]
    have times : ∀ place : BatchPlace, 0 ≤ place.group → clock place = clock place :=
      fun _ _ => rfl
    have groups := shadows_groups inStep opens (fun _ _ => id) lives.toPaired times
      (forall₂_zip pairs (window.split os.length)) (fun _ _ => trivial) { suite := c'.suite }
      { suite := c'.suite } (fun _ => rfl)
    refine groups.bind stops (fun summary => ?_) ?_
    · refine .bind (.of_follows (follows_tearDown suite _)) fun _ => ?_
      exact .of_follows (Q := fun _ _ _ _ => True) fun _ => .note (.pure trivial)
    · rintro final final' ⟨fates, _, rfl, rfl⟩
      refine .andThen (shadows_tearDown inStep' (fun _ => rfl) lives.tearDown) fun _ => ?_
      exact inStep'.note (fun _ => rfl) (.pure rfl)

/-- Paired suites are taken through the same life, if all calls of the first are good. -/
theorem run_paired (inStep : InStep close R) (inStep' : InStep close S)
    (opens : ∀ s t (window : Window κ), R s t →
      R (s.adjusted (opened window)) (t.adjusted (opened window)))
    (level : ∀ s t, Level V s t → R s t)
    (named : ∀ s t, R s t → t.context.suite = s.context.suite) (stops : ∀ s t, R s t → S s t)
    (lives : PairedLives G R S suite suite') {clock : Clock} {window : Window κ} {s : Scene κ σ}
    {t : Scene κ τ} (start : Level V s t)
    (good : ∀ v ∈ calls suite clock window s, G v) :
    S ((run suite clock window).run s).2 ((run suite' clock window).run t).2 ∧
      ((run suite' clock window).run t).1 = ((run suite clock window).run s).1 := by
  obtain ⟨reached, ends⟩ :=
    (shadows_run inStep inStep' opens level named stops lives clock window).agree s t ⟨start, good⟩
  exact ⟨reached, ends.eq⟩

end Ends

/-! ## Twins -/

section Twins

variable [Arithmetic κ] {E : Backdrop σ → Backdrop τ → Prop}

/-- The groups of twins have the same fates. Scenes that parted before the first of them do not have to
be more alike after the last, in case there are none. -/
theorem agree_groups_between {R : Scene κ σ → Scene κ τ → Prop}
    (parted : ∀ s t, R s t → Parted E s t) (alike : ∀ s t, Alike E s t → R s t)
    (twins : Twins E group offered suite suite') {index : Nat}
    (times : ∀ place : BatchPlace, index ≤ place.group → clock' place = clock place)
    {list : List (Operation σ × Window κ)} {list' : List (Operation τ × Window κ)}
    (twin : List.Forall₂ (fun o o' => o.1.Twins κ E o'.1 ∧ o'.2 = o.2) list list')
    (all_inside : ∀ o ∈ list, group o.1.name) (summary summary' : Summary) :
    Agree R R (fun final final' => ∃ fates : List (String × Bool),
        fates.map (·.1) = list.map (·.1.name) ∧ final = tallied summary fates ∧
          final' = tallied summary' fates)
      (groups suite clock index summary list) (groups suite' clock' index summary' list') := by
  have opens : ∀ s t (window : Window κ), R s t →
      Alike E (s.adjusted (opened window)) (t.adjusted (opened window)) :=
    fun s t window related => (parted s t related).opened window
  have pairs := twin.imp fun _ _ twin => And.imp_left Operation.Twins.paired twin
  have shadows := shadows_groups (inStep_alike E) opens alike twins.paired times pairs all_inside
    summary summary' False.elim
  exact fun s t related => shadows.agree s t ⟨related, fun _ _ => trivial⟩

/-- From scenes that parted in an earlier group on, the groups of twins have the same fates. -/
theorem agree_groups (twins : Twins E group offered suite suite') {index : Nat}
    (times : ∀ place : BatchPlace, index ≤ place.group → clock' place = clock place)
    {list : List (Operation σ × Window κ)} {list' : List (Operation τ × Window κ)}
    (twin : List.Forall₂ (fun o o' => o.1.Twins κ E o'.1 ∧ o'.2 = o.2) list list')
    (all_inside : ∀ o ∈ list, group o.1.name) (summary summary' : Summary) :
    Agree (Parted E) (Parted E) (fun final final' => ∃ fates : List (String × Bool),
        fates.map (·.1) = list.map (·.1.name) ∧ final = tallied summary fates ∧
          final' = tallied summary' fates)
      (groups suite clock index summary list) (groups suite' clock' index summary' list') :=
  agree_groups_between (fun _ _ parted => parted) (fun _ _ alike => alike.parted) twins times twin
    all_inside summary summary'

omit [Arithmetic κ] in
/-- Suites whose last hooks look alike are torn down alike. -/
theorem mirrors_tearDown (ended : Mirrors E suite.tearDown suite'.tearDown) (label label' : String) :
    Mirrors E (tearDown suite label : Code κ σ Unit) (tearDown suite' label') := by
  have labels : False → label' = label := False.elim
  have shadows := shadows_tearDown (G := fun _ => True) (inStep_alike E) labels (.of_agree ended)
  exact fun s t alike => shadows.agree s t ⟨alike, fun _ _ => trivial⟩

end Twins

end Engine

end Microbench
