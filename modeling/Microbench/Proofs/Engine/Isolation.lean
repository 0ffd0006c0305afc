import Microbench.Proofs.Engine.Shadows

/-!
# Groups after a group

What happens in a group has no bearing on the groups after it but through what the suite itself makes
of it: its own state, and the knobs. That is, unless a hook puts another context in the place of its
own: the engine goes on with what it is left.

* `Twins.watched`: twins are still twins when their calls are listed, and the lists are the same.
* `later_groups_alike`: two executions that part in a group, and whose suites have the same state and
  the same knobs when it is over, make the same calls from the next group on, and these groups have
  the same fates.
-/

namespace Microbench

open CodeWith

variable {ε κ σ τ α β : Type}

/-! ## Watched twins -/

/-- The same call: the callee was shown the same, and the same came of it. -/
structure Visit.Same (v : Visit κ σ) (v' : Visit κ τ) : Prop where
  call : v'.call = v.call
  view : v'.context.map Context.view = v.context.map Context.view
  answer : v'.answer = v.answer

/-- The scene of the suite that is watched. -/
def Scene.unwatched (s : Scene κ (Watched κ σ)) : Scene κ σ := { s with state := s.state.1 }

/-- Backdrops that look alike to watched suites: they do to the suites, and the lists are the same. -/
def Listing (E : Backdrop σ → Backdrop τ → Prop) (b : Backdrop (Watched κ σ))
    (b' : Backdrop (Watched κ τ)) : Prop :=
  E ⟨b.fixed, b.state.1, b.world⟩ ⟨b'.fixed, b'.state.1, b'.world⟩ ∧
    List.Forall₂ Visit.Same b.state.2 b'.state.2

section Watched

variable {E : Backdrop σ → Backdrop τ → Prop}

theorem Alike.unwatched {s : Scene κ (Watched κ σ)} {t : Scene κ (Watched κ τ)}
    (h : Alike (Listing E) s t) : Alike E s.unwatched t.unwatched :=
  ⟨h.view, h.backdrop.1⟩

theorem Alike.watching {s : Scene κ σ} {t : Scene κ τ} (h : Alike E s t) {log : List (Visit κ σ)}
    {log' : List (Visit κ τ)} (same : List.Forall₂ Visit.Same log log') :
    Alike (Listing E) (s.watching log) (t.watching log') :=
  ⟨h.view, h.backdrop, same⟩

theorem Concur.of {P : α → β → Prop} {a : Except ε α} {b : Except ε β} (h : Concur P a b)
    (stop : ε → Stop) {value : α → Answer} {value' : β → Answer}
    (values : ∀ a b, P a b → value' b = value a) : Answer.of stop value' b = .of stop value a := by
  cases h with
  | returned related => exact values _ _ related
  | stopped => rfl

/-- Hooks that look alike still do when they are watched: they are listed with what they saw. -/
theorem Agree.watched {P : α → β → Prop} {x : CodeWith ε κ σ α} {y : CodeWith ε κ τ β}
    (h : Agree (Alike E) (Alike E) P x y) (call : Call) (stop : ε → Stop)
    {value : α → Answer} {value' : β → Answer} (values : ∀ a b, P a b → value' b = value a) :
    Agree (Alike (Listing E)) (Alike (Listing E)) P (x.watched call stop value)
      (y.watched call stop value') := by
  intro s t alike
  obtain ⟨reached, ends⟩ := h _ _ alike.unwatched
  have same : List.Forall₂ Visit.Same
      [s.unwatched.visit call (.of stop value (x.run s.unwatched).1)]
      [t.unwatched.visit call (.of stop value' (y.run t.unwatched).1)] :=
    .cons ⟨rfl, congrArg some alike.view, ends.of stop values⟩ .nil
  exact ⟨reached.watching (List.rel_append alike.backdrop.2 same), ends⟩

theorem Operation.Twins.watched {o : Operation σ} {o' : Operation τ} (twin : o.Twins κ E o')
    (place : Nat) : (o.watched (κ := κ) place).Twins κ (Listing E) (o'.watched place) where
  name := twin.name
  call := by
    intro s t alike
    obtain ⟨reached, ends⟩ := twin.call _ _ alike.unwatched
    have same : List.Forall₂ Visit.Same
        [s.unwatched.invocation (.operation place)
          (.of id (fun _ => .returned) ((ofWork o.call : Code κ σ Unit).run s.unwatched).1)]
        [t.unwatched.invocation (.operation place)
          (.of id (fun _ => .returned) ((ofWork o'.call : Code κ τ Unit).run t.unwatched).1)] :=
      .cons ⟨rfl, rfl, ends.of id fun _ _ _ => rfl⟩ .nil
    exact ⟨reached.watching (List.rel_append alike.backdrop.2 same), ends⟩

theorem Twins.watched {group : String → Prop} {offered : Run → Prop} {suite : Suite κ σ}
    {suite' : Suite κ τ} (twins : Twins E group offered suite suite') :
    Twins (Listing E) group offered suite.watched suite'.watched where
  groupStarts name inside := (twins.groupStarts name inside).watched _ _
    fun _ _ same => congrArg Answer.runs same.1
  runStarts run offer := (twins.runStarts run offer).watched _ _ fun _ _ _ => rfl
  repetitionStarts run repetition offer :=
    (twins.repetitionStarts run repetition offer).watched _ _ fun _ _ _ => rfl
  runEnds run statistics offer := (twins.runEnds run statistics offer).watched _ _ fun _ _ _ => rfl
  groupEnds name inside := (twins.groupEnds name inside).watched _ _ fun _ _ _ => rfl
  groupFailed name error inside :=
    (twins.groupFailed name error inside).watched _ _ fun _ _ _ => rfl

end Watched

namespace Engine

variable [Arithmetic κ]

/-! ## Two executions -/

section Twins

variable {E : Backdrop σ → Backdrop τ → Prop}

omit [Arithmetic κ] in
theorem twins_watchedFrom {list : List (Operation σ × Window κ)} {list' : List (Operation τ × Window κ)}
    (twin : List.Forall₂ (fun o o' => o.1.Twins κ E o'.1 ∧ o'.2 = o.2) list list') (index : Nat) :
    List.Forall₂ (fun o o' => o.1.Twins κ (Listing E) o'.1 ∧ o'.2 = o.2) (watchedFrom index list)
      (watchedFrom index list') := by
  induction twin generalizing index with
  | nil => exact .nil
  | cons heads _ ih =>
    rw [watchedFrom_cons, watchedFrom_cons]
    exact .cons ⟨heads.1.watched index, heads.2⟩ (ih (index + 1))

/-- Two executions of suites that keep their contexts reach the end of the same group, whatever came
of it in each. For the groups after it the suites are twins, and the clocks take the same times. If
the suites have the same state when the group is over, so far as `E` says, and the same knobs, then
from the next group on the executions make the same calls, with the same arguments and in view of the
same; and each of these groups has the same fate in both. -/
theorem later_groups_alike {offered : Run → Prop} {suite : Suite κ σ} {suite' : Suite κ τ}
    {clock clock' : Clock} {window : Window κ} {group : Nat} {s u : Scene κ σ} {s' u' : Scene κ τ}
    {operations : List (Operation σ)} {operations' : List (Operation τ)} {summary summary' : Summary}
    (keeps : suite.KeepsContext) (keeps' : suite'.KeepsContext)
    (reached : (upTo suite clock window (group + 1)).run s = (.ok (operations, summary), u))
    (reached' : (upTo suite' clock' window (group + 1)).run s' = (.ok (operations', summary'), u'))
    (declared : group < operations.length)
    (names : operations'.map (·.name) = operations.map (·.name))
    (times : ∀ place : BatchPlace, group < place.group → clock' place = clock place)
    (twins : Twins E (· ∈ (operations.drop (group + 1)).map (·.name)) offered suite suite')
    (twin : List.Forall₂ (Operation.Twins κ E) (operations.drop (group + 1))
      (operations'.drop (group + 1)))
    (knobs : u'.context.knobs = u.context.knobs) (states : E u.backdrop u'.backdrop) :
    ∃ later later' rest rest',
      calls suite clock window s = callsUpTo suite clock window (group + 1) s ++ (later ++ rest) ∧
      calls suite' clock' window s' =
        callsUpTo suite' clock' window (group + 1) s' ++ (later' ++ rest') ∧
      List.Forall₂ Visit.Same later later' ∧
      (∀ v ∈ rest, v.call = .tearDown) ∧ (∀ v ∈ rest', v.call = .tearDown) ∧
      ∀ final final', ((run suite clock window).run s).1 = .ok final →
        ((run suite' clock' window).run s').1 = .ok final' →
        ∃ fates : List (String × Bool),
          fates.map (·.1) = (operations.drop (group + 1)).map (·.name) ∧
          final = tallied summary fates ∧ final' = tallied summary' fates := by
  have lengths : operations'.length = operations.length := by
    have same := congrArg List.length names
    rw [List.length_map, List.length_map] at same
    exact same
  obtain ⟨rest, made, last, returned⟩ := calls_of_upTo reached declared
  obtain ⟨rest', made', last', returned'⟩ := calls_of_upTo reached' (lengths ▸ declared)
  have idle := idle_of_upTo keeps reached (Nat.succ_pos _) (Nat.zero_lt_of_lt declared)
  have idle' := idle_of_upTo keeps' reached' (Nat.succ_pos _) (lengths ▸ Nat.zero_lt_of_lt declared)
  have parted : Parted (Listing E) (u.watching []) (u'.watching []) :=
    ⟨idle'.trans idle.symm, knobs, states, .nil⟩
  have later : List.Forall₂ (fun o o' => o.1.Twins κ E o'.1 ∧ o'.2 = o.2)
      ((scheduled window operations).drop (group + 1))
      ((scheduled window operations').drop (group + 1)) := by
    rw [drop_scheduled, drop_scheduled, lengths]
    exact forall₂_zip twin _
  have inside : ∀ o ∈ watchedFrom (group + 1) ((scheduled window operations).drop (group + 1)),
      o.1.name ∈ (operations.drop (group + 1)).map (·.name) := by
    intro o mem
    rw [← map_name_drop_scheduled _ _ window, ← map_name_watchedFrom (group + 1)]
    exact List.mem_map_of_mem mem
  obtain ⟨alike, ends⟩ := agree_groups twins.watched times (twins_watchedFrom later (group + 1)) inside
    summary summary' _ _ parted
  rw [run_groups_watched, run_groups_watched] at alike ends
  refine ⟨_, _, rest, rest', made, made', alike.backdrop.2, last, last', ?_⟩
  intro final final' ended ended'
  rw [returned final ended, returned' final' ended'] at ends
  cases ends with
  | returned fates =>
    obtain ⟨fates, named, counted, counted'⟩ := fates
    rw [map_name_watchedFrom, map_name_drop_scheduled] at named
    exact ⟨fates, named, counted, counted'⟩

end Twins

/-- A suite that counts the repetitions of a group and forgets the count when the group is over. What
its first operation does is left open; its last one panics. -/
def counting (first : Work Stop Nat Unit) : Suite Float Nat where
  operations := pure [⟨"first", first⟩, ⟨"second", pure ()⟩, ⟨"third", throw (.panicking "tired")⟩]
  repetitionStarts _ _ := modify fun s => { s with state := s.state + 1 }
  groupEnds _ := modify fun s => { s with state := 0 }

/-- Where the counting suite starts. -/
def uncounted : Scene Float Nat where
  state := 0
  context :=
    { suite := "counting", outputDirectory := "", properties := .empty
      knobs := ⟨2, 2, 0, Nat.two_pos, Nat.two_pos⟩, progress := 0 }
  world := {}

/-- All that the counting suite reads is its count. -/
def SameCount (b b' : Backdrop Nat) : Prop := b'.state = b.state

theorem keepsContext_counting (first : Work Stop Nat Unit) : (counting first).KeepsContext :=
  { Suite.keepsContext_default (counting first).operations with
    repetitionStarts := fun _ _ _ => rfl
    groupEnds := fun _ _ => rfl }

theorem twins_counting (first first' : Work Stop Nat Unit) (group : String → Prop) :
    Twins SameCount group (fun _ => True) (counting first) (counting first') where
  groupStarts _ _ := fun _ _ alike => ⟨alike, .returned ⟨rfl, fun _ _ => trivial⟩⟩
  runStarts _ _ := fun _ _ alike => ⟨alike, .returned rfl⟩
  repetitionStarts _ _ _ := fun _ _ alike =>
    ⟨⟨alike.view, congrArg (· + 1) alike.backdrop⟩, .returned rfl⟩
  runEnds _ _ _ := fun _ _ alike => ⟨alike, .returned rfl⟩
  groupEnds _ _ := fun _ _ alike => ⟨⟨alike.view, rfl⟩, .returned rfl⟩
  groupFailed _ _ _ := fun _ _ alike => ⟨⟨alike.view, alike.backdrop⟩, .returned rfl⟩

theorem upTo_counting (first : Work Stop Nat Unit) (clock : Clock) (summary : Summary)
    (answered : ((upTo (counting first) clock .full 1).run uncounted).1.toOption.map (·.2) =
      some summary) :
    (upTo (counting first) clock .full 1).run uncounted =
      (.ok ([⟨"first", first⟩, ⟨"second", pure ()⟩, ⟨"third", throw (.panicking "tired")⟩], summary),
        ((upTo (counting first) clock .full 1).run uncounted).2) := by
  rcases reached : (upTo (counting first) clock .full 1).run uncounted with ⟨answer, u⟩
  rw [reached] at answered
  cases answer with
  | error _ => cases answered
  | ok r =>
    obtain ⟨operations, summary'⟩ := r
    cases answered
    obtain ⟨_, _, _, declared, _⟩ := upTo_eq_ok_iff.mp reached
    cases declared
    rfl

/-- The knobs of a scene and the count, in numbers. -/
def numbers (s : Scene Float Nat) : Nat × Nat × Nat × Nat :=
  (s.state, s.context.knobs.calls, s.context.knobs.repetitions, s.context.knobs.delay)

theorem knobs_eq_of_numbers {s t : Scene Float Nat} (same : numbers s = numbers t) :
    s.context.knobs = t.context.knobs := by
  have parts : (numbers s).2 = (numbers t).2 := congrArg Prod.snd same
  unfold numbers at parts
  generalize s.context.knobs = k at parts
  generalize t.context.knobs = k' at parts
  cases k
  cases k'
  cases parts
  rfl

theorem later_groups_alike_counting : ∃ later later' rest rest',
    calls (counting (pure ())) (fun _ => 0) .full uncounted =
      callsUpTo (counting (pure ())) (fun _ => 0) .full 1 uncounted ++ (later ++ rest) ∧
    calls (counting (throw (.panicking "first"))) (if ·.group = 0 then 7 else 0) .full uncounted =
      callsUpTo (counting (throw (.panicking "first"))) (if ·.group = 0 then 7 else 0) .full 1
        uncounted ++ (later' ++ rest') ∧
    List.Forall₂ Visit.Same later later' ∧
    (∀ v ∈ rest, v.call = .tearDown) ∧ (∀ v ∈ rest', v.call = .tearDown) ∧
    ∀ final final', ((run (counting (pure ())) (fun _ => 0) .full).run uncounted).1 = .ok final →
      ((run (counting (throw (.panicking "first"))) (if ·.group = 0 then 7 else 0) .full).run
        uncounted).1 = .ok final' →
      ∃ fates : List (String × Bool), fates.map (·.1) = ["second", "third"] ∧
        final = tallied ⟨"counting", ["first"], []⟩ fates ∧
        final' = tallied ⟨"counting", [], ["first"]⟩ fates := by
  have reached := upTo_counting (pure ()) (fun _ => 0) ⟨"counting", ["first"], []⟩ (by decide +kernel)
  have reached' := upTo_counting (throw (.panicking "first")) (if ·.group = 0 then 7 else 0)
    ⟨"counting", [], ["first"]⟩ (by decide +kernel)
  have left : numbers ((upTo (counting (pure ())) (fun _ => 0) .full 1).run uncounted).2 =
      (0, 2, 2, 0) := by
    decide +kernel
  have left' : numbers ((upTo (counting (throw (.panicking "first")))
      (if ·.group = 0 then 7 else 0) .full 1).run uncounted).2 = (0, 2, 2, 0) := by
    decide +kernel
  have same := left'.trans left.symm
  have count : (numbers _).1 = (numbers _).1 := congrArg Prod.fst same
  refine later_groups_alike (E := SameCount) (keepsContext_counting _) (keepsContext_counting _) reached
    reached' (by decide) rfl ?_ (twins_counting _ _ _) ?_ (knobs_eq_of_numbers same) count
  · intro place beyond
    exact if_neg (Nat.ne_of_gt beyond)
  · exact .cons ⟨rfl, fun _ _ alike => ⟨alike, .returned rfl⟩⟩
      (.cons ⟨rfl, fun _ _ alike => ⟨alike, .stopped⟩⟩ .nil)

end Engine

end Microbench
