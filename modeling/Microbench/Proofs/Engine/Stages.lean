import Microbench.Proofs.Engine.Calls
import Microbench.Proofs.Engine.Contexts

/-!
# Stages of an execution

The life of a suite cut in two at the end of one of its groups.

* `upTo`: the life up to there; `onwards`: the rest of it.
* `run_of_upTo`: a run of the engine is the one and then the other.
* `calls_of_upTo`: so are the calls that it makes, those of the later groups before the last one.
-/

namespace Microbench.Engine

open CodeWith

variable {κ σ : Type} [Arithmetic κ] {suite : Suite κ σ} {clock : Clock}

/-! ## Groups before and after -/

theorem groups_append (index : Nat) (summary : Summary) (list list' : List (Operation σ × Window κ)) :
    groups suite clock index summary (list ++ list') =
      groups suite clock index summary list >>= fun summary =>
        groups suite clock (index + list.length) summary list' := by
  induction list generalizing index summary with
  | nil => exact (pure_bind _ _).symm
  | cons head rest ih =>
    have step : ∀ completed, groups suite clock (index + 1) (summary.tally head.1.name completed)
        (rest ++ list') = _ := fun _ => ih _ _
    rw [List.cons_append]
    simp only [groups, step, bind_assoc, List.length_cons, Nat.add_assoc, Nat.add_comm 1]

/-- The scene in which a suite is set up. -/
def begun (window : Window κ) (s : Scene κ σ) : Scene κ σ :=
  (s.adjusted (·.advance window.start)).noted ⟨.information, "initializing suite",
    [("suite", .text s.context.suite), progressField window.start]⟩

/-- The life of a suite up to the end of some of its first groups: the operations that it declared,
and how these groups fared. -/
def upTo (suite : Suite κ σ) (clock : Clock) (window : Window κ) (count : Nat) :
    Code κ σ (List (Operation σ) × Summary) := do
  adjust (·.advance window.start)
  let id := (← context).suite
  note ⟨.information, "initializing suite", [("suite", .text id), progressField window.start]⟩
  setUp suite
  let operations ← Code.ofCrashing (ofWork suite.operations)
  let summary ← groups suite clock 0 { suite := id } ((scheduled window operations).take count)
  return (operations, summary)

/-- The life of a suite from one of its groups on. -/
def onwards (suite : Suite κ σ) (clock : Clock) (window : Window κ) (id : String) (index : Nat)
    (summary : Summary) (list : List (Operation σ × Window κ)) : Code κ σ Summary := do
  let summary ← groups suite clock index summary list
  tearDown suite id
  note ⟨.information, "suite finished",
    [("suite", .text id), progressField window.finish,
      ("completed", .number summary.completed.length), ("failed", .number summary.failed.length)]⟩
  return summary

theorem onwards_append (window : Window κ) (id : String) (index : Nat) (summary : Summary)
    (list list' : List (Operation σ × Window κ)) :
    onwards suite clock window id index summary (list ++ list') =
      groups suite clock index summary list >>= fun summary =>
        onwards suite clock window id (index + list.length) summary list' := by
  rw [onwards, groups_append, bind_assoc]
  rfl

variable {window : Window κ} {count : Nat} {s u : Scene κ σ} {operations : List (Operation σ)}
  {summary : Summary}

theorem run_eq_begun : (run suite clock window).run s = ((do
    setUp suite
    let operations ← Code.ofCrashing (ofWork suite.operations)
    onwards suite clock window s.context.suite 0 { suite := s.context.suite }
      (scheduled window operations)) : Code κ σ Summary).run (begun window s) := rfl

theorem upTo_eq_begun : (upTo suite clock window count).run s = ((do
    setUp suite
    let operations ← Code.ofCrashing (ofWork suite.operations)
    let summary ← groups suite clock 0 { suite := s.context.suite }
      ((scheduled window operations).take count)
    return (operations, summary)) : Code κ σ (List (Operation σ) × Summary)).run (begun window s) := rfl

theorem upTo_eq_ok_iff : (upTo suite clock window count).run s = (.ok (operations, summary), u) ↔
    ∃ a b, (setUp suite).run (begun window s) = (.ok (), a) ∧
      (ofWork suite.operations).run a = (.ok operations, b) ∧
      (groups suite clock 0 { suite := s.context.suite } ((scheduled window operations).take count)).run
        b = (.ok summary, u) := by
  rw [upTo_eq_begun]
  constructor
  · intro h
    obtain ⟨_, a, ready, h⟩ := exists_of_run_bind_ok h
    obtain ⟨_, b, declared, h⟩ := exists_of_run_bind_ok h
    obtain ⟨_, _, firsts, h⟩ := exists_of_run_bind_ok h
    cases h
    exact ⟨a, b, ready, Code.run_ofCrashing_eq_ok_iff.mp declared, firsts⟩
  · intro ⟨a, b, ready, declared, firsts⟩
    rw [run_bind_of_ok ready, run_bind_of_ok (Code.run_ofCrashing declared), run_bind_of_ok firsts]
    rfl

/-- An execution goes on from the end of any of its groups. -/
theorem run_of_upTo (reached : (upTo suite clock window count).run s = (.ok (operations, summary), u))
    (inside : count ≤ operations.length) : (run suite clock window).run s =
      (onwards suite clock window s.context.suite count summary
        ((scheduled window operations).drop count)).run u := by
  obtain ⟨a, b, ready, declared, firsts⟩ := upTo_eq_ok_iff.mp reached
  have length : ((scheduled window operations).take count).length = count := by
    rw [List.length_take, length_scheduled, Nat.min_eq_left inside]
  rw [run_eq_begun, run_bind_of_ok ready, run_bind_of_ok (Code.run_ofCrashing declared),
    ← List.take_append_drop count (scheduled window operations), onwards_append,
    run_bind_of_ok firsts, length, Nat.zero_add, List.take_append_drop]

/-- No run is being measured at the end of a group, if the suite keeps its context. -/
theorem idle_of_upTo (keeps : suite.KeepsContext)
    (reached : (upTo suite clock window count).run s = (.ok (operations, summary), u))
    (some_group : 0 < count) (declares : 0 < operations.length) : u.context.current = none := by
  obtain ⟨a, b, _, _, firsts⟩ := upTo_eq_ok_iff.mp reached
  obtain ⟨log, _, walk⟩ := follows_groups suite clock 0 { suite := s.context.suite }
    ((scheduled window operations).take count) b
  rw [firsts] at walk
  refine walk.current keeps fun none => ?_
  have length := congrArg List.length none
  rw [List.length_take, length_scheduled, List.length_nil] at length
  omega

/-! ## The calls on both sides -/

/-- The calls that a suite is made up to the end of some of its first groups. -/
def callsUpTo (suite : Suite κ σ) (clock : Clock) (window : Window κ) (count : Nat) (s : Scene κ σ) :
    List (Visit κ σ) :=
  ((upTo suite.watched clock window count).run (s.watching [])).2.state.2

/-- The calls that groups make. -/
def groupCalls (suite : Suite κ σ) (clock : Clock) (index : Nat) (summary : Summary)
    (list : List (Operation σ × Window κ)) (s : Scene κ σ) : List (Visit κ σ) :=
  ((groups suite.watched clock index summary (watchedFrom index list)).run (s.watching [])).2.state.2

theorem run_groups_watched (suite : Suite κ σ) (clock : Clock) (index : Nat) (summary : Summary)
    (list : List (Operation σ × Window κ)) (s : Scene κ σ) (past : List (Visit κ σ)) :
    (groups suite.watched clock index summary (watchedFrom index list)).run (s.watching past) =
      (((groups suite clock index summary list).run s).1,
        ((groups suite clock index summary list).run s).2.watching
          (past ++ groupCalls suite clock index summary list s)) :=
  (follows_groups suite clock index summary list s).listed_fresh.1 past

theorem upTo_watched (reached : (upTo suite clock window count).run s = (.ok (operations, summary), u)) :
    (upTo suite.watched clock window count).run (s.watching []) =
      (.ok (operations.mapIdx Operation.watched, summary),
        u.watching (callsUpTo suite clock window count s)) := by
  obtain ⟨a, b, ready, declared, firsts⟩ := upTo_eq_ok_iff.mp reached
  obtain ⟨log, listed, _⟩ := follows_setUp suite (begun window s)
  have ready' := listed []
  rw [ready] at ready'
  have declared' := run_watched_operations suite declared ([] ++ log)
  have firsts' := run_groups_watched suite clock 0 { suite := s.context.suite }
    ((scheduled window operations).take count) b
    (([] ++ log) ++ [a.invocation .operations (.declared (operations.map (·.name)))])
  rw [firsts, ← take_watchedFrom, watchedFrom_scheduled] at firsts'
  have watched : (upTo suite.watched clock window count).run (s.watching []) = _ :=
    upTo_eq_ok_iff.mpr ⟨_, _, ready', declared', firsts'⟩
  have calls : callsUpTo suite clock window count s = _ := congrArg (fun r => r.2.state.2) watched
  rw [calls]
  exact watched

theorem follows_onwards (suite : Suite κ σ) (clock : Clock) (window : Window κ) (id : String)
    (index : Nat) (summary : Summary) (list : List (Operation σ × Window κ)) (s : Scene κ σ) :
    Follows s (onwards suite clock window id index summary list)
      (onwards suite.watched clock window id index summary (watchedFrom index list))
      fun log answer _ => ∃ rest, log = groupCalls suite clock index summary list s ++ rest ∧
        (∀ v ∈ rest, v.call = .tearDown) ∧
        ∀ final, answer = .ok final → ((groups suite clock index summary list).run s).1 = .ok final := by
  have groups_follow : Follows s (groups suite clock index summary list)
      (groups suite.watched clock index summary (watchedFrom index list)) fun log answer _ =>
        log = groupCalls suite clock index summary list s ∧
          answer = ((groups suite clock index summary list).run s).1 :=
    ⟨_, run_groups_watched suite clock index summary list s, rfl, rfl⟩
  refine groups_follow.bind ?_ ?_
  · intro log e t ⟨made, _⟩
    exact ⟨[], made.trans (List.append_nil _).symm, List.forall_mem_nil _, nofun⟩
  · intro log sum t ⟨made, returned⟩
    subst made
    refine (follows_tearDown suite id t).bind ?_ ?_
    · intro log' e u ⟨_, _, last, _⟩
      subst last
      exact ⟨_, rfl, List.forall_mem_singleton.mpr rfl, nofun⟩
    · intro log' _ u ⟨_, _, last, _⟩
      subst last
      refine .note (.pure ⟨_, congrArg _ (List.append_nil _), List.forall_mem_singleton.mpr rfl, ?_⟩)
      intro final same
      cases same
      exact returned.symm

theorem calls_of_upTo (reached : (upTo suite clock window count).run s = (.ok (operations, summary), u))
    (inside : count ≤ operations.length) :
    ∃ rest, calls suite clock window s = callsUpTo suite clock window count s ++
        (groupCalls suite clock count summary ((scheduled window operations).drop count) u ++ rest) ∧
      (∀ v ∈ rest, v.call = .tearDown) ∧
      ∀ final, ((run suite clock window).run s).1 = .ok final →
        ((groups suite clock count summary ((scheduled window operations).drop count)).run u).1 =
          .ok final := by
  obtain ⟨log, listed, rest, rfl, last, returned⟩ := follows_onwards suite clock window
    s.context.suite count summary ((scheduled window operations).drop count) u
  have onwards_from := run_of_upTo reached inside
  have watched := run_of_upTo (upTo_watched reached) (by rw [List.length_mapIdx]; exact inside)
  have schedule : scheduled window (operations.mapIdx (Operation.watched (κ := κ))) = _ :=
    (watchedFrom_scheduled operations window).symm
  have made : calls suite clock window s = _ := congrArg (fun r => r.2.state.2) watched
  refine ⟨rest, ?_, last, ?_⟩
  · rw [made, schedule, drop_watchedFrom, Nat.zero_add]
    exact congrArg (fun r => r.2.state.2) (listed (callsUpTo suite clock window count s))
  · rw [onwards_from]
    exact returned

end Microbench.Engine
