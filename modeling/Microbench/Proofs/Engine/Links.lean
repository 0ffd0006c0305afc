import Microbench.Proofs.Engine.Calls

/-!
# What calls hand on

Between two calls the engine leaves the state of a suite alone: every call finds it as the one before
left it. `LeadsTo` says which state a call leads to, with a rule for each kind of call, and
`Linked` chains calls.

* `linked_calls`: the calls of every run are linked, from the state that the run starts with to the
  one that it ends with.

What the code of a suite keeps is therefore known of a whole run by induction on the chain
(`Linked.keeps`), and the engine is not looked at again.
-/

namespace Microbench.Engine

open CodeWith Scene

variable {ε κ σ α : Type}

/-- An operation that the suite declares in some state. -/
def Declares (suite : Suite κ σ) (operation : Operation σ) : Prop :=
  ∃ s operations, (suite.operations.run s).1 = .ok operations ∧ operation ∈ operations

/-- The state of the suite that a call leads to. -/
inductive LeadsTo (suite : Suite κ σ) : Visit κ σ → σ → Prop
  | setUp (s : Scene κ σ) (answer : Answer) :
    LeadsTo suite (s.visit .setUp answer) (suite.setUp.run s).2.state
  | operations (s : Scene κ σ) (answer : Answer) :
    LeadsTo suite (s.invocation .operations answer) (suite.operations.run (s.state, s.world)).2.1
  | groupStarts (s : Scene κ σ) (group : String) (answer : Answer) :
    LeadsTo suite (s.visit (.groupStarts group) answer) ((suite.groupStarts group).run s).2.state
  | runStarts (s : Scene κ σ) (run : Run) (answer : Answer) :
    LeadsTo suite (s.visit (.runStarts run) answer) ((suite.runStarts run).run s).2.state
  | repetitionStarts (s : Scene κ σ) (run : Run) (repetition : Nat) (answer : Answer) :
    LeadsTo suite (s.visit (.repetitionStarts run repetition) answer)
      ((suite.repetitionStarts run repetition).run s).2.state
  | operation (s : Scene κ σ) (place : Nat) {o : Operation σ} (answer : Answer) : Declares suite o →
    LeadsTo suite (s.invocation (.operation place) answer) (o.call.run (s.state, s.world)).2.1
  | runEnds (s : Scene κ σ) (run : Run) (answer : Answer) :
    LeadsTo suite (s.visit (.runEnds run) answer) ((suite.runEnds run).run s).2.state
  | groupEnds (s : Scene κ σ) (group : String) (answer : Answer) :
    LeadsTo suite (s.visit (.groupEnds group) answer) ((suite.groupEnds group).run s).2.state
  | groupFailed (s : Scene κ σ) (group : String) (error : BenchError) (answer : Answer) :
    LeadsTo suite (s.visit (.groupFailed group error) answer)
      ((suite.groupFailed group error).run s).2.state
  | tearDown (s : Scene κ σ) (answer : Answer) :
    LeadsTo suite (s.visit .tearDown answer) (suite.tearDown.run s).2.state

/-- Calls that lead from one state of the suite to another, each from the state that the call before
left. -/
inductive Linked (suite : Suite κ σ) : σ → List (Visit κ σ) → σ → Prop
  | nil (a : σ) : Linked suite a [] a
  | cons {v : Visit κ σ} {log : List (Visit κ σ)} {b c : σ} :
    LeadsTo suite v b → Linked suite b log c → Linked suite v.state (v :: log) c

variable {suite : Suite κ σ} {clock : Clock} {operation : Operation σ} {s t : Scene κ σ}
  {log log' : List (Visit κ σ)} {index : Nat}

namespace Linked

variable {a b c : σ}

theorem append (h : Linked suite a log b) (h' : Linked suite b log' c) :
    Linked suite a (log ++ log') c := by
  induction h with
  | nil _ => exact h'
  | cons left _ ih => exact .cons left (ih h')

theorem split (h : Linked suite a (log ++ log') c) :
    ∃ b, Linked suite a log b ∧ Linked suite b log' c := by
  induction log generalizing a with
  | nil => exact ⟨a, .nil a, h⟩
  | cons v log ih =>
    cases h with
    | cons left rest =>
      obtain ⟨b, first, second⟩ := ih rest
      exact ⟨b, .cons left first, second⟩

/-- The state that a later call finds is the one that the calls before it lead to. -/
theorem state_eq {v : Visit κ σ} (h : Linked suite a (v :: log) c) : a = v.state := by
  cases h
  rfl

/-- What every call keeps, the calls together keep. -/
theorem keeps {P : σ → Prop} (h : Linked suite a log b)
    (kept : ∀ v ∈ log, ∀ c, LeadsTo suite v c → P v.state → P c) (holds : P a) : P b := by
  induction h with
  | nil _ => exact holds
  | cons left _ ih =>
    refine ih (fun v mem => kept v (List.mem_cons_of_mem _ mem)) ?_
    exact kept _ List.mem_cons_self _ left holds

/-! ## Single calls -/

theorem visit {x : CodeWith ε κ σ α} {answer : Except ε α} {call : Call} {told : Answer}
    (found : s.state = a) (entered : x.run s = (answer, t))
    (left : LeadsTo suite (s.visit call told) (x.run s).2.state) :
    Linked suite a [s.visit call told] t.state := by
  have same : (x.run s).2.state = t.state := congrArg (·.2.state) entered
  rw [same] at left
  rw [← found]
  exact .cons left (.nil _)

theorem invocation {x : Work ε σ α} {answer : Except ε α} {call : Call} {told : Answer}
    (called : (ofWork x : CodeWith ε κ σ α).run s = (answer, t))
    (left : LeadsTo suite (s.invocation call told) (x.run (s.state, s.world)).2.1) :
    Linked suite s.state [s.invocation call told] t.state := by
  have same : (x.run (s.state, s.world)).2.1 = t.state := congrArg (·.2.state) called
  rw [same] at left
  exact .cons left (.nil _)

/-- Steps of the engine between calls are no part of the chain. -/
theorem followed (h : Linked suite a log b) (same : c = b) : Linked suite a log c := by
  rw [same]
  exact h

end Linked

/-! ## Walks -/

theorem CallsWalk.linked {place n : Nat} {answer : Except Stop Unit}
    (walk : CallsWalk operation place n s log answer t) (declared : Declares suite operation) :
    Linked suite s.state log t.state := by
  induction walk with
  | none => exact .nil _
  | next called _ ih => exact (Linked.invocation called (.operation _ _ _ declared)).append ih
  | stop called => exact .invocation called (.operation _ _ _ declared)

theorem StartWalk.linked {run : Run} {answer : Except Stop Unit}
    (walk : StartWalk suite run s log answer t) : Linked suite s.state log t.state := by
  cases walk with
  | single _ => exact .nil _
  | several _ start entered =>
    subst start
    exact .visit rfl entered (.runStarts _ _ _)

theorem FailureWalk.linked {group : String} {error : BenchError} {ended : Bool}
    {answer : Except Stop Unit} (walk : FailureWalk suite group error ended s log answer t) :
    Linked suite s.state log t.state := by
  cases walk with
  | crashed start told =>
    subst start
    exact .visit rfl told (.groupFailed _ _ _ _)
  | told start told same =>
    subst start
    have first := Linked.visit rfl told (.groupFailed _ _ _ .returned)
    exact first.followed same.state
  | ended start told closed _ same =>
    subst start
    have first := Linked.visit rfl told (.groupFailed _ _ _ .returned)
    exact (first.append (.visit rfl closed (.groupEnds _ _ _))).followed same.state
  | halted start told closed _ =>
    subst start
    have first := Linked.visit rfl told (.groupFailed _ _ _ .returned)
    exact first.append (.visit rfl closed (.groupEnds _ _ _))

theorem SetUpWalk.linked {answer : Except Stop Unit} (walk : SetUpWalk suite s log answer t) :
    Linked suite s.state log t.state := by
  cases walk with
  | noDirectory _ => exact .nil _
  | refused _ start entered _ =>
    subst start
    exact .visit rfl entered (.setUp _ _)
  | halted _ start entered _ =>
    subst start
    exact .visit rfl entered (.setUp _ _)
  | ready _ start entered =>
    subst start
    exact .visit rfl entered (.setUp _ _)

theorem SetUpWalk.linked_declared {window : Window κ} {s' u : Scene κ σ}
    {answer : Except Crash (List (Operation σ))} {told : Answer}
    (same : (s.adjusted (·.advance window.start)).SameButNotes s')
    (setUp : SetUpWalk suite s' log (.ok ()) t)
    (declared : (ofWork suite.operations : CodeWith Crash κ σ _).run t = (answer, u)) :
    Linked suite s.state (log ++ [t.invocation .operations told]) u.state := by
  have ready := setUp.linked
  rw [same.state] at ready
  exact ready.append (.invocation declared (.operations _ _))

section Groups

variable [Arithmetic κ] (declared : Declares suite operation)

include declared

theorem RepetitionWalk.linked {run : Run} {calls : Nat} {place : BatchPlace} {window : Window κ}
    {answer : Except Stop Measurement}
    (walk : RepetitionWalk suite clock operation run calls place window s log answer t) :
    Linked suite s.state log t.state := by
  cases walk with
  | refused start entered =>
    subst start
    exact .visit rfl entered (.repetitionStarts _ _ _ _)
  | stopped start entered same batch =>
    subst start
    have first := Linked.visit rfl entered (.repetitionStarts _ _ _ .returned)
    exact (first.followed same.state).append (batch.linked declared)
  | measured start entered same batch last =>
    subst start
    have first := Linked.visit rfl entered (.repetitionStarts _ _ _ .returned)
    exact ((first.followed same.state).append (batch.linked declared)).followed last.state

theorem RepetitionsWalk.linked {run : Run} {calls : Nat} {place : BatchPlace}
    {windows : List (Window κ)} {answer : Except Stop (List Measurement)}
    (walk : RepetitionsWalk suite clock operation run calls place windows s log answer t) :
    Linked suite s.state log t.state := by
  induction walk with
  | none => exact .nil _
  | stop walk => exact walk.linked declared
  | next walk _ ih => exact (walk.linked declared).append ih

theorem RunWalk.linked {run : Run} {place : BatchPlace} {window : Window κ}
    {answer : Except Stop Unit}
    (walk : RunWalk suite clock operation run place window s log answer t) :
    Linked suite s.state log t.state := by
  cases walk with
  | refused start => exact start.linked
  | stopped start walk => exact start.linked.append (walk.linked declared)
  | ended start walk _ same entered =>
    exact start.linked.append
      ((walk.linked declared).append (.visit same.state entered (.runEnds _ _ _)))

theorem RunsWalk.linked {place : BatchPlace} {rs : List (Run × Window κ)} {answer : Except Stop Unit}
    (walk : RunsWalk suite clock operation place rs s log answer t) :
    Linked suite s.state log t.state := by
  induction walk with
  | none => exact .nil _
  | stop walk => exact walk.linked declared
  | next walk _ ih => exact (walk.linked declared).append ih

theorem BodyWalk.linked {window : Window κ} {answer : Except Stop Nat}
    (walk : BodyWalk suite clock operation index window s log answer t) :
    Linked suite s.state log t.state := by
  cases walk with
  | refused same entered =>
    exact .visit same.state entered (.groupStarts _ _ _)
  | started same entered walk =>
    exact (Linked.visit same.state entered (.groupStarts _ _ _)).append (walk.linked declared)

theorem OutcomeWalk.linked {window : Window κ} {answer : Except Stop Bool}
    (walk : OutcomeWalk suite clock operation index window s log answer t) :
    Linked suite s.state log t.state := by
  cases walk with
  | halted body _ => exact body.linked declared
  | failed body _ failure => exact (body.linked declared).append failure.linked
  | endHalted body ended _ =>
    exact (body.linked declared).append (.visit rfl ended (.groupEnds _ _ _))
  | endFailed body ended _ failure =>
    exact (body.linked declared).append
      ((Linked.visit rfl ended (.groupEnds _ _ _)).append failure.linked)
  | completed body ended same =>
    exact ((body.linked declared).append (.visit rfl ended (.groupEnds _ _ _))).followed same.state

theorem GroupWalk.linked {window : Window κ} {answer : Except Stop Bool}
    (walk : GroupWalk suite clock operation index window s log answer t) :
    Linked suite s.state log t.state := by
  cases walk with
  | stop walk => exact walk.linked declared
  | finished walk =>
    have group := walk.linked declared
    exact group

end Groups

variable [Arithmetic κ]

theorem GroupsWalk.linked {summary : Summary} {list : List (Operation σ × Window κ)}
    {answer : Except Stop Summary} (declared : ∀ o ∈ list, Declares suite o.1)
    (walk : GroupsWalk suite clock index summary list s log answer t) :
    Linked suite s.state log t.state := by
  induction walk with
  | none => exact .nil _
  | stop walk => exact walk.linked (declared _ List.mem_cons_self)
  | next walk _ ih =>
    have rest := ih fun o mem => declared o (List.mem_cons_of_mem _ mem)
    exact (walk.linked (declared _ List.mem_cons_self)).append rest

/-- The operations that are exercised are those that the suite declared. -/
theorem declares_of_scheduled {operations : List (Operation σ)} {window : Window κ}
    (declared : (ofWork suite.operations : CodeWith Crash κ σ _).run s = (.ok operations, t)) :
    ∀ o ∈ scheduled window operations, Declares suite o.1 := by
  have answered : (suite.operations.run (s.state, s.world)).1 = .ok operations :=
    congrArg Prod.fst declared
  exact fun o mem => ⟨_, operations, answered, mem_of_mem_scheduled mem⟩

theorem SuiteWalk.linked {window : Window κ} {answer : Except Stop Summary}
    (walk : SuiteWalk suite clock window s log answer t) : Linked suite s.state log t.state := by
  cases walk with
  | unready same setUp =>
    have ready := setUp.linked
    rw [same.state] at ready
    exact ready
  | undeclared same setUp declared => exact setUp.linked_declared same declared
  | halted same setUp declared walk =>
    rw [List.append_cons]
    exact (setUp.linked_declared same declared).append (walk.linked (declares_of_scheduled declared))
  | crashed same setUp declared walk ended =>
    have groups := walk.linked (declares_of_scheduled declared)
    rw [List.append_cons]
    exact (setUp.linked_declared same declared).append
      (groups.append (.visit rfl ended (.tearDown _ _)))
  | finished same setUp declared walk ended _ last =>
    have groups := walk.linked (declares_of_scheduled declared)
    rw [List.append_cons]
    exact (setUp.linked_declared same declared).append
      ((groups.append (.visit rfl ended (.tearDown _ _))).followed last.state)

/-- The calls of every run are linked. -/
theorem linked_calls (suite : Suite κ σ) (clock : Clock) (window : Window κ) (s : Scene κ σ) :
    Linked suite s.state (calls suite clock window s) ((run suite clock window).run s).2.state :=
  (walk_calls suite clock window s).linked

end Microbench.Engine
