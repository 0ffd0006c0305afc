import Microbench.Proofs.Binary64.Signs
import Microbench.Proofs.Engine.Terminated

/-!
# The measurements of a run

A run that is over carries the statistics of its own repetitions and of no others. How many there
were, and of how many calls, was settled when the run began: whatever hooks do to the knobs during a
run is for the runs after it.

* `Measured`: the calls by which a run was measured and what was made of them.
* `ended_runs_measured`: every run that a suite is ever told of as measured was measured so, even if
  the engine does not come back.
-/

namespace Microbench

variable {κ σ : Type}

/-! ## What is made of a run -/

/-- The statistics of a run at a place whose knobs were these when it began. -/
structure Statistics (clock : Clock) (place : BatchPlace) (run : Run) (knobs : Knobs) (done : Run) :
    Prop where
  name_eq : done.name = run.name
  scaling_eq : done.scaling = run.scaling
  repetitions_pos : 1 ≤ knobs.repetitions
  calls_pos : 1 ≤ knobs.calls
  /-- A run that was offered with statistics keeps them. -/
  kept : ∀ st, run.statistics = some st → done.statistics = some st
  /-- Otherwise they are those of one measurement for each repetition. -/
  computed : run.statistics = none → ∃ ms : List Measurement, ∃ st,
    ms.length = knobs.repetitions ∧
      (∀ j (h : j < ms.length), ms[j] =
        ⟨run.scaling.apply (clock { place with repetition := j }), knobs.calls⟩) ∧
      st = RunStatistics.ofMeasurements ms ∧ done.statistics = some st ∧
      st.repetitions = knobs.repetitions ∧
      0 ≤ st.duration ∧ st.duration ≠ RunStatistics.unknownDuration ∧
      0 ≤ st.average ∧ st.average ≠ RunStatistics.unknownDuration

theorem statistics_timed (clock : Clock) (place : BatchPlace) (run : Run) (knobs : Knobs) :
    Statistics clock place run knobs (run.timed clock place knobs) where
  name_eq := rfl
  scaling_eq := rfl
  repetitions_pos := knobs.repetitions_pos
  calls_pos := knobs.calls_pos
  kept st had := by
    unfold Run.timed Run.complete
    rw [had]
    rfl
  computed none := by
    let ms := (List.range knobs.repetitions).map fun r =>
      (⟨run.scaling.apply (clock { place with repetition := r }), knobs.calls⟩ : Measurement)
    have length : ms.length = knobs.repetitions := by simp [ms]
    have some : ms ≠ [] := List.ne_nil_of_length_pos (length ▸ knobs.repetitions_pos)
    obtain ⟨duration, average⟩ := RunStatistics.ofMeasurements_nonneg some
    have known : ∀ n : Int, 0 ≤ n → n ≠ RunStatistics.unknownDuration := by
      intro n nonneg
      unfold RunStatistics.unknownDuration
      omega
    refine ⟨ms, _, length, fun j h => by simp [ms], rfl, ?_, ?_, duration, known _ duration, average,
      known _ average⟩
    · unfold Run.timed Run.complete
      rw [none]
      rfl
    · rw [RunStatistics.repetitions_ofMeasurements, length]

/-- How a run was measured: its calls, of which the first sees the knobs, and its statistics. -/
structure Measured (clock : Clock) (place : BatchPlace) (run : Run) (knobs : Knobs)
    (during : List (Visit κ σ)) (done : Run) : Prop where
  startsWith : StartsWith knobs during
  carried : Carried (runBody run place.group knobs) during none
  statistics : Statistics clock place run knobs done

/-! ## Plans that come to their last call -/

theorem Carried.split_last {plan : List Call} {last : Call} {log : List (Visit κ σ)}
    {reason? : Option (Call × Stop)} (carried : Carried (plan ++ [last]) log reason?) :
    (∃ reason, Carried plan log (some reason)) ∨
      ∃ during closing, log = during ++ [closing] ∧ Carried plan during none ∧ closing.call = last := by
  induction plan generalizing log with
  | nil =>
    cases carried with
    | next made returned rest =>
      cases rest
      exact .inr ⟨[], _, rfl, .done, made⟩
    | stop made stopped => exact .inr ⟨[], _, rfl, .done, made⟩
  | cons call plan ih =>
    cases carried with
    | next made returned rest =>
      rcases ih rest with ⟨reason, carried⟩ | ⟨during, closing, rfl, carried, last⟩
      · exact .inl ⟨reason, .next made returned carried⟩
      · exact .inr ⟨_ :: during, closing, rfl, .next made returned carried, last⟩
    | stop made stopped => exact .inl ⟨_, .stop made stopped⟩

theorem runBody_ne_nil (run : Run) (place : Nat) (knobs : Knobs) : runBody run place knobs ≠ [] := by
  have first : Call.repetitionStarts run 0 ∈ runBody run place knobs :=
    List.mem_append_right _ (List.mem_flatMap.mpr
      ⟨0, List.mem_range.mpr knobs.repetitions_pos, List.mem_cons_self⟩)
  exact List.ne_nil_of_mem first

theorem StartsWith.of_append {knobs : Knobs} {log log' : List (Visit κ σ)}
    (h : StartsWith knobs (log ++ log')) (some : log ≠ []) : StartsWith knobs log := by
  obtain ⟨v, rest, c, split, seen, same⟩ := h
  cases log with
  | nil => exact absurd rfl some
  | cons first log =>
    cases split
    exact ⟨v, log, c, rfl, seen, same⟩

/-! ## Runs that end -/

/-- An entry of two lists in a row is in the first or in the second. -/
theorem split_append {α : Type} {log log' before after : List α} {closing : α}
    (split : log ++ log' = before ++ closing :: after) :
    (∃ rest, log = before ++ closing :: rest) ∨
      ∃ rest, before = log ++ rest ∧ log' = rest ++ closing :: after := by
  rcases List.append_eq_append_iff.mp split with ⟨rest, rfl, later⟩ | ⟨rest, rfl, later⟩
  · exact .inr ⟨rest, rfl, later⟩
  · cases rest with
    | nil => exact .inr ⟨[], by simp, later.symm⟩
    | cons v rest =>
      cases later
      exact .inl ⟨rest, rfl⟩

theorem mem_or_last {α : Type} {during before after : List α} {last closing : α}
    (split : during ++ [last] = before ++ closing :: after) :
    closing ∈ during ∨ before = during ∧ closing = last := by
  rcases List.eq_nil_or_concat after with rfl | ⟨rest, last', rfl⟩
  · obtain ⟨same, ends⟩ := List.append_inj' split rfl
    cases ends
    exact .inr ⟨same.symm, rfl⟩
  · have split : during ++ [last] = (before ++ closing :: rest) ++ [last'] := by simpa using split
    rw [(List.append_inj' split rfl).1]
    exact .inl (List.mem_append_right _ List.mem_cons_self)

/-- Whether a group starts with a call. -/
def Call.startsGroup : Call → Bool
  | .groupStarts _ => true
  | _ => false

/-- How many groups start in some calls. -/
def groupStarts (log : List (Visit κ σ)) : Nat := log.countP (·.call.startsGroup)

/-- After some calls a run is over that was offered at the last start of a group among them. Groups
are counted from `first`. -/
def MeasuredAfter (clock : Clock) (first : Nat) (before : List (Visit κ σ)) (done : Run) : Prop :=
  ∃ (early between during : List (Visit κ σ)) (start : Visit κ σ) (group : String) (rs : List Run)
    (i : Nat) (run : Run) (knobs : Knobs),
    before = early ++ start :: (between ++ during) ∧ groupStarts (between ++ during) = 0 ∧
      start.call = .groupStarts group ∧ start.answer = .runs rs ∧ rs[i]? = some run ∧
      Measured clock ⟨first + groupStarts early, i, 0⟩ run knobs during done

/-- The calls start some groups, and every run that is over with one of them was measured. -/
structure EndsMeasured (clock : Clock) (first groups : Nat) (log : List (Visit κ σ)) : Prop where
  count : groupStarts log = groups
  ends : ∀ before closing after done, log = before ++ closing :: after →
    closing.call = .runEnds done → MeasuredAfter clock first before done

theorem MeasuredAfter.later {clock : Clock} {first : Nat} {log before : List (Visit κ σ)} {done : Run}
    (h : MeasuredAfter clock (first + groupStarts log) before done) :
    MeasuredAfter clock first (log ++ before) done := by
  obtain ⟨early, between, during, start, group, rs, i, run, knobs, rfl, inner, started, offered, chosen,
    measured⟩ := h
  refine ⟨log ++ early, between, during, start, group, rs, i, run, knobs,
    (List.append_assoc _ _ _).symm, inner, started, offered, chosen, ?_⟩
  rw [groupStarts, List.countP_append, ← Nat.add_assoc]
  exact measured

/-- A call at which neither a group starts nor a run ends. -/
def Call.IsInner (call : Call) : Prop := call.ended? = none ∧ call.startsGroup = false

theorem groupStarts_of_inner {log : List (Visit κ σ)} (inner : ∀ v ∈ log, v.call.IsInner) :
    groupStarts log = 0 :=
  List.countP_eq_zero.mpr fun v mem => by simp [(inner v mem).2]

namespace EndsMeasured

variable {clock : Clock} {first groups more : Nat} {log log' : List (Visit κ σ)}

theorem of_inner (inner : ∀ v ∈ log, v.call.IsInner) : EndsMeasured clock first 0 log where
  count := groupStarts_of_inner inner
  ends before closing after done split ends := by
    have none := (inner closing (split ▸ List.mem_append_right _ List.mem_cons_self)).1
    rw [ends] at none
    cases none

theorem append (h : EndsMeasured clock first groups log)
    (h' : EndsMeasured clock (first + groups) more log') :
    EndsMeasured clock first (groups + more) (log ++ log') where
  count := by rw [groupStarts, List.countP_append, ← groupStarts, ← groupStarts, h.count, h'.count]
  ends before closing after done split ends := by
    rcases split_append split with ⟨rest, earlier⟩ | ⟨rest, rfl, later⟩
    · exact h.ends before closing rest done earlier ends
    · refine MeasuredAfter.later ?_
      rw [h.count]
      exact h'.ends rest closing after done later ends

end EndsMeasured

theorem inner_of_mem_runBody {run : Run} {place : Nat} {knobs : Knobs} {call : Call}
    (mem : call ∈ runBody run place knobs) : call.IsInner := by
  refine ⟨ended?_of_mem_runBody mem, ?_⟩
  unfold runBody at mem
  rcases List.mem_append.mp mem with start | later
  · split at start
    · rw [List.mem_singleton.mp start]
      rfl
    · cases start
  · obtain ⟨r, _, mem⟩ := List.mem_flatMap.mp later
    rcases List.mem_cons.mp mem with rfl | mem
    · rfl
    · rw [List.eq_of_mem_replicate mem]
      rfl

namespace Engine

open CodeWith Scene

variable [Arithmetic κ] {suite : Suite κ σ} {clock : Clock} {operation : Operation σ}
  {s t : Scene κ σ} {log : List (Visit κ σ)} {index : Nat}

/-- If a run comes to its end, what was called before belongs to its measurement. -/
theorem RunWalk.measured {run : Run} {i : Nat} {window : Window κ} {answer : Except Stop Unit}
    (walk : RunWalk suite clock operation run ⟨index, i, 0⟩ window s log answer t) :
    groupStarts log = 0 ∧ ∀ before closing after done, log = before ++ closing :: after →
      closing.call = .runEnds done →
        Measured clock ⟨index, i, 0⟩ run s.context.knobs before done := by
  obtain ⟨reason?, carried⟩ : ∃ reason?,
      Carried (runPlan clock run ⟨index, i, 0⟩ s.context.knobs) log reason? := by
    rcases walk.kept with ⟨carried, _⟩ | ⟨call, e, carried, _⟩
    · exact ⟨_, carried⟩
    · exact ⟨_, carried⟩
  rw [runPlan_eq] at carried
  rcases carried.split_last with ⟨reason, carried⟩ | ⟨during, last, rfl, body, made⟩
  · have inner : ∀ v ∈ log, v.call.IsInner := fun v mem =>
      inner_of_mem_runBody (carried.call_mem v mem)
    refine ⟨groupStarts_of_inner inner, fun before closing after done split ends => ?_⟩
    have none := (inner closing (split ▸ List.mem_append_right _ List.mem_cons_self)).1
    rw [ends] at none
    cases none
  · have inner : ∀ v ∈ during, v.call.IsInner := fun v mem =>
      inner_of_mem_runBody (body.call_mem v mem)
    constructor
    · rw [groupStarts, List.countP_append, ← groupStarts, groupStarts_of_inner inner,
        List.countP_singleton, made]
      rfl
    · intro before closing after done split ends
      rcases mem_or_last split with mem | ⟨rfl, rfl⟩
      · have none := (inner closing mem).1
        rw [ends] at none
        cases none
      · have same : done = run.timed clock ⟨index, i, 0⟩ s.context.knobs := by
          rw [made] at ends
          cases ends
          rfl
        have some : before ≠ [] := by
          rintro rfl
          have plan := body.map_call
          exact runBody_ne_nil _ _ _ plan.symm
        exact ⟨walk.startsWith.of_append some, body, same ▸ statistics_timed _ _ _ _⟩

theorem RunsWalk.measured {i : Nat} {rs : List (Run × Window κ)} {answer : Except Stop Unit}
    (walk : RunsWalk suite clock operation ⟨index, i, 0⟩ rs s log answer t) :
    groupStarts log = 0 ∧ ∀ before closing after done, log = before ++ closing :: after →
      closing.call = .runEnds done → ∃ between during j run knobs, before = between ++ during ∧
        (rs.map (·.1))[j]? = some run ∧ Measured clock ⟨index, i + j, 0⟩ run knobs during done := by
  generalize at' : BatchPlace.mk index i 0 = place at walk
  induction walk generalizing i with
  | none => exact ⟨rfl, fun before closing after done split _ => by simp at split⟩
  | stop walk =>
    subst at'
    obtain ⟨count, measured⟩ := walk.measured
    refine ⟨count, fun before closing after done split ends => ?_⟩
    exact ⟨[], before, 0, _, _, rfl, rfl, measured before closing after done split ends⟩
  | next walk later ih =>
    subst at'
    obtain ⟨count, measured⟩ := walk.measured
    obtain ⟨count', measured'⟩ := ih rfl
    constructor
    · rw [groupStarts, List.countP_append, ← groupStarts, ← groupStarts, count, count']
    · intro before closing after done split ends
      rcases split_append split with ⟨rest, first⟩ | ⟨rest, rfl, second⟩
      · exact ⟨[], before, 0, _, _, rfl, rfl, measured before closing rest done first ends⟩
      · obtain ⟨between, during, j, run, knobs, rfl, chosen, holds⟩ :=
          measured' rest closing after done second ends
        refine ⟨_ ++ between, during, j + 1, run, knobs, (List.append_assoc _ _ _).symm, chosen, ?_⟩
        rwa [show i + (j + 1) = i + 1 + j by omega]

/-! ## Groups and suites -/

theorem BodyWalk.ends {window : Window κ} {answer : Except Stop Nat}
    (walk : BodyWalk suite clock operation index window s log answer t) :
    EndsMeasured clock index 1 log := by
  cases walk with
  | refused _ _ =>
    refine ⟨rfl, fun before closing after done split ends => ?_⟩
    rcases @mem_or_last _ [] _ _ _ _ split with none | ⟨-, rfl⟩
    · cases none
    · cases ends
  | @started _ _ _ rs log _ _ _ walk =>
    have lengths : rs.length ≤ (window.split rs.length).length :=
      Nat.le_of_eq (Window.length_split _ _).symm
    obtain ⟨count, measured⟩ := walk.measured
    rw [List.map_fst_zip lengths] at measured
    constructor
    · rw [groupStarts, List.countP_cons, ← groupStarts, count]
      rfl
    · intro before closing after done split ends
      cases before with
      | nil =>
        cases split
        cases ends
      | cons start before =>
        obtain ⟨rfl, inside⟩ := List.cons.inj split
        obtain ⟨between, during, j, run, knobs, rfl, chosen, holds⟩ :=
          measured before closing after done inside ends
        rw [Nat.zero_add] at holds
        have inner : groupStarts (between ++ during) = 0 := by
          rw [groupStarts, inside] at count
          exact Nat.eq_zero_of_add_eq_zero_right ((List.countP_append ..).symm.trans count)
        exact ⟨[], between, during, _, operation.name, rs, j, run, knobs, rfl, inner, rfl, rfl, chosen,
          holds⟩

omit [Arithmetic κ] in
theorem FailureWalk.inner {group : String} {error : BenchError} {ended : Bool}
    {answer : Except Stop Unit} (walk : FailureWalk suite group error ended s log answer t) :
    ∀ v ∈ log, v.call.IsInner := by
  cases walk with
  | crashed _ _ => exact List.forall_mem_singleton.mpr ⟨rfl, rfl⟩
  | told _ _ _ => exact List.forall_mem_singleton.mpr ⟨rfl, rfl⟩
  | ended _ _ _ _ _ =>
    exact List.forall_mem_cons.mpr ⟨⟨rfl, rfl⟩, List.forall_mem_singleton.mpr ⟨rfl, rfl⟩⟩
  | halted _ _ _ _ =>
    exact List.forall_mem_cons.mpr ⟨⟨rfl, rfl⟩, List.forall_mem_singleton.mpr ⟨rfl, rfl⟩⟩

theorem OutcomeWalk.ends {window : Window κ} {answer : Except Stop Bool}
    (walk : OutcomeWalk suite clock operation index window s log answer t) :
    EndsMeasured clock index 1 log := by
  cases walk with
  | halted body _ => exact body.ends
  | failed body _ failure => exact body.ends.append (.of_inner failure.inner)
  | endHalted body _ _ =>
    exact body.ends.append (.of_inner (List.forall_mem_singleton.mpr ⟨rfl, rfl⟩))
  | endFailed body _ _ failure =>
    exact body.ends.append (.of_inner (List.forall_mem_cons.mpr ⟨⟨rfl, rfl⟩, failure.inner⟩))
  | completed body _ _ =>
    exact body.ends.append (.of_inner (List.forall_mem_singleton.mpr ⟨rfl, rfl⟩))

theorem GroupWalk.ends {window : Window κ} {answer : Except Stop Bool}
    (walk : GroupWalk suite clock operation index window s log answer t) :
    EndsMeasured clock index 1 log := by
  cases walk with
  | stop walk => exact walk.ends
  | finished walk => exact walk.ends

theorem GroupsWalk.ends {summary : Summary} {list : List (Operation σ × Window κ)}
    {answer : Except Stop Summary}
    (walk : GroupsWalk suite clock index summary list s log answer t) :
    ∃ groups, EndsMeasured clock index groups log := by
  induction walk with
  | none => exact ⟨0, .of_inner (List.forall_mem_nil _)⟩
  | stop walk => exact ⟨1, walk.ends⟩
  | next walk _ ih =>
    obtain ⟨groups, later⟩ := ih
    exact ⟨1 + groups, walk.ends.append later⟩

omit [Arithmetic κ] in
theorem SetUpWalk.inner {answer : Except Stop Unit} (walk : SetUpWalk suite s log answer t) :
    ∀ v ∈ log, v.call.IsInner := by
  cases walk with
  | noDirectory _ => exact List.forall_mem_nil _
  | refused _ _ _ _ => exact List.forall_mem_singleton.mpr ⟨rfl, rfl⟩
  | halted _ _ _ _ => exact List.forall_mem_singleton.mpr ⟨rfl, rfl⟩
  | ready _ _ _ => exact List.forall_mem_singleton.mpr ⟨rfl, rfl⟩

theorem SuiteWalk.ends {window : Window κ} {answer : Except Stop Summary}
    (walk : SuiteWalk suite clock window s log answer t) :
    ∃ groups, EndsMeasured clock 0 groups log := by
  have declared : ∀ v : Visit κ σ, v.call = .operations → EndsMeasured clock 0 0 [v] :=
    fun v same => .of_inner (List.forall_mem_singleton.mpr (by rw [same]; exact ⟨rfl, rfl⟩))
  have closed : ∀ first, ∀ v : Visit κ σ, v.call = .tearDown → EndsMeasured clock first 0 [v] :=
    fun _ v same => .of_inner (List.forall_mem_singleton.mpr (by rw [same]; exact ⟨rfl, rfl⟩))
  cases walk with
  | unready _ setUp => exact ⟨0, .of_inner setUp.inner⟩
  | undeclared _ setUp _ => exact ⟨0, (EndsMeasured.of_inner setUp.inner).append (declared _ rfl)⟩
  | halted _ setUp _ walk =>
    obtain ⟨groups, ends⟩ := walk.ends
    exact ⟨_, (EndsMeasured.of_inner setUp.inner).append ((declared _ rfl).append ends)⟩
  | crashed _ setUp _ walk _ =>
    obtain ⟨groups, ends⟩ := walk.ends
    exact ⟨_, (EndsMeasured.of_inner setUp.inner).append
      ((declared _ rfl).append (ends.append (closed _ _ rfl)))⟩
  | finished _ setUp _ walk _ _ _ =>
    obtain ⟨groups, ends⟩ := walk.ends
    exact ⟨_, (EndsMeasured.of_inner setUp.inner).append
      ((declared _ rfl).append (ends.append (closed _ _ rfl)))⟩

/-- Each run that is over with a call was measured under the knobs that were set when it began, whatever
the suite does and even if the engine does not come back. Unless a hook puts another context in the
place of its own, every run that a context ever shows as measured was there before or is over with a
call. -/
theorem ended_runs_measured (suite : Suite κ σ) (clock : Clock) (window : Window κ) (s : Scene κ σ) :
    (suite.KeepsContext → Shown s (calls suite clock window s) ((run suite clock window).run s).2) ∧
      ∀ before closing after done, calls suite clock window s = before ++ closing :: after →
        closing.call = .runEnds done → MeasuredAfter clock 0 before done := by
  have walk := walk_calls suite clock window s
  obtain ⟨groups, measured⟩ := walk.ends
  exact ⟨walk.shown, measured.ends⟩

/-- A suite whose run starts and repetitions change the knobs under way. -/
def restless : Suite Float Unit where
  operations := pure [⟨"only", pure ()⟩]
  groupStarts _ := pure [.named "one", .named "two"]
  runStarts _ := CodeWith.adjust fun c => { c with knobs := (c.knobs.withCalls 3).withRepetitions 1 }

theorem keepsContext_restless : restless.KeepsContext :=
  { Suite.keepsContext_default restless.operations with
    runStarts := fun _ => keepsContext_adjust fun k => (k.withCalls 3).withRepetitions 1 }

/-- What the first run does to the knobs is for the second one. -/
theorem ended_runs_measured_restless :
    Shown unevenStart (calls restless (fun _ => 0) .full unevenStart)
        ((run restless (fun _ => 0) .full).run unevenStart).2 ∧
      ((calls restless (fun _ => 0) .full unevenStart).filterMap Visit.ended?).map
        (fun done => done.statistics.map (·.repetitions)) = [some 2, some 1] ∧
      ∃ before closing after done, calls restless (fun _ => 0) .full unevenStart =
          before ++ closing :: after ∧ closing.call = .runEnds done ∧
        MeasuredAfter (fun _ => 0) 0 before done := by
  obtain ⟨shown, measured⟩ := ended_runs_measured restless (fun _ => 0) .full unevenStart
  have repetitions : ((calls restless (fun _ => 0) .full unevenStart).filterMap Visit.ended?).map
      (fun done => done.statistics.map (·.repetitions)) = [some 2, some 1] := by decide +kernel
  have some : 0 < ((calls restless (fun _ => 0) .full unevenStart).filterMap Visit.ended?).length := by
    rw [← List.length_map, repetitions]
    decide
  obtain ⟨done, mem⟩ := List.exists_mem_of_length_pos some
  obtain ⟨closing, mem, ends⟩ := List.mem_filterMap.mp mem
  obtain ⟨before, after, split⟩ := List.append_of_mem mem
  have made : closing.call = .runEnds done := by
    unfold Visit.ended? at ends
    split at ends
    · cases ends
      assumption
    · cases ends
  exact ⟨shown keepsContext_restless, repetitions, before, closing, after, done, split, made,
    measured before closing after done split made⟩

end Engine

end Microbench
