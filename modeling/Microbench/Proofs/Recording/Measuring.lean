import Microbench.Proofs.Recording.Hooks

/-!
# Measuring beside a recorder

Between the start of a group and its end the engine measures runs. For a recorded suite that keeps
its context this leaves the recorder and the files as they were, and the context gains the runs that
the suite was told of: `Measures`.
-/

namespace Microbench

variable {ε κ σ α : Type}

/-! ## What calls tell -/

/-- The error that a call says a group failed with. -/
def Visit.failure? (v : Visit κ σ) : Option BenchError :=
  match v.call with
  | .groupFailed _ e => some e
  | _ => none

/-- The load of the machine when a call ends a group. -/
def Visit.load? (v : Visit κ σ) : Option Float :=
  match v.call with
  | .groupEnds _ => some v.world.host.load
  | _ => none

/-- A call that says nothing of a run or group that is over. -/
structure Visit.Silent (v : Visit κ σ) : Prop where
  ended : v.ended? = none
  failure : v.failure? = none
  load : v.load? = none

namespace Recording

open CodeWith Scene Engine

/-- What changes between two scenes while a group measures its runs. -/
structure Measures (s : Scene κ (State σ)) (log : List (Visit κ (State σ)))
    (t : Scene κ (State σ)) : Prop where
  recorder : t.state.2 = s.state.2
  disk : s.world.disk.Untouched t.world.disk
  directory : t.context.outputDirectory = s.context.outputDirectory
  terminated : t.context.terminated = s.context.terminated ++ log.filterMap Visit.ended?
  failures : log.filterMap Visit.failure? = []
  loads : log.filterMap Visit.load? = []

namespace Measures

variable {s t u : Scene κ (State σ)} {log log' : List (Visit κ (State σ))}

theorem of_same (same : SameButNotes s t) : Measures s [] t where
  recorder := by rw [same.state]
  disk := by
    rw [same.disk]
    exact .refl _
  directory := by rw [same.context]
  terminated := by rw [same.context, List.filterMap_nil, List.append_nil]
  failures := rfl
  loads := rfl

theorem refl (s : Scene κ (State σ)) : Measures s [] s := of_same (.refl s)

theorem trans (h : Measures s log t) (h' : Measures t log' u) : Measures s (log ++ log') u where
  recorder := h'.recorder.trans h.recorder
  disk := h.disk.trans h'.disk
  directory := h'.directory.trans h.directory
  terminated := by rw [h'.terminated, h.terminated, List.filterMap_append, List.append_assoc]
  failures := by rw [List.filterMap_append, h.failures, h'.failures, List.append_nil]
  loads := by rw [List.filterMap_append, h.loads, h'.loads, List.append_nil]

/-- Changes of the context that concern neither the directory nor the measured runs. -/
theorem adjusted {f : Context κ → Context κ}
    (directory : ∀ c, (f c).outputDirectory = c.outputDirectory)
    (terminated : ∀ c, (f c).terminated = c.terminated) : Measures s [] (s.adjusted f) where
  recorder := rfl
  disk := .refl _
  directory := directory _
  terminated := by
    rw [List.filterMap_nil, List.append_nil]
    exact terminated _
  failures := rfl
  loads := rfl

theorem advanced (progress : κ) : Measures s [] (s.adjusted (·.advance progress)) :=
  adjusted (fun _ => rfl) (fun _ => rfl)

end Measures

/-! ## Calls -/

/-- Code that leaves the recorder and the files alone. -/
def Spares (x : CodeWith ε κ (State σ) α) : Prop :=
  ∀ s, (x.run s).2.state.2 = s.state.2 ∧ s.world.disk.Untouched (x.run s).2.world.disk

theorem spares_within {x : CodeWith ε κ σ α} (quiet : x.LeavesDisk) : Spares (within x) :=
  fun _ => run_within x quiet

theorem spares_pure (a : α) : Spares (dictated (pure a : Recorded κ σ α)) :=
  fun _ => ⟨rfl, .refl _⟩

/-- A call of code that spares the recorder and the files and keeps its context. -/
theorem Measures.kept {x : CodeWith ε κ (State σ) α} {s t : Scene κ (State σ)} {a : Except ε α}
    (spares : Spares x) (keeps : x.KeepsContext) (entered : x.run s = (a, t))
    {v : Visit κ (State σ)} (silent : v.Silent) : Measures s [v] t := by
  have spared := spares s
  rw [entered] at spared
  have still := Still.kept keeps entered
  exact
    { recorder := spared.1
      disk := spared.2
      directory := still.directory
      terminated := by
        rw [List.filterMap_cons_none silent.ended, List.filterMap_nil, List.append_nil]
        exact still.terminated
      failures := List.filterMap_cons_none silent.failure
      loads := List.filterMap_cons_none silent.load }

/-- An operation that leaves the recorder and the files alone. -/
def SparesCalls (o : Operation (State σ)) : Prop :=
  ∀ s : State σ × World,
    (o.call.run s).2.1.2 = s.1.2 ∧ s.2.disk.Untouched (o.call.run s).2.2.disk

theorem sparesCalls_operation {o : Operation σ} (quiet : o.call.LeavesDisk) :
    SparesCalls (operation o) :=
  fun s => ⟨rfl, quiet (s.1.1, s.2)⟩

theorem Measures.called {o : Operation (State σ)} (spares : SparesCalls o) {s t : Scene κ (State σ)}
    {a : Except Stop Unit} (called : (ofWork o.call).run s = (a, t)) {v : Visit κ (State σ)}
    (silent : v.Silent) : Measures s [v] t := by
  have spared := spares (s.state, s.world)
  rw [run_ofWork] at called
  cases called
  exact
    { recorder := spared.1
      disk := spared.2
      directory := rfl
      terminated := by rw [List.filterMap_cons_none silent.ended, List.filterMap_nil, List.append_nil]
      failures := List.filterMap_cons_none silent.failure
      loads := List.filterMap_cons_none silent.load }

/-! ## Runs -/

section Walks

variable {operation : Operation (State σ)} {clock : Clock} {s t : Scene κ (State σ)}
  {log : List (Visit κ (State σ))}

theorem Measures.calls (spares : SparesCalls operation) {place n : Nat} {answer : Except Stop Unit}
    (walk : CallsWalk operation place n s log answer t) : Measures s log t := by
  induction walk with
  | none => exact .refl _
  | next called _ ih => exact (Measures.called spares called ⟨rfl, rfl, rfl⟩).trans ih
  | stop called => exact .called spares called ⟨rfl, rfl, rfl⟩

/-- The hooks of a suite that are called while runs are measured. -/
structure Calm (suite : Suite κ (State σ)) : Prop where
  runStarts : ∀ run, Spares (suite.runStarts run)
  repetitionStarts : ∀ run repetition, Spares (suite.repetitionStarts run repetition)
  runEnds : ∀ run, Spares (suite.runEnds run)

variable {suite : Suite κ (State σ)} (calm : Calm suite) (keeps : suite.KeepsContext)

include calm keeps

theorem Measures.start {run : Run} {answer : Except Stop Unit}
    (walk : StartWalk suite run s log answer t) : Measures s log t := by
  cases walk with
  | single _ => exact .adjusted (fun _ => rfl) (fun _ => rfl)
  | several _ start entered =>
    have current : Measures s [] (s.adjusted fun c => { c with current := some run }) :=
      .adjusted (fun _ => rfl) (fun _ => rfl)
    rw [start] at entered ⊢
    exact current.trans (.kept (calm.runStarts run) (keeps.runStarts run) entered ⟨rfl, rfl, rfl⟩)

/-- The end of a run is told to the suite with the run among the measured ones. -/
theorem Measures.ended {done : Run} {s' : Scene κ (State σ)}
    {answer : Except Stop Unit} {result : Answer}
    (same : SameButNotes (s.adjusted (measured done)) s')
    (entered : (suite.runEnds done).run s' = (answer, t)) :
    Measures s [s'.visit (.runEnds done) result] t := by
  have spared := calm.runEnds done s'
  rw [entered] at spared
  have still := Still.kept (keeps.runEnds done) entered
  exact
    { recorder := by
        rw [spared.1, same.state]
        rfl
      disk := by
        have untouched := spared.2
        rw [same.disk] at untouched
        exact untouched
      directory := by
        rw [still.directory, same.context]
        rfl
      terminated := by
        rw [still.terminated, same.context]
        rfl
      failures := rfl
      loads := rfl }

variable [Arithmetic κ]

theorem Measures.repetition (spares : SparesCalls operation) {run : Run}
    {calls : Nat} {place : BatchPlace} {window : Window κ} {answer : Except Stop Measurement}
    (walk : RepetitionWalk suite clock operation run calls place window s log answer t) :
    Measures s log t := by
  have spares' := calm.repetitionStarts run place.repetition
  have keeps' := keeps.repetitionStarts run place.repetition
  cases walk with
  | refused start entered =>
    subst start
    exact (advanced _).trans (.kept spares' keeps' entered ⟨rfl, rfl, rfl⟩)
  | stopped start entered same walk =>
    subst start
    exact (advanced _).trans ((Measures.kept spares' keeps' entered ⟨rfl, rfl, rfl⟩).trans
      ((of_same same).trans (.calls spares walk)))
  | measured start entered same walk same' =>
    subst start
    have measured := (Measures.calls spares walk).trans ((advanced _).trans (of_same same'))
    rw [List.nil_append, List.append_nil] at measured
    exact (advanced _).trans ((Measures.kept spares' keeps' entered ⟨rfl, rfl, rfl⟩).trans
      ((of_same same).trans measured))

theorem Measures.repetitions (spares : SparesCalls operation) {run : Run}
    {calls : Nat} {place : BatchPlace} {windows : List (Window κ)}
    {answer : Except Stop (List Measurement)}
    (walk : RepetitionsWalk suite clock operation run calls place windows s log answer t) :
    Measures s log t := by
  induction walk with
  | none => exact .refl _
  | stop walk => exact .repetition calm keeps spares walk
  | next walk _ ih => exact (Measures.repetition calm keeps spares walk).trans ih

theorem Measures.oneRun (spares : SparesCalls operation) {run : Run}
    {place : BatchPlace} {window : Window κ} {answer : Except Stop Unit}
    (walk : RunWalk suite clock operation run place window s log answer t) : Measures s log t := by
  cases walk with
  | refused start => exact .start calm keeps start
  | stopped start walk =>
    exact (Measures.start calm keeps start).trans (.repetitions calm keeps spares walk)
  | ended start walk _ same entered =>
    exact (Measures.start calm keeps start).trans
      ((Measures.repetitions calm keeps spares walk).trans (.ended calm keeps same entered))

/-- Whatever runs were measured, the context has those that the suite was told of. -/
theorem Measures.runs (spares : SparesCalls operation) {place : BatchPlace}
    {rs : List (Run × Window κ)} {answer : Except Stop Unit}
    (walk : RunsWalk suite clock operation place rs s log answer t) : Measures s log t := by
  induction walk with
  | none => exact .refl _
  | stop walk => exact .oneRun calm keeps spares walk
  | next walk _ ih => exact (Measures.oneRun calm keeps spares walk).trans ih

end Walks

theorem calm_suite {inner : RecordedSuite κ σ} (standard : inner.Standard) : Calm (suite inner) where
  runStarts := fun run => spares_within (standard.runStarts run)
  repetitionStarts := fun run repetition => spares_within (standard.repetitionStarts run repetition)
  runEnds := by
    intro run
    have hook : (suite inner).runEnds run = dictated (pure ()) := by
      change dictated (inner.runEnds run) = _
      rw [standard.runEnds]
    rw [hook]
    exact spares_pure ()

end Recording

end Microbench
