import Microbench.Proofs.Recording.Memory

/-!
# Recorded suites that list their calls

A recorded suite can be made to list every call of its code: what was called, all that the callee was
shown, and what came of it (`RecordedSuite.noticed`). Its hooks and operations keep the list in the
suite's own state, so it tells what calls reach the suite, whoever makes them.

* `RecordedSuite.Overlooks.noticed`: nothing that a suite overlooks is in the list.
* `paired_noticed`, `paired_noticed_inMemory`: listing changes nothing of what a recorded suite does,
  beside its recorder or with one in memory.
* `Served.noticed`: nor does it make a call fail.
-/

namespace Microbench

open CodeWith Scene

variable {ε κ σ α β : Type}

/-- A call that was made of a recorded suite. -/
structure Notice (κ σ : Type) where
  /-- Determining runs is what a suite does when a group starts. -/
  call : Call
  /-- What the callee saw of the context; operations see none. -/
  context : Option ((String × String × Properties) × (Option Run × List Run) × κ × Knobs)
  /-- What it saw of the recorder, if it was given one. -/
  recorder : Option RecorderView
  state : σ
  answer : Answer

/-- The state of a suite that lists its calls, and the list. -/
abbrev Noticed (κ σ : Type) := σ × List (Notice κ σ)

/-- The call of code that sees the context. -/
def Scene.notice (s : Scene κ σ) (call : Call) (recorder : Option RecorderView) (answer : Answer) :
    Notice κ σ :=
  ⟨call, some (s.context.fixed, s.context.view), recorder, s.state, answer⟩

/-- The scene of a suite that has listed some calls. -/
def Scene.noticing (s : Scene κ σ) (past : List (Notice κ σ)) : Scene κ (Noticed κ σ) :=
  { s with state := (s.state, past) }

/-- Code that lists its call. -/
def Code.noticed (call : Call) (value : α → Answer) (x : Code κ σ α) : Code κ (Noticed κ σ) α :=
  fun s =>
    let before := s.along Prod.fst
    let (answer, after) := x.run before
    (answer, after.noticing (s.state.2 ++ [before.notice call none (.of id value answer)]))

/-- Work that lists its call. -/
def Work.noticed (call : Call) (stop : ε → Stop) (value : α → Answer) (x : Work ε σ α) :
    Work ε (Noticed κ σ) α := fun ((state, past), world) =>
  let (answer, state', world') := x.run (state, world)
  (answer, (state', past ++ [⟨call, none, none, state, .of stop value answer⟩]), world')

/-- An operation that lists its calls. -/
def Operation.noticed (place : Nat) (o : Operation σ) : Operation (Noticed κ σ) where
  name := o.name
  call := Work.noticed (.operation place) id (fun _ => .returned) o.call

/-- A computation that lists its call when it is done. -/
def Dictation.noticed (notice : Except Stop α → Notice κ σ) (past : List (Notice κ σ)) :
    Dictation κ σ α → Dictation κ (Noticed κ σ) α
  | done answer s => done answer (s.noticing (past ++ [notice answer]))
  | row cells s next => row cells (s.noticing past) fun answer view t =>
    (next answer view (t.along Prod.fst)).noticed notice t.state.2

/-- Code that may ask for rows and lists its call. -/
def Recorded.noticed (call : Call) (value : α → Answer) (x : Recorded κ σ α) :
    Recorded κ (Noticed κ σ) α := fun view s =>
  let before := s.along Prod.fst
  (x view before).noticed (fun answer => before.notice call (some view) (.of id value answer))
    s.state.2

/-- A recorded suite that lists the calls that are made of it. -/
def RecordedSuite.noticed (inner : RecordedSuite κ σ) : RecordedSuite κ (Noticed κ σ) where
  title s := inner.title s.1
  headers s := inner.headers s.1
  setUp := Code.noticed .setUp (fun _ => .returned) inner.setUp
  operations := fun s =>
    let (answer, t) := (Work.noticed .operations Stop.crash Operation.names inner.operations).run s
    (answer.map (·.mapIdx Operation.noticed), t)
  determineRuns group := Code.noticed (.groupStarts group) .runs (inner.determineRuns group)
  runStarts run := Code.noticed (.runStarts run) (fun _ => .returned) (inner.runStarts run)
  repetitionStarts run repetition :=
    Code.noticed (.repetitionStarts run repetition) (fun _ => .returned)
      (inner.repetitionStarts run repetition)
  runEnds run := Recorded.noticed (.runEnds run) (fun _ => .returned) (inner.runEnds run)
  groupEnds group := Recorded.noticed (.groupEnds group) (fun _ => .returned) (inner.groupEnds group)
  tearDown := Code.noticed .tearDown (fun _ => .returned) inner.tearDown

/-! ## What is overlooked is not listed -/

section Overlooked

variable {D : Disk → Disk → Prop} {s t : Scene κ σ}

theorem notice_eq (alike : Alike (Overlooking D) s t) (call : Call) (recorder : Option RecorderView)
    {a b : Answer} (same : b = a) : t.notice call recorder b = s.notice call recorder a := by
  have fixed : t.context.fixed = s.context.fixed := alike.backdrop.fixed
  have state : t.state = s.state := alike.backdrop.state
  unfold Scene.notice
  rw [fixed, alike.view, state, same]

theorem Overlooking.noticing (alike : Alike (Overlooking D) s t) {past past' : List (Notice κ σ)}
    (same : past' = past) : Alike (Overlooking D) (s.noticing past) (t.noticing past') where
  view := alike.view
  backdrop :=
    { fixed := alike.backdrop.fixed
      state := Prod.ext alike.backdrop.state same
      world := alike.backdrop.world
      disks := alike.backdrop.disks }

theorem Overlooking.alone {s t : Scene κ (Noticed κ σ)} (alike : Alike (Overlooking D) s t) :
    Alike (Overlooking D) (s.along Prod.fst) (t.along Prod.fst) where
  view := alike.view
  backdrop :=
    { fixed := alike.backdrop.fixed
      state := congrArg Prod.fst alike.backdrop.state
      world := alike.backdrop.world
      disks := alike.backdrop.disks }

theorem past_eq {s t : Scene κ (Noticed κ σ)} (alike : Alike (Overlooking D) s t) :
    t.state.2 = s.state.2 :=
  congrArg Prod.snd alike.backdrop.state

theorem mirrors_noticed {x : Code κ σ α} (h : Mirrors (Overlooking D) x x) (call : Call)
    (value : α → Answer) :
    Mirrors (Overlooking D) (Code.noticed call value x) (Code.noticed call value x) := by
  intro s t alike
  obtain ⟨reached, ends⟩ := h _ _ (Overlooking.alone alike)
  have listed := notice_eq (Overlooking.alone alike) call none
    (congrArg (Answer.of id value) ends.eq)
  have same : t.state.2 ++ [_] = s.state.2 ++ [_] :=
    congrArg₂ (fun past v => past ++ [v]) (past_eq alike) listed
  exact ⟨Overlooking.noticing reached same, ends⟩

theorem Dictation.Overlooks.noticed {x y : Dictation κ σ α} (h : Dictation.Overlooks D x y)
    {notice notice' : Except Stop α → Notice κ σ} (same : notice' = notice)
    (past : List (Notice κ σ)) :
    Dictation.Overlooks D (x.noticed notice past) (y.noticed notice' past) := by
  subst same
  induction h generalizing past with
  | done alike => exact .done (Overlooking.noticing alike rfl)
  | row alike _ ih =>
    refine .row (Overlooking.noticing alike rfl) fun answer view u v alike' => ?_
    rw [past_eq alike']
    exact ih answer view _ _ (Overlooking.alone alike') u.state.2

theorem Recorded.Overlooks.noticed {x : Recorded κ σ α} (h : x.Overlooks D) (call : Call)
    (value : α → Answer) : (Recorded.noticed call value x).Overlooks D := by
  intro view s t alike
  have seen := Overlooking.alone alike
  unfold Recorded.noticed
  rw [past_eq alike]
  refine (h view _ _ seen).noticed (funext fun answer => ?_) s.state.2
  exact notice_eq seen call (some view) rfl

theorem mirrors_noticed_work {x : Work ε σ α} (h : Mirrors (Overlooking D)
      (ofWork x : CodeWith ε κ σ α) (ofWork x)) (call : Call) (stop : ε → Stop) (value : α → Answer) :
    Mirrors (Overlooking D) (ofWork (Work.noticed (κ := κ) call stop value x) : CodeWith ε κ _ α)
      (ofWork (Work.noticed call stop value x)) := by
  intro s t alike
  obtain ⟨reached, ends⟩ := h _ _ (Overlooking.alone alike)
  have answers := congrArg (Answer.of stop value) ends.eq
  have state : t.state.1 = s.state.1 := congrArg Prod.fst alike.backdrop.state
  have listed := congrArg₂ (fun state a => (⟨call, none, none, state, a⟩ : Notice κ σ)) state answers
  have same : t.state.2 ++ [_] = s.state.2 ++ [_] :=
    congrArg₂ (fun past v => past ++ [v]) (past_eq alike) listed
  exact ⟨Overlooking.noticing reached same, ends⟩

/-- What a suite overlooks it still overlooks when it lists its calls. -/
theorem RecordedSuite.Overlooks.noticed {inner : RecordedSuite κ σ} (h : inner.Overlooks D) :
    inner.noticed.Overlooks D where
  setUp := mirrors_noticed h.setUp _ _
  operations := by
    intro s t alike
    obtain ⟨reached, ends⟩ :=
      mirrors_noticed_work h.operations .operations Stop.crash Operation.names s t alike
    refine ⟨reached, .of_eq ?_⟩
    have declared : ∀ s : Scene κ (Noticed κ σ),
        ((ofWork inner.noticed.operations : CodeWith Crash κ _ _).run s).1 =
          ((ofWork (Work.noticed .operations Stop.crash Operation.names inner.operations) :
            CodeWith Crash κ (Noticed κ σ) _).run s).1.map (·.mapIdx Operation.noticed) :=
      fun _ => rfl
    rw [declared, declared, ends.eq]
  calls := by
    rintro ⟨⟨state, past⟩, world⟩ os declared o mem
    have step : (inner.noticed.operations.run ((state, past), world)).1 =
      (inner.operations.run (state, world)).1.map (·.mapIdx Operation.noticed) := rfl
    rw [step] at declared
    cases first : (inner.operations.run (state, world)).1 with
    | error c =>
      rw [first] at declared
      cases declared
    | ok os₀ =>
      rw [first] at declared
      cases declared
      obtain ⟨i, inside, rfl⟩ := List.mem_mapIdx.mp mem
      exact mirrors_noticed_work (h.calls _ os₀ first _ (List.getElem_mem inside)) _ _ _
  determineRuns group := mirrors_noticed (h.determineRuns group) _ _
  runStarts run := mirrors_noticed (h.runStarts run) _ _
  repetitionStarts run repetition := mirrors_noticed (h.repetitionStarts run repetition) _ _
  runEnds run := (h.runEnds run).noticed _ _
  groupEnds group := (h.groupEnds group).noticed _ _
  tearDown := mirrors_noticed h.tearDown _ _

end Overlooked

/-! ## Listing changes nothing else -/

namespace Recording

/-- The state of a suite beside something else, without the list. -/
def unlisted {ρ : Type} (p : Noticed κ σ × ρ) : σ × ρ := (p.1.1, p.2)

section Covers

variable {inner : RecordedSuite κ σ}

theorem covers_beside {ρ : Type} {x : CodeWith ε κ (Noticed κ σ) α} {z : CodeWith ε κ σ α}
    (h : Covers Prod.fst x z) :
    Covers (κ := κ) (unlisted (ρ := ρ)) (project Prod.fst (fun t s => (s, t.2)) x)
      (project Prod.fst (fun t s => (s, t.2)) z) := by
  refine .of_run fun t => ?_
  have ran := h.run (t.along Prod.fst)
  exact run_project (s := t.along unlisted) ran

theorem covers_noticed (call : Call) (value : α → Answer) (x : Code κ σ α) :
    Covers Prod.fst (Code.noticed call value x) x :=
  .of_run fun _ => rfl

/-! ### The recorder -/

theorem covers_described (x : σ → Except Payload α) :
    Covers (κ := κ) unlisted (described fun s : Noticed κ σ => x s.1) (described x) := by
  refine .of_run fun t => ?_
  cases told : x t.state.1.1 with
  | ok a => rw [run_described (s := t.along unlisted) told, run_described told]
  | error p => rw [run_described_of_panic (s := t.along unlisted) told, run_described_of_panic told]

theorem covers_recorder (f : Recorder → Disk → Except RecordFailure Unit × Recorder × Disk) :
    Covers (κ := κ) (unlisted (κ := κ) (σ := σ)) (recorder f) (recorder f) :=
  .of_run fun _ => rfl

theorem covers_orThrow (a : Except RecordFailure Unit) :
    Covers (κ := κ) (unlisted (κ := κ) (σ := σ)) (orThrow a) (orThrow a) := by
  cases a with
  | ok _ => exact .pure rfl
  | error e => exact .throw _

theorem covers_openGroup (group : String) :
    Covers (κ := κ) unlisted (openGroup inner.noticed group) (openGroup inner group) := by
  refine .context fun c => Agree.andThen (covers_described inner.title) fun title => ?_
  refine Agree.andThen (covers_described inner.headers) fun headers => ?_
  refine Agree.andThen (covers_recorder _) fun opened => ?_
  exact Agree.andThen (covers_orThrow opened) fun _ => Covers.note _

/-- Listing changes neither what is written nor what comes of it. -/
theorem perform_noticed (x : Dictation κ σ α) (notice : Except Stop α → Notice κ σ)
    (past : List (Notice κ σ)) (r : Recorder) :
    ((x.noticed notice past).perform r).1 = (x.perform r).1 ∧
      ((x.noticed notice past).perform r).2.1 = (x.perform r).2.1 ∧
      ((x.noticed notice past).perform r).2.2.along Prod.fst = (x.perform r).2.2 := by
  induction x generalizing past r with
  | done answer s => exact ⟨rfl, rfl, rfl⟩
  | row cells s next ih =>
    rcases asked : r.write cells s.world.disk with ⟨a, r', d⟩
    rw [perform_row asked]
    unfold Dictation.noticed
    have asked' : r.write cells (s.noticing past).world.disk = (a, r', d) := asked
    rw [perform_row asked']
    exact ih a r'.view _ past r'

theorem covers_dictated (call : Call) (value : α → Answer) (x : Recorded κ σ α) :
    Covers unlisted (dictated (Recorded.noticed call value x)) (dictated x) := by
  refine .of_run fun t => ?_
  let before := (t.along Prod.fst).along Prod.fst
  let notice answer := before.notice call (some t.state.2.view) (.of id value answer)
  have same := perform_noticed (x t.state.2.view before) notice t.state.1.2 t.state.2
  rcases performed : (x t.state.2.view before).perform t.state.2 with ⟨a, r, u⟩
  rcases listed : ((x t.state.2.view before).noticed notice t.state.1.2).perform t.state.2 with
    ⟨a', r', u'⟩
  rw [performed, listed] at same
  obtain ⟨rfl, rfl, rfl⟩ := same
  have ran : (dictated (Recorded.noticed call value x)).run t = _ := run_dictated listed
  rw [ran, run_dictated (s := t.along unlisted) performed]
  rfl

theorem covers_closeGroup (group : String) :
    Covers (κ := κ) unlisted (closeGroup inner.noticed group) (closeGroup inner group) := by
  refine .of_run fun t => ?_
  have asked : (dictated (inner.groupEnds group)).run (t.along unlisted) =
      (((dictated (inner.noticed.groupEnds group)).run t).1,
        ((dictated (inner.noticed.groupEnds group)).run t).2.along unlisted) :=
    (covers_dictated (.groupEnds group) (fun _ => .returned) (inner.groupEnds group)).run t
  have closing : Covers (κ := κ) (unlisted (κ := κ) (σ := σ))
      (do orThrow (← recorder Recorder.close)) (do orThrow (← recorder Recorder.close)) :=
    Agree.andThen (covers_recorder Recorder.close) covers_orThrow
  rw [run_closeGroup_eq, run_closeGroup_eq, asked]
  rcases (dictated (inner.noticed.groupEnds group)).run t with ⟨a, u⟩
  cases a with
  | ok _ => exact closing.run u
  | error e => cases e <;> rfl

theorem covers_keepReport (group : String) (e : BenchError) :
    Covers (κ := κ) (unlisted (κ := κ) (σ := σ)) (keepReport group e) (keepReport group e) := by
  refine .of_run fun t => ?_
  rcases written : (Access.writeReport (Path.join t.context.outputDirectory (reportName group))
    e.report).run t.world.disk with ⟨a, d⟩
  cases a with
  | ok _ =>
    rw [run_keepReport_of_written written, run_keepReport_of_written (s := t.along unlisted) written]
    rfl
  | error _ =>
    rw [run_keepReport_of_refused written, run_keepReport_of_refused (s := t.along unlisted) written]
    rfl

theorem covers_closeAll :
    Covers (κ := κ) unlisted (closeAll inner.noticed) (closeAll inner) := by
  refine Agree.andThen (covers_recorder Recorder.close) fun closed => ?_
  refine Agree.andThen (covers_beside (covers_noticed _ _ inner.tearDown)) fun _ => ?_
  exact covers_orThrow closed

/-- Operations that list their calls, beside something else. -/
theorem paired_noticed_operations {ρ : Type} (os : List (Microbench.Operation σ))
    (place : Nat → Nat) :
    List.Forall₂ (fun o o' =>
        (Operation.project (τ := Noticed κ σ × ρ) Prod.fst (fun t s => (s, t.2)) o).Paired
          (Along (κ := κ) unlisted) (Operation.project Prod.fst (fun t s => (s, t.2)) o'))
      (os.mapIdx fun i => Operation.noticed (κ := κ) (place i)) os := by
  induction os generalizing place with
  | nil => exact .nil
  | cons o os ih =>
    rw [List.mapIdx_cons]
    exact .cons ⟨rfl, Covers.of_run fun _ => rfl⟩ (ih fun i => place (i + 1))

/-- The operations that are declared beside something else, listing their calls or not. -/
theorem concur_declared {ρ : Type} (inner : RecordedSuite κ σ) (p : Noticed κ σ) (w : World) :
    Concur (List.Forall₂ (Operation.Paired (Along (κ := κ) (unlisted (κ := κ) (ρ := ρ)))))
      ((inner.noticed.operations.run (p, w)).1.map
        (·.map (·.project Prod.fst fun t s => (s, t.2))))
      ((inner.operations.run (p.1, w)).1.map (·.map (·.project Prod.fst fun t s => (s, t.2)))) := by
  have listed : (inner.noticed.operations.run (p, w)).1 =
    (inner.operations.run (p.1, w)).1.map (·.mapIdx Operation.noticed) := rfl
  rw [listed]
  cases (inner.operations.run (p.1, w)).1 with
  | error c => exact .stopped
  | ok os =>
    refine .returned ?_
    rw [List.forall₂_map_left_iff, List.forall₂_map_right_iff]
    exact paired_noticed_operations os id

/-- A suite that lists its calls does the same beside its recorder. -/
theorem paired_noticed (inner : RecordedSuite κ σ) :
    PairedLives (fun _ => True) (Along unlisted) (Along unlisted) (suite inner.noticed)
      (suite inner) where
  setUp := (covers_beside (covers_noticed _ _ inner.setUp)).called
  operations := by
    rintro t _ rfl
    exact ⟨rfl, concur_declared inner t.state.1 t.world⟩
  groupStarts group _ := by
    have started : Covers unlisted ((suite inner.noticed).groupStarts group)
        ((suite inner).groupStarts group) :=
      Agree.andThen (covers_openGroup group) fun _ =>
        covers_beside (covers_noticed _ _ (inner.determineRuns group))
    exact .of_agree (started.mono (fun _ _ => id)
      fun _ _ same => ⟨same.symm, fun _ _ => trivial⟩)
  runStarts run _ := (covers_beside (covers_noticed _ _ (inner.runStarts run))).called
  repetitionStarts run repetition _ :=
    (covers_beside (covers_noticed _ _ (inner.repetitionStarts run repetition))).called
  runEnds run statistics _ := (covers_dictated _ _ (inner.runEnds _)).called
  groupEnds group _ := (covers_closeGroup group).called
  groupFailed group e _ := (covers_keepReport group e).called
  tearDown := covers_closeAll.called

/-! ### The ledger -/

theorem jot_noticed (x : Dictation κ σ α) (notice : Except Stop α → Notice κ σ)
    (past : List (Notice κ σ)) (l : Ledger) :
    (jot l (x.noticed notice past)).1 = (jot l x).1 ∧
      (jot l (x.noticed notice past)).2.1 = (jot l x).2.1 ∧
      (jot l (x.noticed notice past)).2.2.along Prod.fst = (jot l x).2.2 := by
  induction x generalizing past l with
  | done answer s => exact ⟨rfl, rfl, rfl⟩
  | row cells s next ih => exact ih (l.write cells).1 (l.write cells).2.view _ past (l.write cells).2

theorem covers_jotted (call : Call) (value : α → Answer) (x : Recorded κ σ α) :
    Covers unlisted (jotted (Recorded.noticed call value x)) (jotted x) := by
  refine .of_run fun t => ?_
  let before := (t.along Prod.fst).along Prod.fst
  let notice answer := before.notice call (some t.state.2.view) (.of id value answer)
  have same := jot_noticed (x t.state.2.view before) notice t.state.1.2 t.state.2
  rcases performed : jot t.state.2 (x t.state.2.view before) with ⟨a, l, u⟩
  rcases listed : jot t.state.2 ((x t.state.2.view before).noticed notice t.state.1.2) with
    ⟨a', l', u'⟩
  rw [performed, listed] at same
  obtain ⟨rfl, rfl, rfl⟩ := same
  have ran : (jotted (Recorded.noticed call value x)).run t = _ := run_jotted listed
  rw [ran, run_jotted (t := t.along unlisted) performed]
  rfl

/-- A suite that lists its calls does the same with a recorder in memory. -/
theorem paired_noticed_inMemory (inner : RecordedSuite κ σ) :
    PairedLives (fun _ => True) (Along unlisted) (Along unlisted) (inMemory inner.noticed)
      (inMemory inner) where
  setUp := (covers_beside (covers_noticed _ _ inner.setUp)).called
  operations := by
    rintro t _ rfl
    exact ⟨rfl, concur_declared inner t.state.1 t.world⟩
  groupStarts group _ := by
    have turned : Covers (κ := κ) (unlisted (κ := κ) (σ := σ)) (turnTo ⟨some []⟩)
      (turnTo ⟨some []⟩) := .of_run fun _ => rfl
    have started : Covers unlisted ((inMemory inner.noticed).groupStarts group)
        ((inMemory inner).groupStarts group) :=
      Agree.andThen turned fun _ => covers_beside (covers_noticed _ _ (inner.determineRuns group))
    exact .of_agree (started.mono (fun _ _ => id)
      fun _ _ same => ⟨same.symm, fun _ _ => trivial⟩)
  runStarts run _ := (covers_beside (covers_noticed _ _ (inner.runStarts run))).called
  repetitionStarts run repetition _ :=
    (covers_beside (covers_noticed _ _ (inner.repetitionStarts run repetition))).called
  runEnds run statistics _ := (covers_jotted _ _ (inner.runEnds _)).called
  groupEnds group _ := by
    refine Covers.called (.of_run fun t => ?_)
    have asked : (jotted (inner.groupEnds group)).run (t.along unlisted) =
        (((jotted (inner.noticed.groupEnds group)).run t).1,
          ((jotted (inner.noticed.groupEnds group)).run t).2.along unlisted) :=
      (covers_jotted (.groupEnds group) (fun _ => .returned) (inner.groupEnds group)).run t
    rw [run_groupEnds_inMemory, run_groupEnds_inMemory, asked]
    rcases (jotted (inner.noticed.groupEnds group)).run t with ⟨a, u⟩
    cases a with
    | ok _ => rfl
    | error e => cases e <;> rfl
  groupFailed group e _ := Covers.called (.of_run fun _ => rfl)
  tearDown := (covers_beside (covers_noticed _ _ inner.tearDown)).called

end Covers

/-! ## Listing fails no file -/

section Served

variable {D : Disk → Disk → Prop} {inner : RecordedSuite κ σ}

theorem Written.noticed {x : Dictation κ σ α} {r : Recorder} (written : Written D r x)
    (notice : Except Stop α → Notice κ σ) (past : List (Notice κ σ)) :
    Written D r (x.noticed notice past) := by
  induction x generalizing r past with
  | done answer s => trivial
  | row cells s next ih =>
    rcases asked : r.write cells s.world.disk with ⟨a, r', d⟩
    obtain ⟨smooth, later⟩ := written.row asked
    unfold Dictation.noticed Written
    have asked' : r.write cells (s.noticing past).world.disk = (a, r', d) := asked
    rw [asked']
    exact ⟨smooth, ih a r'.view _ later past⟩

/-- A call is served if the call that it stands for is served in a suite that lists nothing. -/
theorem Served.noticed {v : Visit κ (State (Noticed κ σ))}
    (served : Served D inner (v.along unlisted)) : Served D inner.noticed v := by
  obtain ⟨call, context, state, world, answer⟩ := v
  cases context with
  | none => cases call <;> exact served
  | some c =>
    cases call with
    | runEnds run => exact Written.noticed served _ _
    | groupEnds group =>
      let before : Scene κ σ := ⟨state.1.1, c, world⟩
      let notice (answer : Except Stop Unit) :=
        before.notice (.groupEnds group) (some state.2.view) (.of id (fun _ => .returned) answer)
      have same := perform_noticed (inner.groupEnds group state.2.view before) notice state.1.2 state.2
      rcases performed : (inner.groupEnds group state.2.view before).perform state.2 with ⟨a, r, u⟩
      obtain ⟨written, closes⟩ :=
        Served.groupEnds (s := ⟨(state.1.1, state.2), c, world⟩) served performed
      rw [performed] at same
      have closes' : ∀ done, ((inner.groupEnds group state.2.view before).noticed notice
          state.1.2).perform state.2 = done → Microbench.Calm done.1 →
            Smooth D Recorder.close done.2.1 done.2.2.world.disk := by
        rintro ⟨a', r', u'⟩ listed calm
        rw [listed] at same
        obtain ⟨rfl, rfl, rfl⟩ := same
        exact closes calm
      exact ⟨written.noticed notice state.1.2, closes' _ rfl⟩
    | _ => exact served

end Served

end Recording

end Microbench
