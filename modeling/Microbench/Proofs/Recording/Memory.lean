import Microbench.Proofs.Engine.Covers
import Microbench.Proofs.Recording.Aloof

/-!
# Recorders in memory

The hooks of a recorded suite are also those of a plain suite whose recorder is a list of rows in
memory (`Recording.inMemory`). The two suites do the same as long as the files of the first do not
fail it: whatever its hooks ask for, they are told the same, and what is written is nothing that the
suite looks at.

* `RecordedSuite.Overlooks`: a suite that makes nothing of some differences between disks.
* `Recording.Served`: a call during which no work on the files fails.
* `Recording.paired_inMemory`: as long as its calls are served, a recorded suite does the same as with
  a recorder in memory.
-/

namespace Microbench

open CodeWith Scene

variable {ε κ σ α β : Type}

/-! ## What a suite overlooks -/

/-- Backdrops that differ at most in their disks, and in these only by what is overlooked. -/
structure Overlooking (D : Disk → Disk → Prop) (b b' : Backdrop σ) : Prop extends Beside b b' where
  disks : D b.world.disk b'.world.disk

/-- Two computations that ask for the same rows and end in the same way, if they are told the same. -/
inductive Dictation.Overlooks (D : Disk → Disk → Prop) : Dictation κ σ α → Dictation κ σ α → Prop
  | done {s t : Scene κ σ} {answer : Except Stop α} :
    Alike (Overlooking D) s t → Overlooks D (done answer s) (done answer t)
  | row {s t : Scene κ σ} {cells : List String}
      {next next' : Except RecordFailure Unit → RecorderView → Scene κ σ → Dictation κ σ α} :
    Alike (Overlooking D) s t →
    (∀ answer view u v, Alike (Overlooking D) u v →
      Overlooks D (next answer view u) (next' answer view v)) →
    Overlooks D (row cells s next) (row cells t next')

/-- Code that asks for rows and makes nothing of what is overlooked. -/
def Recorded.Overlooks (D : Disk → Disk → Prop) (x : Recorded κ σ α) : Prop :=
  ∀ view s t, Alike (Overlooking D) s t → Dictation.Overlooks D (x view s) (x view t)

/-- A recorded suite that makes nothing of some differences between disks. What it writes itself may
only differ by these. Only a suite that looked at its own record files could tell a recorder from a
list in memory, and this is what it must not do. -/
structure RecordedSuite.Overlooks (D : Disk → Disk → Prop) (inner : RecordedSuite κ σ) : Prop where
  setUp : Mirrors (Overlooking D) inner.setUp inner.setUp
  operations : Mirrors (Overlooking D)
    (ofWork inner.operations : CodeWith Crash κ σ (List (Operation σ))) (ofWork inner.operations)
  calls : ∀ s os, (inner.operations.run s).1 = .ok os → ∀ o ∈ os,
    Mirrors (Overlooking D) (ofWork o.call : Code κ σ Unit) (ofWork o.call)
  determineRuns : ∀ group,
    Mirrors (Overlooking D) (inner.determineRuns group) (inner.determineRuns group)
  runStarts : ∀ run, Mirrors (Overlooking D) (inner.runStarts run) (inner.runStarts run)
  repetitionStarts : ∀ run repetition, Mirrors (Overlooking D) (inner.repetitionStarts run repetition)
    (inner.repetitionStarts run repetition)
  runEnds : ∀ run, (inner.runEnds run).Overlooks D
  groupEnds : ∀ group, (inner.groupEnds group).Overlooks D
  tearDown : Mirrors (Overlooking D) inner.tearDown inner.tearDown

/-! An aloof suite overlooks all differences between disks. -/

/-- Any two disks. -/
def Disk.Whatever (_ _ : Disk) : Prop := True

section Whatever

variable {s t : Scene κ σ}

theorem Overlooking.of_beside (alike : Alike Beside s t) : Alike (Overlooking Disk.Whatever) s t :=
  ⟨alike.view, alike.backdrop, trivial⟩

theorem Overlooking.to_beside (alike : Alike (Overlooking Disk.Whatever) s t) : Alike Beside s t :=
  ⟨alike.view, alike.backdrop.toBeside⟩

theorem CodeWith.Aloof.mirrors {x : CodeWith ε κ σ α} (aloof : x.Aloof) :
    Mirrors (Overlooking Disk.Whatever) x x := by
  intro s t alike
  obtain ⟨reached, ends⟩ := aloof.blind s t (Overlooking.to_beside alike)
  exact ⟨Overlooking.of_beside reached, ends⟩

theorem Dictation.Matches.overlooks {x y : Dictation κ σ α} (h : Dictation.Matches s t x y) :
    Dictation.Overlooks Disk.Whatever x y := by
  induction h with
  | done stroll => exact .done (Overlooking.of_beside stroll.alike)
  | row stroll _ ih =>
    exact .row (Overlooking.of_beside stroll.alike) fun answer view u v alike =>
      ih answer view u v (Overlooking.to_beside alike)

theorem Recorded.Aloof.overlooks {x : Recorded κ σ α} (aloof : x.Aloof) :
    x.Overlooks Disk.Whatever :=
  fun view s t alike => (aloof view s t (Overlooking.to_beside alike)).overlooks

theorem RecordedSuite.Aloof.overlooks {inner : RecordedSuite κ σ} (aloof : inner.Aloof) :
    inner.Overlooks Disk.Whatever where
  setUp := aloof.setUp.mirrors
  operations := aloof.operations.mirrors
  calls := fun s os declared o mem => (aloof.calls s os declared o mem).mirrors
  determineRuns := fun group => (aloof.determineRuns group).mirrors
  runStarts := fun run => (aloof.runStarts run).mirrors
  repetitionStarts := fun run repetition => (aloof.repetitionStarts run repetition).mirrors
  runEnds := fun run => (aloof.runEnds run).overlooks
  groupEnds := fun group => (aloof.groupEnds group).overlooks
  tearDown := aloof.tearDown.mirrors

end Whatever

/-! ## A recorder in memory -/

namespace Recording

/-- The rows of a group, if it is being recorded. -/
structure Ledger where
  rows : Option (List (List String)) := none

namespace Ledger

/-- What a hook sees of the ledger. -/
def view (l : Ledger) : RecorderView := ⟨l.rows.isSome, (l.rows.map List.length).getD 0⟩

/-- Adds a row. -/
def write (cells : List String) (l : Ledger) : Except RecordFailure Unit × Ledger :=
  match l.rows with
  | none => (.error .notOpen, l)
  | some rows => (.ok (), ⟨some (rows ++ [cells])⟩)

end Ledger

/-- Carries a computation out with a ledger. -/
def jot (l : Ledger) : Dictation κ σ α → Except Stop α × Ledger × Scene κ σ
  | .done answer scene => (answer, l, scene)
  | .row cells scene next => jot (l.write cells).2 (next (l.write cells).1 (l.write cells).2.view scene)

/-- Carries out code that may ask for rows. -/
def jotted (x : Recorded κ σ α) : Code κ (σ × Ledger) α := fun s =>
  let (answer, l, inner) := jot s.state.2 (x s.state.2.view { s with state := s.state.1 })
  (answer, { inner with state := (inner.state, l) })

/-- Code on the state beside the ledger. -/
def apart (x : CodeWith ε κ σ α) : CodeWith ε κ (σ × Ledger) α :=
  project Prod.fst (fun t s => (s, t.2)) x

/-- Takes another ledger. -/
def turnTo (l : Ledger) : Code κ (σ × Ledger) Unit :=
  modify fun s => { s with state := (s.state.1, l) }

/-- A plain suite that has the hooks of a recorded one. Its recorder is a ledger that is opened when a
group starts and closed when the end of the group returns. -/
def inMemory (inner : RecordedSuite κ σ) : Suite κ (σ × Ledger) where
  setUp := apart inner.setUp
  operations := fun (s, w) =>
    let (answer, t, w) := inner.operations.run (s.1, w)
    (answer.map (·.map (·.project Prod.fst fun t s => (s, t.2))), (t, s.2), w)
  groupStarts group := do
    turnTo ⟨some []⟩
    apart (inner.determineRuns group)
  runStarts run := apart (inner.runStarts run)
  repetitionStarts run repetition := apart (inner.repetitionStarts run repetition)
  runEnds run := jotted (inner.runEnds run)
  groupEnds group := fun s =>
    match (jotted (inner.groupEnds group)).run s with
    | (.error (.crash c), t) => (.error (.crash c), t)
    | (answer, t) => (answer, { t with state := (t.state.1, {}) })
  tearDown := apart inner.tearDown

/-! ## Calls without failures of files -/

variable {D : Disk → Disk → Prop}

/-- Work of the recorder that does not fail, and that changes nothing on the disk but what is
overlooked. -/
structure Smooth (D : Disk → Disk → Prop)
    (f : Recorder → Disk → Except RecordFailure Unit × Recorder × Disk) (r : Recorder) (d : Disk) :
    Prop where
  succeeds : ∀ e, (f r d).1 ≠ .error (.io e)
  overlooked : ∀ d', D d d' → D (f r d).2.2 d'

/-- All rows that are asked for are written. -/
def Written (D : Disk → Disk → Prop) (r : Recorder) : Dictation κ σ α → Prop
  | .done _ _ => True
  | .row cells scene next =>
    let (answer, r', disk) := r.write cells scene.world.disk
    Smooth D (Recorder.write cells) r scene.world.disk ∧
      Written D r' (next answer r'.view { scene with world := { scene.world with disk } })

theorem Written.row {r r' : Recorder} {cells : List String} {scene : Scene κ σ}
    {next : Except RecordFailure Unit → RecorderView → Scene κ σ → Dictation κ σ α}
    {answer : Except RecordFailure Unit} {disk : Disk}
    (written : Written D r (.row cells scene next))
    (asked : r.write cells scene.world.disk = (answer, r', disk)) :
    Smooth D (Recorder.write cells) r scene.world.disk ∧
      Written D r' (next answer r'.view { scene with world := { scene.world with disk } }) := by
  unfold Written at written
  rw [asked] at written
  exact written

/-- A call of a recorded suite during which no work on its files fails. -/
def Served (D : Disk → Disk → Prop) (inner : RecordedSuite κ σ) (v : Visit κ (State σ)) : Prop :=
  match v.call, v.context with
  | .groupStarts group, some c =>
    ∀ title, inner.title v.state.1 = .ok title →
    ∀ headers, inner.headers v.state.1 = .ok headers →
    Smooth D (Recorder.openAt (Path.join c.outputDirectory (recordName group)) title headers)
      v.state.2 v.world.disk
  | .runEnds run, some c =>
    Written D v.state.2 (inner.runEnds run v.state.2.view ⟨v.state.1, c, v.world⟩)
  | .groupEnds group, some c =>
    let x := inner.groupEnds group v.state.2.view ⟨v.state.1, c, v.world⟩
    Written D v.state.2 x ∧ (Microbench.Calm (x.perform v.state.2).1 →
      Smooth D Recorder.close (x.perform v.state.2).2.1 (x.perform v.state.2).2.2.world.disk)
  | .groupFailed group e, some c => ∀ d, D v.world.disk d →
    D ((Access.writeReport (Path.join c.outputDirectory (reportName group)) e.report).run
      v.world.disk).2 d
  | .tearDown, _ => Smooth D Recorder.close v.state.2 v.world.disk
  | _, _ => True

/-! A run can be asked whether its calls are served, if all differences between disks are
overlooked. -/

section Decided

variable {f : Recorder → Disk → Except RecordFailure Unit × Recorder × Disk}

instance : (answer : Except RecordFailure Unit) → Decidable (∀ e, answer ≠ .error (.io e))
  | .error (.io e) => .isFalse fun other => other e rfl
  | .error .notOpen => .isTrue nofun
  | .error (.json _) => .isTrue nofun
  | .error (.malformed _ _) => .isTrue nofun
  | .ok _ => .isTrue nofun

instance (r : Recorder) (d : Disk) : Decidable (Smooth Disk.Whatever f r d) :=
  decidable_of_iff (∀ e, (f r d).1 ≠ .error (.io e))
    ⟨fun succeeds => ⟨succeeds, fun _ _ => trivial⟩, Smooth.succeeds⟩

instance decidableWritten (r : Recorder) :
    (x : Dictation κ σ α) → Decidable (Written Disk.Whatever r x)
  | .done _ _ => .isTrue trivial
  | .row cells scene next =>
    let written := r.write cells scene.world.disk
    have later := decidableWritten written.2.1
      (next written.1 written.2.1.view { scene with world.disk := written.2.2 })
    @instDecidableAnd _ _ inferInstance later

instance : (answer : Except Stop α) → Decidable (Microbench.Calm answer)
  | .ok _ => .isTrue nofun
  | .error (.failure _) => .isTrue nofun
  | .error (.crash c) => .isFalse fun calm => calm c rfl

instance decidableDescribed (answer : Except Payload α) {p : α → Prop} [DecidablePred p] :
    Decidable (∀ a, answer = .ok a → p a) :=
  match answer with
  | .ok a =>
    decidable_of_iff (p a) ⟨fun holds _ same => Except.ok.inj same ▸ holds, fun all => all a rfl⟩
  | .error _ => .isTrue nofun

instance (inner : RecordedSuite κ σ) : DecidablePred (Served Disk.Whatever inner) :=
  fun ⟨call, shown, state, world, _⟩ =>
    match call, shown with
    | .groupStarts _, some _ => inferInstanceAs (Decidable (∀ title, inner.title state.1 = .ok title →
        ∀ headers, inner.headers state.1 = .ok headers → Smooth _ _ state.2 world.disk))
    | .runEnds _, some _ => inferInstanceAs (Decidable (Written _ _ _))
    | .groupEnds _, some _ =>
      inferInstanceAs (Decidable (_ ∧ (Microbench.Calm _ → Smooth _ _ _ _)))
    | .groupFailed _ _, some _ => .isTrue fun _ _ => trivial
    | .tearDown, _ => inferInstanceAs (Decidable (Smooth _ _ _ _))
    | .groupStarts _, none | .runEnds _, none | .groupEnds _, none | .groupFailed _ _, none
    | .setUp, _ | .operations, _ | .runStarts _, _ | .repetitionStarts _ _, _ | .operation _, _ =>
      .isTrue trivial

end Decided

/-! ## The recorder and the ledger -/

section Recorder

variable {r : Recorder} {d : Disk} {l : Ledger}

theorem close_file (r : Recorder) (d : Disk) : (r.close d).2.1 = {} := by
  rcases r with ⟨_ | f⟩
  · rfl
  · unfold Recorder.close
    dsimp only
    split <;> rfl

theorem close_answer (r : Recorder) (d : Disk) :
    (r.close d).1 = .ok () ∨ ∃ e, (r.close d).1 = .error (.io e) := by
  rcases r with ⟨_ | f⟩
  · exact .inl rfl
  · unfold Recorder.close
    dsimp only
    split
    · exact .inl rfl
    · exact .inr ⟨_, rfl⟩

theorem closed_of_smooth (smooth : Smooth D Recorder.close r d) :
    ∃ e, r.close d = (.ok (), {}, e) ∧ ∀ d', D d d' → D e d' := by
  have returned := (close_answer r d).resolve_right fun ⟨e, failed⟩ => smooth.succeeds e failed
  exact ⟨_, Prod.ext returned (Prod.ext (close_file r d) rfl), smooth.overlooked⟩

/-- No row is written before the file is open. -/
theorem rows_openRecord {path : String} {title : Option String} {headers : List String}
    {f : Access.OpenRecord} {d' : Disk}
    (opened : (Access.openRecord path title headers).run d = (.ok f, d')) : f.writer.rows = 0 := by
  obtain ⟨_, e, -, written⟩ := Access.made_of_openRecord opened
  have kept := RecordWriter.rows_writeOpening (Access.sink f.place) title headers ({}, e)
  rw [written] at kept
  exact kept

theorem openAt_answer (path : String) (title : Option String) (headers : List String)
    (r : Recorder) (d : Disk) :
    ((r.openAt path title headers d).1 = .ok () ∧
        (r.openAt path title headers d).2.1.view = ⟨true, 0⟩) ∨
      ∃ e, (r.openAt path title headers d).1 = .error (.io e) := by
  unfold Recorder.openAt
  rcases closed : r.close d with ⟨answer, r', e⟩
  have ends := close_answer r d
  rw [closed] at ends
  cases answer with
  | error x => exact .inr (ends.resolve_left nofun)
  | ok _ =>
    dsimp only
    rcases opened : (Access.openRecord path title headers).run e with ⟨answer, e'⟩
    cases answer with
    | error x => exact .inr ⟨x, rfl⟩
    | ok f =>
      refine .inl ⟨rfl, ?_⟩
      unfold Recorder.view
      rw [← rows_openRecord opened]
      rfl

theorem write_view {cells : List String} (view : l.view = r.view)
    (smooth : Smooth D (Recorder.write cells) r d) :
    (l.write cells).1 = (r.write cells d).1 ∧
      (l.write cells).2.view = (r.write cells d).2.1.view := by
  have succeeds := smooth.succeeds
  rcases r with ⟨_ | f⟩
  · rcases l with ⟨_ | rows⟩
    · exact ⟨rfl, rfl⟩
    · cases view
  · rcases l with ⟨_ | rows⟩
    · cases view
    · unfold Recorder.write at succeeds ⊢
      rcases written : (RecordWriter.writeRow (Access.sink f.place) cells).run (f.writer, d) with
        ⟨answer, writer, e⟩
      simp only [written] at succeeds ⊢
      cases answer with
      | error x => exact absurd rfl (succeeds x)
      | ok _ =>
        refine ⟨rfl, ?_⟩
        have count : rows.length = f.writer.rows := congrArg RecorderView.rows view
        have counted := RecordWriter.rows_writeRow written
        rw [← count] at counted
        exact congrArg (RecorderView.mk true) (List.length_append.trans counted.symm)

end Recorder

/-! ## Beside a ledger -/

/-- A recorded suite beside its recorder, and the same suite beside a ledger. -/
def Parallel (D : Disk → Disk → Prop) (b : Backdrop (State σ)) (b' : Backdrop (σ × Ledger)) : Prop :=
  Overlooking D ⟨b.fixed, b.state.1, b.world⟩ ⟨b'.fixed, b'.state.1, b'.world⟩

/-- The same when the ledger shows what the recorder shows. -/
structure Companions (D : Disk → Disk → Prop) (b : Backdrop (State σ)) (b' : Backdrop (σ × Ledger)) :
    Prop where
  parallel : Parallel D b b'
  view : b'.state.2.view = b.state.2.view

section Beside

variable {s : Scene κ (State σ)} {t : Scene κ (σ × Ledger)} {u v : Scene κ σ} {r : Recorder}
  {l : Ledger}

theorem Companions.alone (alike : Alike (Companions D) s t) :
    Alike (Overlooking D) (s.along Prod.fst) (t.along Prod.fst) :=
  ⟨alike.view, alike.backdrop.parallel⟩

theorem Companions.beside (alike : Alike (Overlooking D) u v) (view : l.view = r.view) :
    Alike (Companions D) (κ := κ) { u with state := (u.state, r) } { v with state := (v.state, l) } :=
  ⟨alike.view, alike.backdrop, view⟩

/-- What the recorder does to the disk is overlooked. -/
theorem Overlooking.filed (alike : Alike (Overlooking D) u v) {d : Disk}
    (overlooked : ∀ d', D u.world.disk d' → D d d') :
    Alike (Overlooking D) { u with world := { u.world with disk := d } } v where
  view := alike.view
  backdrop :=
    { fixed := alike.backdrop.fixed
      state := alike.backdrop.state
      world := alike.backdrop.world
      disks := overlooked _ alike.backdrop.disks }

theorem run_project {ρ : Type} {x : CodeWith ε κ σ α} {s : Scene κ (σ × ρ)} {a : Except ε α}
    {u : Scene κ σ} (h : x.run (s.along Prod.fst) = (a, u)) :
    (project Prod.fst (fun t s => (s, t.2)) x : CodeWith ε κ (σ × ρ) α).run s =
      (a, { u with state := (u.state, s.state.2) }) := by
  have step : (project Prod.fst (fun t s => (s, t.2)) x : CodeWith ε κ (σ × ρ) α).run s =
    ((x.run (s.along Prod.fst)).1,
      { (x.run (s.along Prod.fst)).2 with
        state := ((x.run (s.along Prod.fst)).2.state, s.state.2) }) := rfl
  rw [step, h]

theorem alike_apart {x : CodeWith ε κ σ α} (h : Mirrors (Overlooking D) x x) :
    Mirrors (Companions D) (within x) (apart x) := by
  intro s t alike
  obtain ⟨reached, ends⟩ := h _ _ (Companions.alone alike)
  exact ⟨Companions.beside reached alike.backdrop.view, ends⟩

/-- Both computations are told the same of the rows that they ask for. -/
theorem alike_jot {x y : Dictation κ σ α} (overlooks : Dictation.Overlooks D x y) {r : Recorder}
    {l : Ledger} (view : l.view = r.view) (written : Written D r x) :
    (jot l y).1 = (x.perform r).1 ∧ (jot l y).2.1.view = (x.perform r).2.1.view ∧
      Alike (Overlooking D) (x.perform r).2.2 (jot l y).2.2 := by
  induction overlooks generalizing r l with
  | done alike => exact ⟨rfl, view, alike⟩
  | @row u v cells next next' alike _ ih =>
    rcases asked : r.write cells u.world.disk with ⟨a, r', d⟩
    obtain ⟨smooth, later⟩ := written.row asked
    obtain ⟨answer, seen⟩ := write_view view smooth
    have filed := Overlooking.filed alike smooth.overlooked
    rw [asked] at answer seen filed
    rw [perform_row asked]
    unfold jot
    rw [answer, seen]
    exact ih a r'.view _ _ filed seen later

theorem run_jotted {x : Recorded κ σ α} {answer : Except Stop α}
    (h : jot t.state.2 (x t.state.2.view (t.along Prod.fst)) = (answer, l, u)) :
    (jotted x).run t = (answer, { u with state := (u.state, l) }) := by
  have step : (jotted x).run t =
    ((jot t.state.2 (x t.state.2.view (t.along Prod.fst))).1,
      { (jot t.state.2 (x t.state.2.view (t.along Prod.fst))).2.2 with
        state := ((jot t.state.2 (x t.state.2.view (t.along Prod.fst))).2.2.state,
          (jot t.state.2 (x t.state.2.view (t.along Prod.fst))).2.1) }) := rfl
  rw [step, h]

theorem alike_jotted {x : Recorded κ σ α} (overlooks : x.Overlooks D)
    (alike : Alike (Companions D) s t)
    (written : Written D s.state.2 (x s.state.2.view (s.along Prod.fst))) :
    Alike (Companions D) ((dictated x).run s).2 ((jotted x).run t).2 ∧
      Concur Eq ((dictated x).run s).1 ((jotted x).run t).1 := by
  have seen : t.state.2.view = s.state.2.view := alike.backdrop.view
  obtain ⟨answer, view, reached⟩ :=
    alike_jot (overlooks s.state.2.view _ _ (Companions.alone alike)) seen written
  rcases hx : (x s.state.2.view (s.along Prod.fst)).perform s.state.2 with ⟨a, r, u⟩
  rcases hy : jot t.state.2 (x s.state.2.view (t.along Prod.fst)) with ⟨b, l, v⟩
  rw [hx, hy] at answer view reached
  rw [← seen] at hy
  rw [run_dictated hx, run_jotted hy]
  exact ⟨Companions.beside reached view, .of_eq answer⟩

/-- The file of a group is opened, and so is the ledger. -/
theorem alike_opened {inner : RecordedSuite κ σ} {group : String} {title : Option String}
    {headers : List String} (alike : Alike (Companions D) s t)
    (titled : inner.title s.state.1 = .ok title) (headed : inner.headers s.state.1 = .ok headers)
    (smooth : Smooth D (Recorder.openAt (Path.join s.context.outputDirectory (recordName group)) title
      headers) s.state.2 s.world.disk) :
    ((openGroup inner group).run s).1 = .ok () ∧
      Alike (Companions D) ((openGroup inner group).run s).2
        ((turnTo ⟨some []⟩ : Code κ (σ × Ledger) Unit).run t).2 := by
  have ends := openAt_answer (Path.join s.context.outputDirectory (recordName group)) title headers
    s.state.2 s.world.disk
  obtain ⟨returned, view⟩ := ends.resolve_right fun ⟨e, failed⟩ => smooth.succeeds e failed
  have filed := Overlooking.filed (Companions.alone alike) smooth.overlooked
  rcases opened : Recorder.openAt (Path.join s.context.outputDirectory (recordName group)) title
    headers s.state.2 s.world.disk with ⟨a, r, d⟩
  rw [opened] at returned view filed
  obtain rfl : a = .ok () := returned
  unfold recordName at opened
  unfold openGroup
  rw [run_bind_of_ok run_context, run_bind_of_ok (run_described titled),
    run_bind_of_ok (run_described headed), run_bind_of_ok (run_recorder opened)]
  exact ⟨rfl, filed.view, filed.backdrop, view.symm⟩

theorem Served.groupEnds {inner : RecordedSuite κ σ} {group : String} {answer : Answer}
    (served : Served D inner (s.visit (.groupEnds group) answer)) {a : Except Stop Unit}
    (performed : (inner.groupEnds group s.state.2.view (s.along Prod.fst)).perform s.state.2 =
      (a, r, u)) :
    Written D s.state.2 (inner.groupEnds group s.state.2.view (s.along Prod.fst)) ∧
      (Microbench.Calm a → Smooth D Recorder.close r u.world.disk) := by
  have closes : ∀ done, (inner.groupEnds group s.state.2.view (s.along Prod.fst)).perform
      s.state.2 = done → Microbench.Calm done.1 →
        Smooth D Recorder.close done.2.1 done.2.2.world.disk := by
    rintro _ rfl
    exact served.2
  exact ⟨served.1, closes _ performed⟩

theorem run_closeGroup_eq (inner : RecordedSuite κ σ) (group : String) (s : Scene κ (State σ)) :
    (closeGroup inner group).run s =
      match (dictated (inner.groupEnds group)).run s with
      | (.ok (), u) => (do orThrow (← recorder Recorder.close) : Code κ (State σ) Unit).run u
      | (.error (.failure e), u) =>
        (.error (.failure e), ((recorder Recorder.close : Code κ (State σ) _).run u).2)
      | crashed => crashed := rfl

theorem run_groupEnds_inMemory (inner : RecordedSuite κ σ) (group : String)
    (t : Scene κ (σ × Ledger)) :
    ((inMemory inner).groupEnds group).run t =
      match (jotted (inner.groupEnds group)).run t with
      | (.error (.crash c), v) => (.error (.crash c), v)
      | (answer, v) => (answer, { v with state := (v.state.1, {}) }) := rfl

/-- The file is closed when the end of a group returns, and so is the ledger. -/
theorem alike_closed {inner : RecordedSuite κ σ} {group : String} {answer : Answer}
    (overlooks : (inner.groupEnds group).Overlooks D) (alike : Alike (Companions D) s t)
    (served : Served D inner (s.visit (.groupEnds group) answer)) :
    Alike (Companions D) ((closeGroup inner group).run s).2
        (((inMemory inner).groupEnds group).run t).2 ∧
      Concur Eq ((closeGroup inner group).run s).1
        (((inMemory inner).groupEnds group).run t).1 := by
  rcases performed : (inner.groupEnds group s.state.2.view (s.along Prod.fst)).perform s.state.2
    with ⟨a, r, u⟩
  obtain ⟨written, closes⟩ := served.groupEnds performed
  obtain ⟨reached, ends⟩ := alike_jotted overlooks alike written
  have asked := run_dictated performed
  rcases jotted_run : (jotted (inner.groupEnds group)).run t with ⟨b, v⟩
  rw [asked, jotted_run] at reached ends
  obtain rfl : b = a := ends.eq
  rw [run_closeGroup_eq, run_groupEnds_inMemory, asked, jotted_run]
  cases b with
  | ok _ =>
    obtain ⟨d, closed, overlooked⟩ := closed_of_smooth (closes nofun)
    dsimp only
    rw [run_bind_of_ok (run_recorder closed)]
    have filed := Overlooking.filed (Companions.alone reached) overlooked
    exact ⟨⟨filed.view, filed.backdrop, rfl⟩, .returned rfl⟩
  | error e =>
    cases e with
    | failure e =>
      obtain ⟨d, closed, overlooked⟩ := closed_of_smooth (closes nofun)
      dsimp only
      rw [run_recorder closed]
      have filed := Overlooking.filed (Companions.alone reached) overlooked
      exact ⟨⟨filed.view, filed.backdrop, rfl⟩, .stopped⟩
    | crash c => exact ⟨reached, .stopped⟩

/-- A report of a failure is written or not; the suite does not look at it. -/
theorem alike_reported {group : String} {e : BenchError} (alike : Alike (Companions D) s t)
    (inner : RecordedSuite κ σ) (overlooked : ∀ d, D s.world.disk d →
      D ((Access.writeReport (Path.join s.context.outputDirectory (reportName group)) e.report).run
        s.world.disk).2 d) :
    Alike (Companions D) ((keepReport group e : CodeWith Crash κ _ Unit).run s).2
        (((inMemory inner).groupFailed group e).run t).2 ∧
      Concur Eq ((keepReport group e : CodeWith Crash κ _ Unit).run s).1
        (((inMemory inner).groupFailed group e).run t).1 := by
  have filed := Overlooking.filed (Companions.alone alike) overlooked
  rcases written : (Access.writeReport (Path.join s.context.outputDirectory (reportName group))
    e.report).run s.world.disk with ⟨a, d⟩
  rw [written] at filed
  cases a with
  | ok _ =>
    rw [run_keepReport_of_written written]
    exact ⟨⟨filed.view, filed.backdrop, alike.backdrop.view⟩, .returned rfl⟩
  | error _ =>
    rw [run_keepReport_of_refused written]
    exact ⟨⟨filed.view, filed.backdrop, alike.backdrop.view⟩, .returned rfl⟩

/-- The file is closed before the suite is torn down, unless that was done. -/
theorem alike_ended {inner : RecordedSuite κ σ}
    (overlooks : Mirrors (Overlooking D) inner.tearDown inner.tearDown)
    (alike : Alike (Companions D) s t) (smooth : Smooth D Recorder.close s.state.2 s.world.disk) :
    Alike (Parallel D) ((closeAll inner).run s).2 ((apart inner.tearDown).run t).2 ∧
      Concur Eq ((closeAll inner).run s).1 ((apart inner.tearDown).run t).1 := by
  obtain ⟨d, closed, overlooked⟩ := closed_of_smooth smooth
  have before : Alike (Overlooking D) ((recording s {} d).along Prod.fst) (t.along Prod.fst) :=
    Overlooking.filed (Companions.alone alike) overlooked
  obtain ⟨reached, ends⟩ := overlooks _ _ before
  rcases hx : inner.tearDown.run ((recording s {} d).along Prod.fst) with ⟨a, u⟩
  rcases hy : inner.tearDown.run (t.along Prod.fst) with ⟨b, v⟩
  rw [hx, hy] at reached ends
  have torn : (within inner.tearDown).run (recording s {} d) =
    (a, { u with state := (u.state, {}) }) := run_project hx
  unfold closeAll apart
  rw [run_bind_of_ok (run_recorder closed), run_project hy]
  cases a with
  | ok _ =>
    rw [run_bind_of_ok torn]
    exact ⟨⟨reached.view, reached.backdrop⟩, ends⟩
  | error e =>
    rw [run_bind_of_error torn]
    exact ⟨⟨reached.view, reached.backdrop⟩, ends⟩

end Beside

/-! ## The two suites -/

/-- Operations beside a recorder and beside a ledger. -/
theorem paired_operation {o : Microbench.Operation σ}
    (h : Mirrors (Overlooking D) (ofWork o.call : Code κ σ Unit) (ofWork o.call)) :
    (operation o).Paired (Alike (κ := κ) (Companions D)) (o.project Prod.fst fun t s => (s, t.2)) :=
  ⟨rfl, fun s t alike => alike_apart h s t alike⟩

/-- As long as no file fails it, a recorded suite does what it would do with a recorder in memory. -/
theorem paired_inMemory {inner : RecordedSuite κ σ} (overlooks : inner.Overlooks D)
    (titled : ∀ s, ∃ title, inner.title s = .ok title)
    (headed : ∀ s, ∃ headers, inner.headers s = .ok headers) :
    PairedLives (Served D inner) (Alike (Companions D)) (Alike (Parallel D)) (suite inner)
      (inMemory inner) where
  setUp s t alike _ := alike_apart overlooks.setUp s t alike
  operations := by
    intro s t alike
    obtain ⟨reached, ends⟩ := alike_apart overlooks.operations s t alike
    have same : Concur Eq (inner.operations.run (s.state.1, s.world)).1
      (inner.operations.run (t.state.1, t.world)).1 := ends
    refine ⟨reached, ?_⟩
    have left : ((ofWork (suite inner).operations : CodeWith Crash κ _ _).run s).1 =
      (inner.operations.run (s.state.1, s.world)).1.map (·.map operation) := rfl
    have right : ((ofWork (inMemory inner).operations : CodeWith Crash κ _ _).run t).1 =
      (inner.operations.run (t.state.1, t.world)).1.map
        (·.map (·.project Prod.fst fun t s => (s, t.2))) := rfl
    rw [left, right, same.eq]
    cases declared : (inner.operations.run (s.state.1, s.world)).1 with
    | error c => exact .stopped
    | ok os =>
      refine .returned ?_
      rw [List.forall₂_map_left_iff, List.forall₂_map_right_iff, List.forall₂_same]
      exact fun o mem => paired_operation (overlooks.calls _ os declared o mem)
  groupStarts group _ := by
    intro s t alike served
    obtain ⟨title, titled⟩ := titled s.state.1
    obtain ⟨headers, headed⟩ := headed s.state.1
    obtain ⟨returned, opened⟩ :=
      alike_opened alike titled headed (served title titled headers headed)
    rcases ran : (openGroup inner group).run s with ⟨a, s'⟩
    rw [ran] at returned opened
    obtain rfl : a = .ok () := returned
    obtain ⟨reached, ends⟩ := alike_apart (overlooks.determineRuns group) _ _ opened
    have left : ((suite inner).groupStarts group).run s = _ := run_bind_of_ok ran
    rw [left]
    exact ⟨reached, ends.mono fun _ _ same => ⟨same.symm, fun _ _ => trivial⟩⟩
  runStarts run _ s t alike _ := alike_apart (overlooks.runStarts run) s t alike
  repetitionStarts run repetition _ s t alike _ :=
    alike_apart (overlooks.repetitionStarts run repetition) s t alike
  runEnds run statistics _ s t alike served := alike_jotted (overlooks.runEnds _) alike served
  groupEnds group _ s t alike served := alike_closed (overlooks.groupEnds group) alike served
  groupFailed group e _ s t alike served := alike_reported alike inner served
  tearDown s t alike served := alike_ended overlooks.tearDown alike served

end Recording

end Microbench
