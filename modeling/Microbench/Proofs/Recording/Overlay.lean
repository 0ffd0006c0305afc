import Microbench.Proofs.Engine.Isolation
import Microbench.Proofs.Engine.Reported
import Microbench.Proofs.Recording.Aloof
import Microbench.Proofs.Recording.Records

/-!
# Hooks over files of before

Two executions of a recorded suite side by side: one writes to an empty folder, the other to a folder
with files from before. No hook can tell them apart, since no file is read and every file is begun
anew; and what the second folder holds are the files of the first laid over those of before
(`Laid`). A report is filed for a group exactly when the suite is told of its failure.
-/

namespace Microbench.Recording

open CodeWith Scene

variable {ε κ σ α β : Type}

/-! ## Folders side by side -/

/-- A folder to be written to, and the files that it may hold already. -/
structure Ground where
  start : Disk
  root : String
  place : List String
  id : String
  folder : Folder start root place id
  old : Files

/-- The recorder has no file open, or one that is filed under the name of a record and that all its
rows have reached. -/
inductive Pointed (place : List String) (id : String) (files : Files) : Recorder → Prop
  | closed : Pointed place id files {}
  | opened {group : String} {rows : Nat} {held : Bytes} :
    files (recordName group) = some held →
    Pointed place id files (recorderAt place id (recordName group) rows)

/-- The folder of one disk holds the files `new`, among them reports of some groups; that of the
other holds these laid over the files of before. -/
structure Layers (g : Ground) (reported : String → Prop) (new : Files) (d d' : Disk) (r : Recorder) :
    Prop where
  first : Folder.Holds g.start g.place g.id new d
  second : Folder.Holds g.start g.place g.id (new.above g.old) d'
  pointed : Pointed g.place g.id new r
  reports : ∀ group, new (reportName group) ≠ none ↔ reported group

/-- Backdrops of a recorded suite that are the same but for the files of before. -/
structure Laid (g : Ground) (reported : String → Prop) (b b' : Backdrop (State σ)) : Prop where
  beside : Beside b b'
  layers : ∃ new, Layers g reported new b.world.disk b'.world.disk b.state.2

/-- The suite writes to the folder. -/
structure Home (g : Ground) (reported : String → Prop) (b b' : Backdrop (State σ)) : Prop
    extends Laid g reported b b' where
  directory : b.fixed.2.1 = Path.join g.root g.id

/-! ## The recorder -/

section Recorder

variable {g : Ground} {reported : String → Prop} {new : Files} {d d' : Disk} {r : Recorder}

theorem Layers.untouched {e e' : Disk} (layers : Layers g reported new d d' r) (h : d.Untouched e)
    (h' : d'.Untouched e') : Layers g reported new e e' r :=
  ⟨layers.first.untouched h, layers.second.untouched h', layers.pointed, layers.reports⟩

theorem Layers.closed (layers : Layers g reported new d d' r) : Layers g reported new d d' {} :=
  ⟨layers.first, layers.second, .closed, layers.reports⟩

/-- A record is no report. -/
theorem Layers.reports_filed (layers : Layers g reported new d d' r) (name : String)
    (content : Bytes) (group : String) :
    new.filed (recordName name) content (reportName group) ≠ none ↔ reported group := by
  rw [Files.filed_other _ _ (recordName_ne_reportName name group).symm]
  exact layers.reports group

/-- A report leaves the open file where it is. -/
theorem Layers.filed_report (layers : Layers g reported new d d' r) {group : String} {content : Bytes}
    {e e' : Disk}
    (first : Folder.Holds g.start g.place g.id (new.filed (reportName group) content) e)
    (second : Folder.Holds g.start g.place g.id
      ((new.above g.old).filed (reportName group) content) e') :
    Layers g (fun other => reported other ∨ other = group) (new.filed (reportName group) content)
      e e' r where
  first := first
  second := Files.filed_above new g.old _ _ ▸ second
  pointed := by
    cases layers.pointed with
    | closed => exact .closed
    | opened stands =>
      exact .opened ((Files.filed_other _ _ (recordName_ne_reportName _ group)).trans stands)
  reports := by
    intro other
    by_cases same : other = group
    · rw [same, Files.filed_same]
      exact ⟨fun _ => .inr rfl, fun _ => nofun⟩
    · have differ : reportName other ≠ reportName group := fun h => same (group_of_extended h)
      rw [Files.filed_other _ _ differ, layers.reports]
      exact (or_iff_left same).symm

/-- What the recorder does is the same on both disks, and they stay as they were to each other. -/
def Steady (g : Ground) (f : Recorder → Disk → Except RecordFailure Unit × Recorder × Disk) : Prop :=
  ∀ {reported new d d' r}, Layers g reported new d d' r →
    (f r d').1 = (f r d).1 ∧ (f r d').2.1 = (f r d).2.1 ∧
      ∃ new', Layers g reported new' (f r d).2.2 (f r d').2.2 (f r d).2.1

theorem close_of_pointed (pointed : Pointed g.place g.id new r) (d : Disk) :
    r.close d = (.ok (), {}, d) := by
  cases pointed with
  | closed => rfl
  | opened _ => exact close_recorderAt

theorem steady_close : Steady g Recorder.close := by
  intro reported new d d' r layers
  rw [close_of_pointed layers.pointed d, close_of_pointed layers.pointed d']
  exact ⟨rfl, rfl, new, layers.closed⟩

/-- A group's file is begun anew, whatever it held. -/
theorem steady_openAt {group : String} (fits : Folder.Fits g.root g.id (recordName group))
    (title : Option String) (headers : List String) :
    Steady g (Recorder.openAt (Path.join (Path.join g.root g.id) (recordName group)) title headers) := by
  intro reported new d d' r layers
  have openAt : ∀ {d e : Disk}, (Access.openRecord
        (Path.join (Path.join g.root g.id) (recordName group)) title headers).run d =
        (.ok ⟨g.place ++ [g.id, recordName group], {}⟩, e) →
      r.openAt (Path.join (Path.join g.root g.id) (recordName group)) title headers d =
        (.ok (), recorderAt g.place g.id (recordName group) 0, e) := by
    intro d e opened
    unfold Recorder.openAt
    simp only [close_of_pointed layers.pointed, opened]
    rfl
  obtain ⟨e, opened, holds⟩ := g.folder.run_openRecord_pieces layers.first fits title headers
  obtain ⟨e', opened', holds'⟩ := g.folder.run_openRecord_pieces layers.second fits title headers
  rw [Files.filed_above] at holds'
  rw [openAt opened, openAt opened']
  exact ⟨rfl, rfl, _, holds, holds', .opened (Files.filed_same _ _ _),
    layers.reports_filed group _⟩

/-- A row goes to the same file on both disks, behind the same content. -/
theorem steady_write (cells : List String) : Steady g (Recorder.write cells) := by
  intro reported new d d' r layers
  cases pointed : layers.pointed with
  | closed => exact ⟨rfl, rfl, new, layers.closed⟩
  | @opened group rows held stands =>
    have first := layers.first
    have second := layers.second
    rw [← Files.filed_self stands] at first
    rw [← Files.filed_self (Files.above_of_some stands g.old)] at second
    obtain ⟨e, written, holds⟩ := run_write rows first cells
    obtain ⟨e', written', holds'⟩ := run_write rows second cells
    rw [Files.filed_above] at holds'
    rw [written, written']
    exact ⟨rfl, rfl, _, holds, holds', .opened (Files.filed_same _ _ _),
      layers.reports_filed group _⟩

end Recorder

/-! ## Code beside the recorder -/

section Code

variable {g : Ground} {reported : String → Prop} {new : Files} {s t : Scene κ (State σ)}
  {u v : Scene κ σ}

/-- The scene of a suite without its recorder. -/
def alone (s : Scene κ (State σ)) : Scene κ σ := { s with state := s.state.1 }

theorem alike_alone (alike : Alike (Laid g reported) s t) : Alike Beside (alone s) (alone t) :=
  ⟨alike.view, alike.backdrop.beside.fixed, congrArg Prod.fst alike.backdrop.beside.state,
    alike.backdrop.beside.world⟩

theorem recorder_eq (alike : Alike (Laid g reported) s t) : t.state.2 = s.state.2 :=
  congrArg Prod.snd alike.backdrop.beside.state

theorem layers_of_laid (alike : Alike (Laid g reported) s t) :
    ∃ new, Layers g reported new s.world.disk t.world.disk s.state.2 := alike.backdrop.layers

theorem laid_of_home (home : Alike (Home g reported) s t) : Alike (Laid g reported) s t :=
  ⟨home.view, home.backdrop.toLaid⟩

/-- Both suites write to the folder. -/
theorem directories_of_home (home : Alike (Home g reported) s t) :
    s.context.outputDirectory = Path.join g.root g.id ∧
      t.context.outputDirectory = Path.join g.root g.id := by
  have same : t.context.outputDirectory = s.context.outputDirectory :=
    congrArg (·.2.1) home.backdrop.beside.fixed
  exact ⟨home.backdrop.directory, same.trans home.backdrop.directory⟩

/-- A suite went on beside its recorder. -/
theorem laid_of_alone (alike : Alike Beside u v) {r r' : Recorder} (same : r' = r)
    (layers : Layers g reported new u.world.disk v.world.disk r) :
    Alike (Laid g reported) (κ := κ) { u with state := (u.state, r) }
      { v with state := (v.state, r') } where
  view := alike.view
  backdrop :=
    { beside :=
        { fixed := alike.backdrop.fixed
          state := Prod.ext alike.backdrop.state same
          world := alike.backdrop.world }
      layers := ⟨new, layers⟩ }

/-- Scenes side by side still are when their disks have changed. -/
theorem alike_onDisks (alike : Alike Beside u v) (d d' : Disk) :
    Alike Beside { u with world := { u.world with disk := d } }
      { v with world := { v.world with disk := d' } } where
  view := alike.view
  backdrop :=
    { fixed := alike.backdrop.fixed
      state := alike.backdrop.state
      world := congrArg (fun w : World => { w with disk := d' }) alike.backdrop.world }

theorem mirrors_within {x : CodeWith ε κ σ α} (aloof : x.Aloof) :
    Mirrors (Laid g reported) (within x) (within x) := by
  intro s t alike
  have stroll := aloof.stroll (alike_alone alike)
  obtain ⟨new, layers⟩ := layers_of_laid alike
  exact ⟨laid_of_alone stroll.alike (recorder_eq alike) (layers.untouched stroll.left stroll.right),
    (aloof.blind _ _ (alike_alone alike)).2⟩

theorem mirrors_described (x : σ → Except Payload α) :
    Mirrors (Laid g reported) (described x : Code κ (State σ) α) (described x) := by
  intro s t alike
  have state : t.state = s.state := alike.backdrop.beside.state
  cases told : x s.state.1 with
  | ok a =>
    rw [run_described told, run_described (by rw [state, told])]
    exact ⟨alike, .returned rfl⟩
  | error p =>
    rw [run_described_of_panic told, run_described_of_panic (by rw [state, told])]
    exact ⟨alike, .stopped⟩

theorem mirrors_recorder {f : Recorder → Disk → Except RecordFailure Unit × Recorder × Disk}
    (steady : Steady g f) :
    Mirrors (Laid g reported) (recorder f : Code κ (State σ) _) (recorder f) := by
  intro s t alike
  obtain ⟨new, layers⟩ := layers_of_laid alike
  obtain ⟨answer, left, new', layers'⟩ := steady layers
  rcases hx : f s.state.2 s.world.disk with ⟨a, r, d⟩
  rcases hy : f s.state.2 t.world.disk with ⟨a', r', d'⟩
  rw [hx, hy] at answer left layers'
  rw [← recorder_eq alike] at hy
  rw [run_recorder hx, run_recorder hy]
  exact ⟨laid_of_alone (alike_onDisks (alike_alone alike) d d') left layers',
    .returned answer.symm⟩

theorem mirrors_orThrow (a : Except RecordFailure Unit) :
    Mirrors (Laid g reported) (orThrow a : Code κ (State σ) Unit) (orThrow a) := by
  cases a with
  | ok _ => exact .pure rfl
  | error _ => exact fun _ _ alike => ⟨alike, .stopped⟩

/-- What is asked for is written on both disks, and both computations are told the same of it. -/
theorem laid_perform {x y : Dictation κ σ α} (matching : Dictation.Matches u v x y) {r : Recorder}
    (layers : Layers g reported new u.world.disk v.world.disk r) :
    (y.perform r).1 = (x.perform r).1 ∧ (y.perform r).2.1 = (x.perform r).2.1 ∧
      Alike Beside (x.perform r).2.2 (y.perform r).2.2 ∧
      ∃ new', Layers g reported new' (x.perform r).2.2.world.disk (y.perform r).2.2.world.disk
        (x.perform r).2.1 := by
  induction matching generalizing new r with
  | done stroll => exact ⟨rfl, rfl, stroll.alike, new, layers.untouched stroll.left stroll.right⟩
  | @row _ _ u' v' cells _ _ stroll _ ih =>
    obtain ⟨answer, left, new', layers'⟩ :=
      steady_write cells (layers.untouched stroll.left stroll.right)
    rcases hx : r.write cells u'.world.disk with ⟨a, r', d⟩
    rcases hy : r.write cells v'.world.disk with ⟨a', r'', d'⟩
    rw [hx, hy] at answer left layers'
    dsimp only at answer left layers'
    subst answer left
    rw [perform_row hx, perform_row hy]
    exact ih a' r''.view _ _ (alike_onDisks stroll.alike d d') layers'

theorem mirrors_dictated {x : Recorded κ σ α} (aloof : x.Aloof) :
    Mirrors (Laid g reported) (dictated x) (dictated x) := by
  intro s t alike
  obtain ⟨new, layers⟩ := layers_of_laid alike
  obtain ⟨answer, left, alike', new', layers'⟩ :=
    laid_perform (aloof t.state.2.view _ _ (alike_alone alike)) layers
  rcases hx : (x t.state.2.view (alone s)).perform s.state.2 with ⟨a, r, u⟩
  rcases hy : (x t.state.2.view (alone t)).perform s.state.2 with ⟨a', r', v⟩
  rw [hx, hy] at answer left alike' layers'
  dsimp only at answer
  subst answer
  rw [← recorder_eq alike] at hy
  rw [recorder_eq alike] at hx
  rw [run_dictated hx, run_dictated hy]
  exact ⟨laid_of_alone alike' left layers', .of_eq rfl⟩

end Code

/-! ## Hooks -/

section Hooks

variable {inner : RecordedSuite κ σ} {g : Ground} {reported : String → Prop} {group : String}

theorem agree_openGroup (fits : Folder.Fits g.root g.id (recordName group)) :
    Agree (Alike (Home g reported)) (Alike (Laid g reported)) Eq (openGroup inner group)
      (openGroup inner group) := by
  intro s t home
  obtain ⟨directory, directory'⟩ := directories_of_home home
  unfold openGroup
  rw [run_bind_of_ok run_context, run_bind_of_ok run_context, directory, directory']
  refine Agree.andThen (mirrors_described _) (fun title => ?_) s t (laid_of_home home)
  refine .andThen (mirrors_described _) fun headers => ?_
  refine .andThen (mirrors_recorder (steady_openAt fits title headers)) fun opened => ?_
  exact .andThen (mirrors_orThrow opened) fun _ => .noting _ _

theorem mirrors_closing : Mirrors (Laid g reported)
    (do orThrow (← recorder Recorder.close) : Code κ (State σ) Unit)
    (do orThrow (← recorder Recorder.close)) :=
  .andThen (mirrors_recorder steady_close) mirrors_orThrow

theorem mirrors_closeGroup (aloof : (inner.groupEnds group).Aloof) :
    Mirrors (Laid g reported) (closeGroup inner group) (closeGroup inner group) := by
  intro s t alike
  obtain ⟨reached, ends⟩ := mirrors_dictated aloof s t alike
  rcases hx : (dictated (inner.groupEnds group)).run s with ⟨a, s'⟩
  rcases hy : (dictated (inner.groupEnds group)).run t with ⟨b, t'⟩
  rw [hx, hy] at reached ends
  unfold closeGroup
  simp only [ExceptT.run] at hx hy ⊢
  rw [hx, hy]
  cases ends with
  | returned _ => exact mirrors_closing s' t' reached
  | @stopped e =>
    cases e with
    | failure e => exact ⟨(mirrors_recorder steady_close s' t' reached).1, .stopped⟩
    | crash c => exact ⟨reached, .stopped⟩

theorem mirrors_closeAll (aloof : inner.tearDown.Aloof) :
    Mirrors (Laid g reported) (closeAll inner) (closeAll inner) := by
  refine .andThen (mirrors_recorder steady_close) fun closed => ?_
  exact .andThen (mirrors_within aloof) fun _ => mirrors_orThrow closed

/-- A report lies in both folders afterwards, whatever was there of its name. -/
theorem agree_keepReport (fits : Folder.Fits g.root g.id (reportName group)) (e : BenchError) :
    Agree (Alike (Home g reported)) (Alike (Laid g fun other => reported other ∨ other = group)) Eq
      (keepReport group e : CodeWith Crash κ (State σ) Unit) (keepReport group e) := by
  intro s t home
  obtain ⟨directory, directory'⟩ := directories_of_home home
  have laid := laid_of_home home
  obtain ⟨new, layers⟩ := layers_of_laid laid
  obtain ⟨d, written, holds⟩ := g.folder.run_writeReport layers.first fits e.report
  obtain ⟨d', written', holds'⟩ := g.folder.run_writeReport layers.second fits e.report
  rw [← directory] at written
  rw [← directory'] at written'
  rw [run_keepReport_of_written written, run_keepReport_of_written written']
  have noted := (alike_alone laid).noted (failureNote s group e) (failureNote t group e)
  exact ⟨laid_of_alone (alike_onDisks noted d d') (recorder_eq laid)
    (layers.filed_report holds holds'), .returned rfl⟩

end Hooks

end Microbench.Recording
