import Microbench.Proofs.Decimal.Characters
import Microbench.Proofs.Disk.Folder
import Microbench.Proofs.Engine.Contexts
import Microbench.Recording

/-!
# The hooks of a recorded suite

What the hooks that a recorded suite is wrapped in do to the recorder and to the folder that it
writes to: opening the file of a group, writing its rows and closing it, keeping the report of a
failure. Everything else leaves the recorder and the files alone. The recorder never touches the
context, so a recorded suite whose own hooks keep it is a suite that keeps its context.
-/

namespace Microbench

variable {ε κ σ α : Type}

/-- Files and directories are as they were. -/
structure Disk.Untouched (d d' : Disk) : Prop where
  nodes : d'.nodes = d.nodes
  here : d'.here = d.here
  faults : d'.faults = d.faults

theorem Disk.Untouched.refl (d : Disk) : Untouched d d := ⟨rfl, rfl, rfl⟩

theorem Disk.Untouched.trans {d d' d'' : Disk} (h : Untouched d d') (h' : Untouched d' d'') :
    Untouched d d'' :=
  ⟨h'.nodes.trans h.nodes, h'.here.trans h.here, h'.faults.trans h.faults⟩

theorem Disk.Untouched.node? {d d' : Disk} (h : Untouched d d') (p : List String) :
    d'.node? p = d.node? p := by
  unfold Disk.node?
  rw [h.nodes]

theorem Folder.Holds.untouched {start d d' : Disk} {place : List String} {id : String}
    {files : Files} (holds : Folder.Holds start place id files d) (h : d.Untouched d') :
    Folder.Holds start place id files d' where
  calm := by
    unfold Access.Calm
    rw [h.faults]
    exact holds.calm
  here := h.here.trans holds.here
  folder := by rw [h.node?, holds.folder]
  file := fun name => by rw [h.node?, holds.file]
  deeper := fun name p some => by rw [h.node?, holds.deeper name p some]
  rest := fun p above => by rw [h.node?, holds.rest p above]

/-- Code that leaves the files alone. -/
def CodeWith.LeavesDisk (x : CodeWith ε κ σ α) : Prop :=
  ∀ s : Scene κ σ, s.world.disk.Untouched (x.run s).2.world.disk

/-- Work that leaves the files alone. -/
def Work.LeavesDisk (x : Work ε σ α) : Prop :=
  ∀ s : σ × World, s.2.disk.Untouched (x.run s).2.2.disk

/-- A recorded suite with the headers and the ends of runs and groups that recorded suites have by
default, and that writes no files of its own. -/
structure RecordedSuite.Standard (inner : RecordedSuite κ σ) : Prop where
  titled : ∀ s, ∃ title, inner.title s = .ok title
  headers : inner.headers = fun _ => .ok Recording.standardHeaders
  runEnds : inner.runEnds = fun _ => pure ()
  groupEnds : inner.groupEnds = fun _ => Recording.standardRows
  setUp : inner.setUp.LeavesDisk
  operations : inner.operations.LeavesDisk
  calls : ∀ s os, (inner.operations.run s).1 = .ok os → ∀ o ∈ os, o.call.LeavesDisk
  determineRuns : ∀ group, (inner.determineRuns group).LeavesDisk
  runStarts : ∀ run, (inner.runStarts run).LeavesDisk
  repetitionStarts : ∀ run repetition, (inner.repetitionStarts run repetition).LeavesDisk
  tearDown : inner.tearDown.LeavesDisk

/-- All hooks of the recorded suite change nothing of their context but the knobs. -/
structure RecordedSuite.KeepsContext (inner : RecordedSuite κ σ) : Prop where
  setUp : inner.setUp.KeepsContext
  determineRuns : ∀ group, (inner.determineRuns group).KeepsContext
  runStarts : ∀ run, (inner.runStarts run).KeepsContext
  repetitionStarts : ∀ run repetition, (inner.repetitionStarts run repetition).KeepsContext
  runEnds : ∀ run, (Recording.dictated (inner.runEnds run)).KeepsContext
  groupEnds : ∀ group, (Recording.dictated (inner.groupEnds group)).KeepsContext
  tearDown : inner.tearDown.KeepsContext

/-- What is noted has no part in work on the disk. -/
theorem World.access_note {w : World} {x : Access α} {a : Except IoFailure α} {d : Disk}
    (ran : x.run w.disk = (a, d)) (e : Event) :
    (w.note e).access x = (a, { w.note e with disk := d }) := by
  unfold World.access
  rw [show (w.note e).disk = w.disk from rfl, ran]

namespace Recording

/-- The name of the record file of a group. -/
def recordName (group : String) : String := group ++ "." ++ RecordFile.extension

/-- The name of the error report of a group. -/
def reportName (group : String) : String := group ++ "." ++ errorExtension

/-- The bytes of a record file with the standard columns. -/
def tableBytes (title : Option String) (rows : List (List String)) : Bytes :=
  Bytes.ofText (String.ofList (Text.ofLines (RecordFile.linesOf title standardHeaders rows)))

theorem standardHeaders_ne_nil : standardHeaders ≠ [] := List.cons_ne_nil _ _

theorem tableBytes_append (title : Option String) (rows : List (List String)) :
    tableBytes title [] ++ (rows.flatMap fun cells =>
      RecordWriter.bytesOf (RecordFile.rowPieces cells)) = tableBytes title rows := by
  have lines : RecordFile.linesOf title standardHeaders rows =
      RecordFile.linesOf title standardHeaders [] ++
        rows.map fun row => (RecordFile.line row).toList := by
    simp [RecordFile.linesOf]
  unfold tableBytes
  rw [RecordWriter.bytesOf_rows, ← Bytes.ofText_append, ← String.ofList_append,
    ← Text.ofLines_append, ← lines]

/-- The recorder of a file of the folder that some rows were written to. -/
def recorderAt (place : List String) (id name : String) (rows : Nat) : Recorder :=
  ⟨some ⟨place ++ [id, name], ⟨[], rows⟩⟩⟩

/-- The scene after the recorder worked on the disk. -/
def recording (s : Scene κ (State σ)) (r : Recorder) (d : Disk) : Scene κ (State σ) :=
  { s with state := (s.state.1, r), world := { s.world with disk := d } }

section Hooks

variable {inner : RecordedSuite κ σ} {start : Disk} {root id group : String} {place : List String}
  {files : Files} {s : Scene κ (State σ)}

/-! ## Opening -/

theorem run_described {x : σ → Except Payload α} {a : α} (h : x s.state.1 = .ok a) :
    (described x : Code κ (State σ) α).run s = (.ok a, s) := by
  unfold described
  simp only [ExceptT.run]
  rw [h]

theorem run_described_of_panic {x : σ → Except Payload α} {p : Payload} (h : x s.state.1 = .error p) :
    (described x : Code κ (State σ) α).run s = (.error (.crash (.panic p)), s) := by
  unfold described
  simp only [ExceptT.run]
  rw [h]

theorem run_recorder {x : Recorder → Disk → Except RecordFailure Unit × Recorder × Disk}
    {answer : Except RecordFailure Unit} {r : Recorder} {d : Disk}
    (h : x s.state.2 s.world.disk = (answer, r, d)) :
    (recorder x : Code κ (State σ) _).run s = (.ok answer, recording s r d) := by
  have step : (recorder x : Code κ (State σ) _).run s =
    (.ok (x s.state.2 s.world.disk).1,
      recording s (x s.state.2 s.world.disk).2.1 (x s.state.2 s.world.disk).2.2) := rfl
  rw [step, h]

theorem run_dictated {x : Recorded κ σ α} {answer : Except Stop α} {r : Recorder} {t : Scene κ σ}
    (h : (x s.state.2.view { s with state := s.state.1 }).perform s.state.2 = (answer, r, t)) :
    (dictated x).run s = (answer, { t with state := (t.state, r) }) := by
  have step : (dictated x).run s =
    (((x s.state.2.view { s with state := s.state.1 }).perform s.state.2).1,
      { ((x s.state.2.view { s with state := s.state.1 }).perform s.state.2).2.2 with
        state := (((x s.state.2.view { s with state := s.state.1 }).perform s.state.2).2.2.state,
          ((x s.state.2.view { s with state := s.state.1 }).perform s.state.2).2.1) }) := rfl
  rw [step, h]

/-- The file of a group is open and holds the opening lines. -/
theorem run_openGroup (standard : inner.Standard) (folder : Folder start root place id)
    (directory : s.context.outputDirectory = Path.join root id) (closed : s.state.2 = {})
    (holds : Folder.Holds start place id files s.world.disk)
    (fits : Folder.Fits root id (recordName group)) {title : Option String}
    (titled : inner.title s.state.1 = .ok title) :
    ∃ t, (openGroup inner group).run s = (.ok (), t) ∧ t.context = s.context ∧
      t.state.2 = recorderAt place id (recordName group) 0 ∧
      Folder.Holds start place id (files.filed (recordName group) (tableBytes title []))
        t.world.disk := by
  obtain ⟨d, opened, holds'⟩ :=
    folder.run_openRecord holds fits title standardHeaders_ne_nil
  have headers : inner.headers s.state.1 = .ok standardHeaders := by rw [standard.headers]
  have recorded : Recorder.openAt
      (Path.join s.context.outputDirectory (group ++ "." ++ RecordFile.extension)) title
      standardHeaders s.state.2 s.world.disk =
        (.ok (), recorderAt place id (recordName group) 0, d) := by
    rw [directory, closed]
    change Recorder.openAt (Path.join (Path.join root id) (recordName group)) title _ _ _ = _
    unfold Recorder.openAt Recorder.close
    simp only [opened]
    rfl
  let after := recording s (recorderAt place id (recordName group) 0) d
  refine ⟨after.noted ⟨.detail, "opened record file",
    [("path", .text (Path.join s.context.outputDirectory (recordName group)))]⟩, ?_, rfl, rfl, holds'⟩
  unfold openGroup
  rw [run_bind_of_ok CodeWith.run_context, run_bind_of_ok (run_described titled),
    run_bind_of_ok (run_described headers), run_bind_of_ok (run_recorder recorded)]
  rfl

/-! ## Rows -/

variable {name : String} {held : Bytes} {d : Disk} {rows : Nat}

theorem run_write (rows : Nat) (holds : Folder.Holds start place id (files.filed name held) d)
    (cells : List String) :
    ∃ d', (recorderAt place id name rows).write cells d =
        (.ok (), recorderAt place id name (rows + 1), d') ∧
      Folder.Holds start place id
        (files.filed name (held ++ RecordWriter.bytesOf (RecordFile.rowPieces cells))) d' := by
  obtain ⟨d', written, holds'⟩ := @RecordWriter.run_writeRow _ _ _ held d rows
    (Folder.lossless_sink files name) cells holds
  refine ⟨d', ?_, holds'⟩
  unfold Recorder.write recorderAt
  simp only [written]

theorem perform_row {r r' : Recorder} {cells : List String} {answer : Except RecordFailure Unit}
    {scene : Scene κ σ} {disk : Disk}
    {next : Except RecordFailure Unit → RecorderView → Scene κ σ → Dictation κ σ α}
    (written : r.write cells scene.world.disk = (answer, r', disk)) :
    (Dictation.row cells scene next).perform r =
      (next answer r'.view { scene with world := { scene.world with disk } }).perform r' := by
  rw [Dictation.perform, written]

/-- The rows that a hook asks for are in the file behind those before. -/
theorem perform_rows (rows : Nat) (table : List (List String)) (view : RecorderView)
    (scene : Scene κ σ)
    (holds : Folder.Holds start place id (files.filed name held) scene.world.disk) :
    ∃ d', (Recorded.rows table view scene).perform (recorderAt place id name rows) =
        (.ok (), recorderAt place id name (rows + table.length),
          { scene with world := { scene.world with disk := d' } }) ∧
      Folder.Holds start place id (files.filed name (held ++
        table.flatMap fun cells => RecordWriter.bytesOf (RecordFile.rowPieces cells))) d' := by
  induction table generalizing view scene held rows with
  | nil => exact ⟨_, rfl, by rw [List.flatMap_nil, List.append_nil]; exact holds⟩
  | cons cells rest ih =>
    obtain ⟨d, written, holds'⟩ := run_write rows holds cells
    obtain ⟨d', performed, holds''⟩ := ih (rows + 1) (recorderAt place id name (rows + 1)).view
      { scene with world := { scene.world with disk := d } } holds'
    refine ⟨d', ?_, ?_⟩
    · apply (perform_row written).trans
      rw [List.length_cons, Nat.add_comm rest.length, ← Nat.add_assoc]
      exact performed
    · rw [List.flatMap_cons, ← List.append_assoc]
      exact holds''

/-! ## Closing -/

theorem run_finish {ω : Type} (sink : Sink ω) (w : ω) :
    (RecordWriter.finish sink).run (⟨[], rows⟩, w) = (.ok (), ⟨[], rows⟩, w) := by
  have nothing : (Buffered.drain sink).run ([], w) = (.ok (), ([], w)) := by
    have step : (Buffered.drain sink).run ([], w) = (Buffered.drainFrom sink []).run ([], w) := rfl
    rw [step, Buffered.drainFrom]
    rfl
  exact RecordWriter.finish_of_ok (by rw [RecordWriter.run_buffered, nothing])

/-- All rows that were written are in the file already. -/
theorem close_recorderAt : (recorderAt place id name rows).close d = (.ok (), {}, d) := by
  unfold Recorder.close recorderAt
  simp only [run_finish]

/-- A group that ends leaves its file complete. -/
theorem run_closeGroup (standard : inner.Standard) {title : Option String}
    (opened : s.state.2 = recorderAt place id (recordName group) 0)
    (holds : Folder.Holds start place id (files.filed (recordName group) (tableBytes title []))
      s.world.disk) :
    ∃ t, (closeGroup inner group).run s = (.ok (), t) ∧ t.context = s.context ∧ t.state.2 = {} ∧
      Folder.Holds start place id (files.filed (recordName group)
        (tableBytes title (numbered s.world.host.load 0 s.context.terminated))) t.world.disk := by
  let table := numbered s.world.host.load 0 s.context.terminated
  let scene : Scene κ σ := { s with state := s.state.1 }
  obtain ⟨d, performed, holds'⟩ :=
    perform_rows 0 table s.state.2.view scene holds
  rw [tableBytes_append] at holds'
  rw [← opened] at performed
  let written := recording s (recorderAt place id (recordName group) (0 + table.length)) d
  have asked : (dictated (inner.groupEnds group)).run s = (.ok (), written) := by
    rw [standard.groupEnds]
    exact run_dictated performed
  refine ⟨recording written {} d, ?_, rfl, rfl, holds'⟩
  have closed : (do orThrow (← recorder Recorder.close) : Code κ (State σ) Unit).run written =
      (.ok (), recording written {} d) := by
    rw [run_bind_of_ok (run_recorder close_recorderAt)]
    rfl
  unfold closeGroup
  simp only [ExceptT.run] at asked closed ⊢
  rw [asked]
  exact closed

/-- What is noted when a group failed. -/
def failureNote (s : Scene κ (State σ)) (group : String) (e : BenchError) : Event :=
  ⟨.error, e.text, [("suite", .text s.context.suite), ("group", .text group)]⟩

/-- The report of a failure is kept where the suite writes. -/
theorem run_keepReport_of_written {e : BenchError} {d : Disk}
    (written : (Access.writeReport (Path.join s.context.outputDirectory (reportName group))
      e.report).run s.world.disk = (.ok (), d)) :
    (keepReport group e : CodeWith Crash κ (State σ) Unit).run s =
      (.ok (), recording (s.noted (failureNote s group e)) s.state.2 d) := by
  have filed := World.access_note written (failureNote s group e)
  unfold failureNote reportName at filed
  unfold keepReport
  simp only [ExceptT.run]
  rw [filed]
  rfl

/-- What is noted when a report cannot be written. -/
def refusalNote (s : Scene κ (State σ)) (group : String) (x : IoFailure) : Event :=
  ⟨.detail, "writing error file failed: " ++ (RecordFailure.io x).message,
    [("path", .text (Path.join s.context.outputDirectory (reportName group)))]⟩

/-- A report that cannot be written is noted and forgotten. -/
theorem run_keepReport_of_refused {e : BenchError} {x : IoFailure} {d : Disk}
    (refused : (Access.writeReport (Path.join s.context.outputDirectory (reportName group))
      e.report).run s.world.disk = (.error x, d)) :
    (keepReport group e : CodeWith Crash κ (State σ) Unit).run s =
      (.ok (), (recording (s.noted (failureNote s group e)) s.state.2 d).noted
        (refusalNote s group x)) := by
  have filed := World.access_note refused (failureNote s group e)
  unfold failureNote reportName at filed
  unfold keepReport
  simp only [ExceptT.run]
  rw [filed]
  rfl

/-- The report of a failure is in the folder. -/
theorem run_keepReport (folder : Folder start root place id)
    (directory : s.context.outputDirectory = Path.join root id)
    (holds : Folder.Holds start place id files s.world.disk)
    (fits : Folder.Fits root id (reportName group)) (e : BenchError) :
    ∃ t, (keepReport group e : CodeWith Crash κ (State σ) Unit).run s = (.ok (), t) ∧
      t.context = s.context ∧ t.state = s.state ∧
      Folder.Holds start place id (files.filed (reportName group) (Bytes.ofText e.report))
        t.world.disk := by
  obtain ⟨d, written, holds'⟩ := folder.run_writeReport holds fits e.report
  rw [← directory] at written
  exact ⟨_, run_keepReport_of_written written, rfl, rfl, holds'⟩

/-! ## Code beside the recorder -/

/-- Code on the state beside the recorder changes neither the recorder nor, if it does not by
itself, the files. -/
theorem run_within {ε : Type} (x : CodeWith ε κ σ α) (quiet : x.LeavesDisk) :
    ((within x).run s).2.state.2 = s.state.2 ∧
      s.world.disk.Untouched ((within x).run s).2.world.disk :=
  ⟨rfl, quiet { s with state := s.state.1 }⟩

/-- Tearing down leaves the files alone when no record file is open. -/
theorem run_closeAll (standard : inner.Standard) (closed : s.state.2 = {}) :
    s.world.disk.Untouched ((closeAll inner).run s).2.world.disk := by
  have nothing : (recorder Recorder.close : Code κ (State σ) _).run s =
      (.ok (.ok ()), recording s {} s.world.disk) := by
    apply run_recorder
    rw [closed]
    rfl
  have quiet : s.world.disk.Untouched
      ((within inner.tearDown).run (recording s {} s.world.disk)).2.world.disk :=
    (run_within inner.tearDown standard.tearDown).2
  unfold closeAll
  rw [run_bind_of_ok nothing]
  rcases torn : (within inner.tearDown).run (recording s {} s.world.disk) with ⟨answer, t⟩
  rw [torn] at quiet
  cases answer with
  | error e =>
    rw [run_bind_of_error torn]
    exact quiet
  | ok _ =>
    rw [run_bind_of_ok torn]
    exact quiet

end Hooks

/-! ## Hooks that keep their context -/

section Kept

variable {inner : RecordedSuite κ σ}

theorem keepsContext_within {x : CodeWith ε κ σ α} (keeps : x.KeepsContext) :
    (within x).KeepsContext :=
  fun s => keeps { s with state := s.state.1 }

theorem keepsContext_recorder
    (x : Recorder → Disk → Except RecordFailure Unit × Recorder × Disk) :
    (recorder x : Code κ (State σ) _).KeepsContext := fun _ => rfl

theorem keepsContext_described (x : σ → Except Payload α) :
    (described x : Code κ (State σ) α).KeepsContext := by
  intro s
  cases told : x s.state.1 with
  | ok _ => rw [run_described told]
  | error _ => rw [run_described_of_panic told]

theorem keepsContext_orThrow (a : Except RecordFailure Unit) :
    (orThrow a : Code κ (State σ) Unit).KeepsContext := by
  cases a <;> exact fun _ => rfl

theorem keepsContext_closing :
    (do orThrow (← recorder Recorder.close) : Code κ (State σ) Unit).KeepsContext :=
  (keepsContext_recorder _).bind keepsContext_orThrow

theorem keepsContext_openGroup (inner : RecordedSuite κ σ) (group : String) :
    (openGroup inner group).KeepsContext := by
  have seen : (CodeWith.context : Code κ (State σ) (Context κ)).KeepsContext := fun _ => rfl
  refine seen.bind fun c => (keepsContext_described _).bind fun title => ?_
  refine (keepsContext_described _).bind fun headers => (keepsContext_recorder _).bind fun opened => ?_
  exact (keepsContext_orThrow opened).bind fun _ _ => rfl

theorem keepsContext_closeGroup {group : String}
    (keeps : (dictated (inner.groupEnds group)).KeepsContext) :
    (closeGroup inner group).KeepsContext := by
  intro s
  have kept := keeps s
  rcases asked : (dictated (inner.groupEnds group)).run s with ⟨answer, t⟩
  rw [asked] at kept
  unfold closeGroup
  simp only [ExceptT.run] at asked ⊢
  rw [asked]
  cases answer with
  | ok _ =>
    have closed := keepsContext_closing (κ := κ) (σ := σ) t
    simp only [ExceptT.run] at closed
    rw [closed, kept]
  | error e =>
    cases e with
    | failure e => exact kept
    | crash c => exact kept

theorem keepsContext_keepReport (group : String) (e : BenchError) :
    (keepReport group e : CodeWith Crash κ (State σ) Unit).KeepsContext := by
  intro s
  unfold keepReport
  simp only [ExceptT.run]
  split <;> rfl

theorem keepsContext_closeAll (keeps : inner.tearDown.KeepsContext) :
    (closeAll inner).KeepsContext :=
  (keepsContext_recorder _).bind fun closed =>
    (keepsContext_within keeps).bind fun _ => keepsContext_orThrow closed

/-- Whatever comes of a row, the context is left alone. -/
theorem context_perform_rows (table : List (List String)) (view : RecorderView) (s : Scene κ σ)
    (r : Recorder) : ((Recorded.rows table view s).perform r).2.2.context = s.context := by
  induction table generalizing view s r with
  | nil => rfl
  | cons cells rest ih =>
    rcases written : r.write cells s.world.disk with ⟨answer, r', disk⟩
    have step : (Recorded.rows (cells :: rest) view s).perform r = _ := perform_row written
    rw [step]
    cases answer with
    | ok _ => exact ih _ _ _
    | error _ => rfl

/-- The rows of a group by default need the context only to be read. -/
theorem keepsContext_standardRows : (dictated (standardRows : Recorded κ σ Unit)).KeepsContext := by
  intro s
  have kept := context_perform_rows (numbered s.world.host.load 0 s.context.terminated)
    s.state.2.view { s with state := s.state.1 } s.state.2
  have ran : ((dictated (standardRows : Recorded κ σ Unit)).run s).2.context = s.context := kept
  rw [ran]

open CodeWith in
/-- The hooks that a recorded suite has by default keep their context. -/
theorem keepsContext_default (title : σ → Except Payload (Option String))
    (operations : Work Crash σ (List (Microbench.Operation σ))) :
    ({ title, operations } : RecordedSuite κ σ).KeepsContext where
  setUp := keepsContext_pure ()
  determineRuns _ := keepsContext_pure _
  runStarts _ := keepsContext_pure ()
  repetitionStarts _ _ := keepsContext_pure ()
  runEnds _ := fun _ => rfl
  groupEnds _ := keepsContext_standardRows
  tearDown := keepsContext_pure ()

/-- Beside its recorder a suite keeps its context if it does without. -/
theorem keepsContext_suite (keeps : inner.KeepsContext) : (suite inner).KeepsContext where
  setUp := keepsContext_within keeps.setUp
  groupStarts group :=
    (keepsContext_openGroup inner group).bind fun _ => keepsContext_within (keeps.determineRuns group)
  runStarts run := keepsContext_within (keeps.runStarts run)
  repetitionStarts run repetition := keepsContext_within (keeps.repetitionStarts run repetition)
  runEnds := keeps.runEnds
  groupEnds group := keepsContext_closeGroup (keeps.groupEnds group)
  groupFailed := keepsContext_keepReport
  tearDown := keepsContext_closeAll keeps.tearDown

end Kept

end Recording

end Microbench
