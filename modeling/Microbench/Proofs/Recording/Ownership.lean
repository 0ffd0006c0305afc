import Microbench.Proofs.Disk.Writing
import Microbench.Proofs.Engine.Links
import Microbench.Proofs.Record.Keeping
import Microbench.Proofs.Recording.Records

/-!
# Whose file a row goes to

The file that the recorder holds outlives the group that it was opened for: a group whose end panics
leaves it open. The next group closes it before it opens its own, but asks for the title and the
headers first, and either may panic. The group then fails with the file of the other still open, and
the rows of its end go there.

* `rows_of_group`: that is the only way. A row that a hook asks for during a group is refused, or
  goes to the group's own file, or the group was stalled by its title or headers and the row goes to
  the file that was open before.
* `rows_of_described`: so no row of a group reaches the file of another as long as title and headers
  do not panic.
* `strays_fickle`: that they may panic does matter.
-/

namespace Microbench

variable {ε κ σ α : Type}

/-! ## Rows -/

/-- A record file stands where its path led to when it was made. -/
theorem Access.locate_of_openRecord {path : String} {title : Option String} {headers : List String}
    {d d' : Disk} {f : OpenRecord} (opened : (openRecord path title headers).run d = (.ok f, d')) :
    ∃ d₀ : Disk, d₀.locate path = .ok f.place := by
  obtain ⟨e, _, created, -⟩ := made_of_openRecord opened
  exact ⟨e, (of_createFile created).1⟩

namespace Recorder

variable {r : Recorder} {d : Disk} {place : List String}

/-- The place of the file that is open. -/
def place? (r : Recorder) : Option (List String) := r.file.map (·.place)

theorem write_of_closed (closed : r.place? = none) (cells : List String) :
    r.write cells d = (.error .notOpen, r, d) := by
  have none : r.file = none := Option.map_eq_none_iff.mp closed
  unfold write
  rw [none]

/-- Writing to the file that is open leaves it open and changes nothing at other places. -/
theorem write_of_open (opened : r.place? = some place) (cells : List String) :
    (r.write cells d).2.1.place? = some place ∧ d.SameBut place (r.write cells d).2.2 := by
  obtain ⟨f, held, rfl⟩ := Option.map_eq_some_iff.mp opened
  have kept := RecordWriter.preserves_writeRow (Access.keeps_sink f.place d) cells (f.writer, d)
    fun _ _ => rfl
  rcases ran : (RecordWriter.writeRow (Access.sink f.place) cells).run (f.writer, d) with
    ⟨answer, writer, d'⟩
  rw [ran] at kept
  unfold write
  simp only [held, ran]
  cases answer <;> exact ⟨rfl, kept⟩

theorem place?_write (cells : List String) : (r.write cells d).2.1.place? = r.place? := by
  cases opened : r.place? with
  | none => rw [write_of_closed opened, opened]
  | some place => exact (write_of_open opened cells).1

theorem place?_close : (r.close d).2.1.place? = none := by
  unfold close
  cases held : r.file with
  | none =>
    change r.file.map _ = none
    rw [held]
    rfl
  | some f =>
    dsimp only
    split <;> rfl

/-- A file that was opened stands where its path led to. -/
theorem locate_of_openAt {path : String} {title : Option String} {headers : List String}
    (opened : (r.openAt path title headers d).2.1.place? = some place) :
    ∃ d' : Disk, d'.locate path = .ok place := by
  have closed := r.place?_close (d := d)
  rcases ended : r.close d with ⟨answer, r', d'⟩
  rw [ended] at closed
  unfold openAt at opened
  rw [ended] at opened
  cases answer with
  | error e => exact absurd (closed.symm.trans opened) nofun
  | ok _ =>
    dsimp only at opened
    rcases made : (Access.openRecord path title headers).run d' with ⟨answer, d''⟩
    rw [made] at opened
    cases answer with
    | error e => exact absurd (closed.symm.trans opened) nofun
    | ok f =>
      obtain rfl : f.place = place := Option.some.inj opened
      exact Access.locate_of_openRecord made

end Recorder

/-- What became of a row that a hook asked for: the answer, and the disk before and after. -/
structure AskedRow where
  answer : Except RecordFailure Unit
  before : Disk
  after : Disk

/-- The row was refused, and nothing was written. -/
def AskedRow.Refused (row : AskedRow) : Prop := row.answer = .error .notOpen ∧ row.after = row.before

/-- What was written of the row was written at a place. -/
def AskedRow.WentTo (row : AskedRow) (place : List String) : Prop := row.before.SameBut place row.after

namespace Dictation

/-- The rows that a computation asks for when a recorder carries it out. -/
def asked (r : Recorder) : Dictation κ σ α → List AskedRow
  | done _ _ => []
  | row cells scene next =>
    let (answer, r, disk) := r.write cells scene.world.disk
    ⟨answer, scene.world.disk, disk⟩ ::
      (next answer r.view { scene with world := { scene.world with disk } }).asked r

variable {r : Recorder} {place : List String}

/-- A recorder neither opens nor closes a file while it carries a computation out. -/
theorem place?_perform (x : Dictation κ σ α) : (x.perform r).2.1.place? = r.place? := by
  induction x generalizing r with
  | done _ _ => rfl
  | row cells scene next ih => exact (ih _ _ _).trans (Recorder.place?_write cells)

theorem refused_of_asked (closed : r.place? = none) (x : Dictation κ σ α) :
    ∀ row ∈ x.asked r, row.Refused := by
  induction x generalizing r with
  | done _ _ => exact List.forall_mem_nil _
  | row cells scene next ih =>
    have written := Recorder.write_of_closed (d := scene.world.disk) closed cells
    exact List.forall_mem_cons.mpr ⟨⟨congrArg (·.1) written, congrArg (·.2.2) written⟩,
      ih _ _ _ ((Recorder.place?_write cells).trans closed)⟩

theorem wentTo_of_asked (opened : r.place? = some place) (x : Dictation κ σ α) :
    ∀ row ∈ x.asked r, row.WentTo place := by
  induction x generalizing r with
  | done _ _ => exact List.forall_mem_nil _
  | row cells scene next ih =>
    exact List.forall_mem_cons.mpr ⟨(Recorder.write_of_open opened cells).2,
      ih _ _ _ ((Recorder.place?_write cells).trans opened)⟩

end Dictation

namespace Recording

open CodeWith Scene Engine

variable {inner : RecordedSuite κ σ}

/-- The rows that a call of a recorded suite asks for. -/
def rowsOf (inner : RecordedSuite κ σ) (v : Visit κ (State σ)) : List AskedRow :=
  match v.context with
  | none => []
  | some c =>
    let scene : Scene κ σ := ⟨v.state.1, c, v.world⟩
    match v.call with
    | .runEnds run => (inner.runEnds run v.state.2.view scene).asked v.state.2
    | .groupEnds group => (inner.groupEnds group v.state.2.view scene).asked v.state.2
    | _ => []

theorem refused_of_rowsOf {v : Visit κ (State σ)} (closed : v.state.2.place? = none) :
    ∀ row ∈ rowsOf inner v, row.Refused := by
  unfold rowsOf
  split
  · exact List.forall_mem_nil _
  · dsimp only
    split
    · exact Dictation.refused_of_asked closed _
    · exact Dictation.refused_of_asked closed _
    · exact List.forall_mem_nil _

theorem wentTo_of_rowsOf {v : Visit κ (State σ)} {place : List String}
    (opened : v.state.2.place? = some place) : ∀ row ∈ rowsOf inner v, row.WentTo place := by
  unfold rowsOf
  split
  · exact List.forall_mem_nil _
  · dsimp only
    split
    · exact Dictation.wentTo_of_asked opened _
    · exact Dictation.wentTo_of_asked opened _
    · exact List.forall_mem_nil _

/-! ## The file of a group -/

/-- A place that the path of the record file of a group may lead to. -/
def RecordPlace (directory group : String) (place : List String) : Prop :=
  ∃ d : Disk, d.locate (Path.join directory (recordName group)) = .ok place

theorem last_of_recordPlace {directory group : String} {place : List String}
    (plain : Path.PlainName (recordName group)) (h : RecordPlace directory group place) :
    ∃ above, place = above ++ [recordName group] := by
  obtain ⟨d, led⟩ := h
  obtain ⟨-, -, leads⟩ := Disk.follow_of_locate led
  by_cases empty : directory = ""
  · have alone : Path.join "" (recordName group) = recordName group := by
      unfold Path.join
      rw [Path.not_isAbsolute plain.no_slash]
      rfl
    rw [empty, alone, Path.names_of_no_slash plain.filled plain.no_dot plain.no_slash] at leads
    have single : d.follow _ ([] ++ [recordName group]) = .ok place := leads
    exact Disk.exists_of_follow_concat plain.no_dots single
  · rw [Path.names_join empty plain] at leads
    exact Disk.exists_of_follow_concat plain.no_dots leads

/-- Groups do not share the places of their files. -/
theorem RecordPlace.group_eq {directory directory' group group' : String} {place : List String}
    (plain : Path.PlainName (recordName group)) (plain' : Path.PlainName (recordName group'))
    (h : RecordPlace directory group place) (h' : RecordPlace directory' group' place) :
    group = group' := by
  obtain ⟨above, rfl⟩ := last_of_recordPlace plain h
  obtain ⟨above', same⟩ := last_of_recordPlace plain' h'
  exact group_of_extended (List.cons.inj (List.append_inj' same rfl).2).1

/-! ## The recorder from call to call -/

/-- The file that is open, if there is one, is at one of some places. -/
def Points (places : List String → Prop) (r : Recorder) : Prop :=
  ∀ place, r.place? = some place → places place

variable {places : List String → Prop} {s : Scene κ (State σ)}

theorem points_of_place? {r r' : Recorder} (same : r'.place? = r.place?) (points : Points places r) :
    Points places r' := by
  unfold Points
  rw [same]
  exact points

theorem points_of_closed {r : Recorder} (closed : r.place? = none) : Points places r := by
  unfold Points
  rw [closed]
  nofun

theorem place?_dictated (x : Recorded κ σ α) :
    ((dictated x).run s).2.state.2.place? = s.state.2.place? := Dictation.place?_perform _

/-- Once the file is closed, the recorder points nowhere. -/
theorem exists_of_run_close (s : Scene κ (State σ)) : ∃ answer t,
    (recorder Recorder.close : Code κ (State σ) _).run s = (.ok answer, t) ∧
      t.state.2.place? = none :=
  ⟨_, _, rfl, Recorder.place?_close⟩

theorem place?_closing (s : Scene κ (State σ)) :
    ((do orThrow (← recorder Recorder.close) : Code κ (State σ) Unit).run s).2.state.2.place? =
      none := by
  obtain ⟨answer, t, closing, closed⟩ := exists_of_run_close s
  rw [run_bind_of_ok closing]
  cases answer <;> exact closed

/-- The file is closed, unless the hook crashes. -/
theorem points_closeGroup (group : String) (points : Points places s.state.2) :
    Points places ((closeGroup inner group).run s).2.state.2 := by
  have kept := points_of_place? (place?_dictated (s := s) (inner.groupEnds group)) points
  rcases ended : (dictated (inner.groupEnds group)).run s with ⟨answer, t⟩
  rw [ended] at kept
  obtain ⟨told, u, closing, closed⟩ := exists_of_run_close t
  unfold closeGroup
  simp only [ExceptT.run] at ended closing ⊢
  rw [ended]
  cases answer with
  | ok _ => exact points_of_closed (place?_closing t)
  | error e =>
    cases e with
    | failure e =>
      simp only [closing]
      exact points_of_closed closed
    | crash c => exact kept

theorem state_keepReport (group : String) (e : BenchError) :
    ((keepReport group e : CodeWith Crash κ (State σ) Unit).run s).2.state = s.state := by
  unfold keepReport
  simp only [ExceptT.run]
  split <;> rfl

theorem points_closeAll (s : Scene κ (State σ)) :
    Points places ((closeAll inner).run s).2.state.2 := by
  obtain ⟨told, t, closing, closed⟩ := exists_of_run_close s
  apply points_of_closed
  unfold closeAll
  rw [run_bind_of_ok closing]
  rcases torn : (within inner.tearDown).run t with ⟨answer, u⟩
  have beside : u.state.2 = t.state.2 := by
    have left : ((within inner.tearDown).run t).2.state.2 = t.state.2 := rfl
    rwa [torn] at left
  cases answer with
  | error e =>
    rw [run_bind_of_error torn, beside]
    exact closed
  | ok _ =>
    rw [run_bind_of_ok torn]
    cases told <;> exact (congrArg Recorder.place? beside).trans closed

/-- The operations of a recorded suite are those of the suite beside the recorder. -/
theorem exists_of_declares {o : Microbench.Operation (State σ)}
    (declared : Declares (suite inner : Suite κ (State σ)) o) : ∃ o', o = operation o' := by
  obtain ⟨s, operations, answered, mem⟩ := declared
  have step : ((suite inner).operations.run s).1 =
    (inner.operations.run (s.1.1, s.2)).1.map (·.map operation) := rfl
  rw [step] at answered
  cases inside : (inner.operations.run (s.1.1, s.2)).1 with
  | error c =>
    rw [inside] at answered
    cases answered
  | ok os =>
    rw [inside] at answered
    cases answered
    obtain ⟨o', -, same⟩ := List.mem_map.mp mem
    exact ⟨o', same.symm⟩

/-- During a group no call makes the recorder point elsewhere. -/
theorem points_of_leadsTo {v : Visit κ (State σ)} {b : State σ} (left : LeadsTo (suite inner) v b)
    (inside : ∀ group, v.call ≠ .groupStarts group) (points : Points places v.state.2) :
    Points places b.2 := by
  cases left with
  | groupStarts s group answer => exact absurd rfl (inside group)
  | runEnds s run answer => exact points_of_place? (place?_dictated _) points
  | groupEnds s group answer => exact points_closeGroup group points
  | groupFailed s group error answer =>
    have same : (((suite inner).groupFailed group error).run s).2.state = s.state :=
      state_keepReport group error
    rw [same]
    exact points
  | tearDown s answer => exact points_closeAll s
  | operation s place answer declared =>
    obtain ⟨o, rfl⟩ := exists_of_declares declared
    exact points
  | _ => exact points

/-! ## The start of a group -/

/-- The title or the headers panic, so that a group cannot start. -/
def Stalls (inner : RecordedSuite κ σ) (a : σ) : Prop :=
  (∃ p, inner.title a = .error p) ∨ ∃ p, inner.headers a = .error p

/-- The places that the recorder may point to once a group was started from a state: that of the
group's own file, or, if the group was stalled, that of the file that was open before. -/
def GroupPlaces (inner : RecordedSuite κ σ) (directory group : String) (a : State σ)
    (place : List String) : Prop :=
  RecordPlace directory group place ∨ Stalls inner a.1 ∧ a.2.place? = some place

theorem points_of_stalled {a : State σ} (stalled : Stalls inner a.1) (directory group : String) :
    Points (GroupPlaces inner directory group a) a.2 := fun _ there => .inr ⟨stalled, there⟩

theorem points_openGroup (group : String) (s : Scene κ (State σ)) :
    Points (GroupPlaces inner s.context.outputDirectory group s.state)
      ((openGroup inner group).run s).2.state.2 := by
  have name : group ++ "." ++ RecordFile.extension = recordName group := rfl
  unfold openGroup
  rw [run_bind_of_ok CodeWith.run_context, name]
  cases titled : inner.title s.state.1 with
  | error p =>
    rw [run_bind_of_error (run_described_of_panic titled)]
    exact points_of_stalled (.inl ⟨p, titled⟩) _ _
  | ok title =>
    rw [run_bind_of_ok (run_described titled)]
    cases headed : inner.headers s.state.1 with
    | error p =>
      rw [run_bind_of_error (run_described_of_panic headed)]
      exact points_of_stalled (.inr ⟨p, headed⟩) _ _
    | ok headers =>
      rw [run_bind_of_ok (run_described headed)]
      rcases opened : Recorder.openAt (Path.join s.context.outputDirectory (recordName group)) title
        headers s.state.2 s.world.disk with ⟨answer, r, d⟩
      have points : Points (GroupPlaces inner s.context.outputDirectory group s.state) r := by
        intro place there
        have left := congrArg (·.2.1.place?) opened
        exact .inl (Recorder.locate_of_openAt (left.trans there))
      rw [run_bind_of_ok (run_recorder opened)]
      cases answer <;> exact points

/-- What the call that starts a group makes the recorder point to. -/
theorem points_of_start {v : Visit κ (State σ)} {b : State σ} {group : String}
    (left : LeadsTo (suite inner) v b) (starts : v.call = .groupStarts group) :
    ∃ c, v.context = some c ∧ Points (GroupPlaces inner c.outputDirectory group v.state) b.2 := by
  cases left with
  | groupStarts s group' answer =>
    cases starts
    have points : Points (GroupPlaces inner s.context.outputDirectory group s.state) _ :=
      points_openGroup group s
    refine ⟨s.context, rfl, ?_⟩
    change Points _ (((openGroup inner group >>= fun _ => within (inner.determineRuns group)).run
      s).2.state.2)
    rcases opened : (openGroup inner group).run s with ⟨told, t⟩
    rw [opened] at points
    cases told with
    | error e =>
      rw [run_bind_of_error opened]
      exact points
    | ok _ =>
      rw [run_bind_of_ok opened]
      exact points
  | _ => cases starts

/-! ## The rows of a group -/

variable [Arithmetic κ]

/-- A row of a group is refused, goes to the group's own file, or goes to the file that was open when
the group's title or headers panicked. -/
theorem rows_of_group (inner : RecordedSuite κ σ) (clock : Clock) (window : Window κ)
    (s : Scene κ (State σ)) {before between after : List (Visit κ (State σ))}
    {start v : Visit κ (State σ)} {group : String}
    (split : calls (suite inner) clock window s = before ++ start :: (between ++ v :: after))
    (starts : start.call = .groupStarts group)
    (inside : ∀ u ∈ between, ∀ group', u.call ≠ .groupStarts group') :
    ∃ c, start.context = some c ∧ ∀ row ∈ rowsOf inner v, row.Refused ∨
      ∃ place, row.WentTo place ∧ GroupPlaces inner c.outputDirectory group start.state place := by
  have linked := linked_calls (suite inner) clock window s
  rw [split] at linked
  obtain ⟨_, -, linked⟩ := linked.split
  cases linked with
  | cons left rest =>
    obtain ⟨b, during, later⟩ := rest.split
    obtain ⟨c, seen, opening⟩ := points_of_start left starts
    have points : Points (GroupPlaces inner c.outputDirectory group start.state) v.state.2 := by
      rw [← later.state_eq]
      exact during.keeps (P := fun a => Points _ a.2)
        (fun u mem _ left => points_of_leadsTo left (inside u mem)) opening
    refine ⟨c, seen, fun row mem => ?_⟩
    cases there : v.state.2.place? with
    | none => exact .inl (refused_of_rowsOf there row mem)
    | some place => exact .inr ⟨place, wentTo_of_rowsOf there row mem, points place there⟩

theorem plainName_recordName {group : String} (slash : '/' ∉ group.toList)
    (nul : '\x00' ∉ group.toList) : Path.PlainName (recordName group) :=
  plainName_append slash nul (by decide) (by decide) (by decide)

/-- No row of a group reaches the file of another, unless the group's title or headers panic while a
file is open. -/
theorem rows_of_described (inner : RecordedSuite κ σ) (clock : Clock) (window : Window κ)
    (s : Scene κ (State σ)) {before between after : List (Visit κ (State σ))}
    {start v : Visit κ (State σ)} {group : String}
    (split : calls (suite inner) clock window s = before ++ start :: (between ++ v :: after))
    (starts : start.call = .groupStarts group)
    (inside : ∀ u ∈ between, ∀ group', u.call ≠ .groupStarts group')
    (described : Stalls inner start.state.1 → start.state.2.place? = none)
    (slash : '/' ∉ group.toList) (nul : '\x00' ∉ group.toList) :
    ∀ row ∈ rowsOf inner v, ∀ directory other place, '/' ∉ other.toList → '\x00' ∉ other.toList →
      other ≠ group → RecordPlace directory other place →
      row.after.node? place = row.before.node? place := by
  obtain ⟨c, -, rows⟩ := rows_of_group inner clock window s split starts inside
  intro row mem directory other place slash' nul' different theirs
  rcases rows row mem with ⟨-, same⟩ | ⟨own, went, ours | ⟨stalled, opened⟩⟩
  · rw [same]
  · refine went place fun same => different ?_
    rw [← same] at ours
    exact theirs.group_eq (plainName_recordName slash' nul') (plainName_recordName slash nul) ours
  · rw [described stalled] at opened
    cases opened

/-- A suite whose first group ends in a panic and that has no title from then on. -/
def fickle : RecordedSuite Float Bool where
  title spoiled := if spoiled then .error (.text "no title") else .ok none
  headers _ := .ok []
  operations := pure [⟨"first", pure ()⟩, ⟨"second", pure ()⟩]
  groupEnds group :=
    if group = "first" then .ofCode fun s => (.error (.panicking "spoiled"), { s with state := true })
    else .row [group]

/-- Where the suite starts. -/
def unspoiled : Scene Float (State Bool) where
  state := (false, {})
  context :=
    { suite := "suite", outputDirectory := "/suite", properties := .empty
      knobs := ⟨1, 1, 0, Nat.one_pos, Nat.one_pos⟩, progress := 0 }
  world := {}

/-- The row of the second group stands in the file of the first. -/
theorem strays_fickle :
    let disk := ((run (suite fickle) (fun _ => 0) .full).run unspoiled).2.world.disk
    disk.find? "/suite/first.tsv" = some (.file (Bytes.ofText "second\n")) ∧
      disk.find? "/suite/second.tsv" = none := by
  decide +kernel

end Recording

end Microbench
