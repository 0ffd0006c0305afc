import Mathlib.Data.List.Forall2
import Microbench.Proofs.Recording.Measuring

/-!
# Accounts of groups

An account is what the calls made of a recorded suite tell of one of its groups: the title, the runs
that were measured, the load of the machine at the end and the failure. A group leaves the files
that its account says, whichever way it ended.
-/

namespace Microbench.Recording

open CodeWith Scene Engine

variable {κ σ : Type}

/-- What becomes of a group. -/
structure Account where
  group : String
  title : Option String
  /-- The runs that were measured, in order. -/
  terminated : List Run
  /-- The load of the machine when the group ended. -/
  load : Float
  failure : Option BenchError

namespace Account

/-- The rows of the record file of the group. -/
def table (a : Account) : List (List String) := numbered a.load 0 a.terminated

/-- The files that the group leaves beside those that were there. -/
def filed (a : Account) (files : Files) : Files :=
  ((a.failure.map fun e => files.filed (reportName a.group) (Bytes.ofText e.report)).getD
    files).filed (recordName a.group) (tableBytes a.title a.table)

/-- The account is what the calls of a group tell, from the first, which starts the group. -/
structure Tells (inner : RecordedSuite κ σ) (a : Account) (block : List (Visit κ (State σ))) :
    Prop where
  starts : ∃ v rest, block = v :: rest ∧ v.call = .groupStarts a.group ∧
    inner.title v.state.1 = .ok a.title
  terminated : block.filterMap Visit.ended? = a.terminated
  loads : block.filterMap Visit.load? = [a.load]
  failures : block.filterMap Visit.failure? = a.failure.toList

end Account

theorem recordName_ne_reportName (group group' : String) : recordName group ≠ reportName group' := by
  intro same
  have last := congrArg (fun s => s.toList.getLast?) same
  simp [recordName, reportName, String.toList_append, RecordFile.extension, errorExtension] at last

section Group

variable {inner : RecordedSuite κ σ} {clock : Clock} {start : Disk} {root id : String}
  {place : List String} {files : Files} {s t : Scene κ (State σ)} {log : List (Visit κ (State σ))}

/-- No group is open, and the folder holds these files. -/
structure Rests (start : Disk) (root : String) (place : List String) (id : String) (files : Files)
    (s : Scene κ (State σ)) : Prop where
  directory : s.context.outputDirectory = Path.join root id
  closed : s.state.2 = {}
  holds : Folder.Holds start place id files s.world.disk

/-- The file of a group is open, in front of its rows. -/
structure Open (start : Disk) (root : String) (place : List String) (id : String) (files : Files)
    (group : String) (title : Option String) (s : Scene κ (State σ)) : Prop where
  directory : s.context.outputDirectory = Path.join root id
  recorder : s.state.2 = recorderAt place id (recordName group) 0
  holds : Folder.Holds start place id (files.filed (recordName group) (tableBytes title []))
    s.world.disk

theorem Rests.of_same (rests : Rests start root place id files s) (same : SameButNotes s t) :
    Rests start root place id files t where
  directory := by rw [same.context, rests.directory]
  closed := by rw [same.state, rests.closed]
  holds := by
    rw [same.disk]
    exact rests.holds

theorem Rests.measures (rests : Rests start root place id files s) (h : Measures s log t) :
    Rests start root place id files t where
  directory := h.directory.trans rests.directory
  closed := h.recorder.trans rests.closed
  holds := rests.holds.untouched h.disk

theorem Open.measures {group : String} {title : Option String}
    (opened : Open start root place id files group title s) (h : Measures s log t) :
    Open start root place id files group title t where
  directory := h.directory.trans opened.directory
  recorder := h.recorder.trans opened.recorder
  holds := opened.holds.untouched h.disk

theorem Rests.idle (rests : Rests start root place id files s) :
    Rests start root place id files (s.adjusted idle) :=
  ⟨rests.directory, rests.closed, rests.holds⟩

theorem Open.idle {group : String} {title : Option String}
    (opened : Open start root place id files group title s) :
    Open start root place id files group title (s.adjusted idle) :=
  ⟨opened.directory, opened.recorder, opened.holds⟩

/-! ## The start of a group -/

/-- The file of a group is open whether or not its runs could be determined. -/
theorem open_of_groupStarts (standard : inner.Standard) (keeps : inner.KeepsContext)
    (folder : Folder start root place id) {group : String}
    (fits : Folder.Fits root id (recordName group)) (rests : Rests start root place id files s)
    {answer : Except Stop (List Run)}
    (entered : ((suite inner).groupStarts group).run s = (answer, t)) :
    ∃ title, inner.title s.state.1 = .ok title ∧ t.context.terminated = s.context.terminated ∧
      Open start root place id files group title t := by
  obtain ⟨title, titled⟩ := standard.titled s.state.1
  obtain ⟨u, opened, context, recorder, holds⟩ :=
    run_openGroup standard folder rests.directory rests.closed rests.holds fits titled
  have still := Still.kept ((keepsContext_suite keeps).groupStarts group) entered
  have step : (suite inner).groupStarts group =
    openGroup inner group >>= fun _ => within (inner.determineRuns group) := rfl
  rw [step, run_bind_of_ok opened] at entered
  have spared := spares_within (standard.determineRuns group) u
  rw [entered] at spared
  refine ⟨title, titled, still.terminated, ?_⟩
  exact
    { directory := still.directory.trans rests.directory
      recorder := spared.1.trans recorder
      holds := holds.untouched spared.2 }

variable [Arithmetic κ]

/-- The start of a group and its runs leave the file of the group open and the runs that were
measured in the context. -/
theorem open_of_body (standard : inner.Standard) (keeps : inner.KeepsContext)
    (folder : Folder start root place id) {operation : Operation (State σ)}
    (spares : SparesCalls operation) (fits : Folder.Fits root id (recordName operation.name))
    (rests : Rests start root place id files s) {index : Nat} {window : Window κ}
    {answer : Except Stop Nat}
    (walk : BodyWalk (suite inner) clock operation index window s log answer t) :
    ∃ title v rest, log = v :: rest ∧ v.call = .groupStarts operation.name ∧
      inner.title v.state.1 = .ok title ∧ log.filterMap Visit.ended? = t.context.terminated ∧
      log.filterMap Visit.failure? = [] ∧ log.filterMap Visit.load? = [] ∧
      Open start root place id files operation.name title t := by
  have rests' : Rests start root place id files (s.adjusted (opened window)) :=
    ⟨rests.directory, rests.closed, rests.holds⟩
  cases walk with
  | refused same entered =>
    obtain ⟨title, titled, none, opened⟩ :=
      open_of_groupStarts standard keeps folder fits (rests'.of_same same) entered
    rw [same.context] at none
    exact ⟨title, _, _, rfl, rfl, titled, none.symm, rfl, rfl, opened⟩
  | started same entered walk =>
    obtain ⟨title, titled, none, opened⟩ :=
      open_of_groupStarts standard keeps folder fits (rests'.of_same same) entered
    have measures := Measures.runs (calm_suite standard) (keepsContext_suite keeps) spares walk
    have runs := measures.terminated
    rw [none, same.context] at runs
    exact ⟨title, _, _, rfl, rfl, titled, runs.symm, measures.failures, measures.loads,
      opened.measures measures⟩

/-! ## The end of a group -/

omit [Arithmetic κ] in
/-- The file of a group is complete when the group ends. -/
theorem rests_of_groupEnds (standard : inner.Standard) {group : String} {title : Option String}
    (opened : Open start root place id files group title s) {answer : Except Stop Unit}
    (entered : ((suite inner).groupEnds group).run s = (answer, t)) :
    answer = .ok () ∧ Rests start root place id (files.filed (recordName group)
      (tableBytes title (numbered s.world.host.load 0 s.context.terminated))) t := by
  obtain ⟨u, closed, context, recorder, holds⟩ :=
    run_closeGroup standard opened.recorder opened.holds
  have hook : (suite inner).groupEnds group = closeGroup inner group := rfl
  rw [hook, closed] at entered
  cases entered
  exact ⟨rfl, by rw [context, opened.directory], recorder, holds⟩

omit [Arithmetic κ] in
/-- The report of a failed group is kept beside the open file. -/
theorem open_of_groupFailed (folder : Folder start root place id) {group : String}
    {title : Option String} (fits : Folder.Fits root id (reportName group)) {e : BenchError}
    (opened : Open start root place id files group title s) {answer : Except Crash Unit}
    (entered : ((suite inner).groupFailed group e).run s = (answer, t)) :
    answer = .ok () ∧ t.context.terminated = s.context.terminated ∧
      Open start root place id (files.filed (reportName group) (Bytes.ofText e.report)) group title
        t := by
  obtain ⟨u, kept, context, state, holds⟩ :=
    run_keepReport folder opened.directory opened.holds fits e
  have hook : (suite inner).groupFailed group e = keepReport group e := rfl
  rw [hook, kept] at entered
  cases entered
  refine ⟨rfl, by rw [context], by rw [context, opened.directory], ?_, ?_⟩
  · exact (congrArg Prod.snd state).trans opened.recorder
  · rw [Files.filed_comm _ _ _ (recordName_ne_reportName group group).symm]
    exact holds

omit [Arithmetic κ] in
/-- After a failure the report is kept first; then the group ends as it would have without one. -/
theorem rests_of_failure (standard : inner.Standard) (folder : Folder start root place id)
    {group : String} {title : Option String} (fits : Folder.Fits root id (reportName group))
    {e : BenchError} (opened : Open start root place id files group title s)
    {answer : Except Stop Unit}
    (walk : FailureWalk (suite inner) group e false s log answer t) :
    answer = .ok () ∧ ∃ load, log.filterMap Visit.ended? = [] ∧
      log.filterMap Visit.failure? = [e] ∧ log.filterMap Visit.load? = [load] ∧
      Rests start root place id
        ((files.filed (reportName group) (Bytes.ofText e.report)).filed (recordName group)
          (tableBytes title (numbered load 0 s.context.terminated))) t := by
  cases walk with
  | crashed start told =>
    subst start
    have returned := (open_of_groupFailed folder fits opened.idle told).1
    cases returned
  | ended start told ended _ same =>
    subst start
    obtain ⟨-, runs, opened'⟩ := open_of_groupFailed folder fits opened.idle told
    obtain ⟨rfl, rests⟩ := rests_of_groupEnds standard opened' ended
    rw [runs] at rests
    exact ⟨rfl, _, rfl, rfl, rfl, rests.of_same same⟩
  | halted start told ended uncaught =>
    subst start
    obtain ⟨-, -, opened'⟩ := open_of_groupFailed folder fits opened.idle told
    have returned := (rests_of_groupEnds standard opened' ended).1
    cases returned

/-- Whichever way a group ended, its files are those of its account. -/
theorem account_of_outcome (standard : inner.Standard) (keeps : inner.KeepsContext)
    (folder : Folder start root place id) {operation : Operation (State σ)}
    (spares : SparesCalls operation) (record : Folder.Fits root id (recordName operation.name))
    (report : Folder.Fits root id (reportName operation.name))
    (rests : Rests start root place id files s) {index : Nat} {window : Window κ}
    {answer : Except Stop Bool}
    (walk : OutcomeWalk (suite inner) clock operation index window s log answer t) {completed : Bool}
    (returned : answer = .ok completed) :
    ∃ a : Account, a.group = operation.name ∧ a.failure.isNone = completed ∧ a.Tells inner log ∧
      Rests start root place id (a.filed files) t := by
  cases walk with
  | halted _ _ => cases returned
  | failed body _ failure =>
    obtain ⟨title, v, rest, rfl, starts, titled, runs, noFailure, noLoad, opened⟩ :=
      open_of_body standard keeps folder spares record rests body
    obtain ⟨rfl, load, noRun, failures, loads, rests'⟩ :=
      rests_of_failure standard folder report opened failure
    cases returned
    refine ⟨⟨operation.name, title, _, load, some _⟩, rfl, rfl, ?_, rests'⟩
    exact
      { starts := ⟨v, _, rfl, starts, titled⟩
        terminated := by rw [List.filterMap_append, noRun, List.append_nil, runs]
        loads := by rw [List.filterMap_append, noLoad, loads, List.nil_append]
        failures := by rw [List.filterMap_append, noFailure, failures]; rfl }
  | endHalted _ _ _ => cases returned
  | endFailed body ended _ _ =>
    obtain ⟨title, v, rest, rfl, starts, titled, runs, noFailure, noLoad, opened⟩ :=
      open_of_body standard keeps folder spares record rests body
    have stopped := (rests_of_groupEnds standard opened ended).1
    cases stopped
  | completed body ended same =>
    obtain ⟨title, v, rest, rfl, starts, titled, runs, noFailure, noLoad, opened⟩ :=
      open_of_body standard keeps folder spares record rests body
    obtain ⟨-, rests'⟩ := rests_of_groupEnds standard opened ended
    cases returned
    refine ⟨⟨operation.name, title, _, _, none⟩, rfl, rfl, ?_, rests'.idle.of_same same⟩
    exact
      { starts := ⟨v, _, rfl, starts, titled⟩
        terminated := by rw [List.filterMap_append, runs]; exact List.append_nil _
        loads := by rw [List.filterMap_append, noLoad]; rfl
        failures := by rw [List.filterMap_append, noFailure]; rfl }

/-! ## The groups of a suite -/

/-- The names of the files of a group are names that the folder may have. -/
structure Nameable (root id group : String) : Prop where
  record : Folder.Fits root id (recordName group)
  report : Folder.Fits root id (reportName group)

/-- The files of groups one after the other. -/
def filedAll (accounts : List Account) (files : Files) : Files :=
  accounts.foldl (fun files a => a.filed files) files

/-- The groups leave the files of their accounts, and the summary tells which of them failed. -/
theorem accounts_of_groups (standard : inner.Standard) (keeps : inner.KeepsContext)
    (folder : Folder start root place id) {index : Nat} {summary : Summary}
    {list : List (Operation (State σ) × Window κ)}
    (spares : ∀ o ∈ list, SparesCalls o.1) (nameable : ∀ o ∈ list, Nameable root id o.1.name)
    (rests : Rests start root place id files s) {answer : Except Stop Summary}
    (walk : GroupsWalk (suite inner) clock index summary list s log answer t) {final : Summary}
    (returned : answer = .ok final) :
    ∃ accounts blocks, log = List.flatten blocks ∧
      List.Forall₂ (Account.Tells inner) accounts blocks ∧
      accounts.map (·.group) = list.map (·.1.name) ∧
      final = tallied summary (accounts.map fun a => (a.group, a.failure.isNone)) ∧
      Rests start root place id (filedAll accounts files) t := by
  induction walk generalizing files with
  | none =>
    cases returned
    exact ⟨[], [], rfl, .nil, rfl, rfl, rests⟩
  | stop _ => cases returned
  | next walk later ih =>
    cases walk with
    | finished walk =>
      have names := nameable _ List.mem_cons_self
      obtain ⟨a, group, failure, tells, rests'⟩ := account_of_outcome standard keeps folder
        (spares _ List.mem_cons_self) names.record names.report rests walk rfl
      obtain ⟨accounts, blocks, rfl, told, groups, rfl, rests''⟩ :=
        ih (fun o more => spares o (List.mem_cons_of_mem _ more))
          (fun o more => nameable o (List.mem_cons_of_mem _ more))
          (rests'.measures (.advanced _)) returned
      refine ⟨a :: accounts, _ :: blocks, rfl, .cons tells told, ?_, ?_, rests''⟩
      · rw [List.map_cons, List.map_cons, group, groups]
      · rw [List.map_cons, group, failure]
        rfl

end Group

end Microbench.Recording
