import Microbench.Proofs.Recording.Accounts

/-!
# What a recorded suite leaves on disk

After a run of the engine that returned, the folder of a recorded suite that keeps its context holds
a record file for each group and an error report for each group that failed, and nothing else. What
the files hold is what the calls made of the suite tell: the record file of a group is read back with
a row for every run that was measured.
-/

namespace Microbench.Recording

open CodeWith Scene Engine

variable {κ σ : Type}

/-! ## Names of files -/

theorem group_of_extended {group group' extension : String}
    (same : group ++ "." ++ extension = group' ++ "." ++ extension) : group = group' := by
  have chars := congrArg String.toList same
  simp only [String.toList_append] at chars
  exact String.toList_inj.mp (List.append_cancel_right (List.append_cancel_right chars))

namespace Account

/-- The names of the files that a group leaves. -/
def Owns (a : Account) (name : String) : Prop :=
  name = recordName a.group ∨ a.failure.isSome ∧ name = reportName a.group

variable {a b : Account} {files : Files} {name : String}

theorem Owns.group_eq (h : a.Owns name) (h' : b.Owns name) : a.group = b.group := by
  rcases h with first | ⟨-, first⟩
  · rcases h' with second | ⟨-, second⟩
    · exact group_of_extended (first.symm.trans second)
    · exact absurd (first.symm.trans second) (recordName_ne_reportName _ _)
  · rcases h' with second | ⟨-, second⟩
    · exact absurd (second.symm.trans first) (recordName_ne_reportName _ _)
    · exact group_of_extended (first.symm.trans second)

theorem filed_record (a : Account) (files : Files) :
    a.filed files (recordName a.group) = some (tableBytes a.title a.table) :=
  Files.filed_same _ _ _

theorem filed_report {e : BenchError} (failed : a.failure = some e) (files : Files) :
    a.filed files (reportName a.group) = some (Bytes.ofText e.report) := by
  unfold filed
  rw [Files.filed_other _ _ (recordName_ne_reportName _ _).symm, failed]
  exact Files.filed_same _ _ _

theorem filed_of_not_owns (not : ¬ a.Owns name) : a.filed files name = files name := by
  have record : name ≠ recordName a.group := fun same => not (.inl same)
  unfold filed
  rw [Files.filed_other _ _ record]
  cases failed : a.failure with
  | none => rfl
  | some e =>
    apply Files.filed_other _ _
    intro same
    exact not (.inr ⟨by rw [failed]; rfl, same⟩)

end Account

theorem filedAll_of_not_owned {accounts : List Account} {files : Files} {name : String}
    (not : ∀ a ∈ accounts, ¬ a.Owns name) : filedAll accounts files name = files name := by
  induction accounts generalizing files with
  | nil => rfl
  | cons a rest ih =>
    have step : filedAll (a :: rest) files = filedAll rest (a.filed files) := rfl
    rw [step, ih fun b mem => not b (List.mem_cons_of_mem _ mem)]
    exact Account.filed_of_not_owns (not a List.mem_cons_self)

/-- No group touches the files of another. -/
theorem filedAll_of_owned {accounts : List Account} (files : Files) {name : String} {a : Account}
    (distinct : (accounts.map (·.group)).Nodup) (mem : a ∈ accounts) (owns : a.Owns name) :
    ∃ before, filedAll accounts files name = a.filed before name := by
  induction accounts generalizing files with
  | nil => cases mem
  | cons b rest ih =>
    have step : filedAll (b :: rest) files = filedAll rest (b.filed files) := rfl
    rw [List.map_cons, List.nodup_cons] at distinct
    rcases List.mem_cons.mp mem with rfl | later
    · refine ⟨files, ?_⟩
      rw [step, filedAll_of_not_owned]
      intro c inRest owns'
      rw [owns.group_eq owns'] at distinct
      exact distinct.1 (List.mem_map_of_mem inRest)
    · rw [step]
      exact ih _ distinct.2 later

/-! ## Reading the records back -/

/-- The cells of a run in the standard columns, as they are read back. -/
def readRow (load : Float) (order : Nat) (run : Run) : List String :=
  [Decimal.text order, RecordFile.sanitize run.name, Decimal.signedText run.duration,
    Decimal.signedText run.average, Decimal.fixed 3 run.deviation, Decimal.fixed 2 load]

/-- The record of a group, as it is read back: an absent or empty title is none. -/
def Account.record (a : Account) : RecordFile where
  title := if a.title.getD "" = "" then none
    else some (Text.trim (RecordFile.sanitize (a.title.getD "")))
  headers := standardHeaders
  rows := a.terminated.mapIdx (readRow a.load)

theorem map_sanitize_standardRow (load : Float) (order : Nat) (run : Run) :
    (standardRow load order run).map RecordFile.sanitize = readRow load order run := by
  simp only [standardRow, readRow, List.map_cons, List.map_nil, Decimal.sanitize_text,
    Decimal.sanitize_signedText, Decimal.sanitize_fixed]

theorem map_sanitize_numbered (load : Float) (n : Nat) (runs : List Run) :
    (numbered load n runs).map (·.map RecordFile.sanitize) =
      runs.mapIdx fun i run => readRow load (n + i) run := by
  induction runs generalizing n with
  | nil => rfl
  | cons run rest ih =>
    rw [numbered, List.map_cons, map_sanitize_standardRow, ih, List.mapIdx_cons]
    simp only [Nat.add_zero, Nat.add_assoc, Nat.add_comm 1]

theorem length_of_mem_numbered {load : Float} {n : Nat} {runs : List Run} {row : List String}
    (mem : row ∈ numbered load n runs) : row.length = standardHeaders.length := by
  induction runs generalizing n with
  | nil => cases mem
  | cons run rest ih =>
    rcases List.mem_cons.mp mem with rfl | later
    · rfl
    · exact ih later

/-- The standard headers start with a letter, a title with a dash. -/
theorem standardHeaders_plain (title : Option String) :
    ¬ RecordFile.HeadersLookLikeTitle title standardHeaders := by
  rintro ⟨-, m, same⟩
  have first : (RecordFile.line standardHeaders).toList.head? = some 'O' := by decide
  rw [same] at first
  cases first

theorem ofText_table (a : Account) :
    RecordFile.ofText (String.ofList
      (Text.ofLines (RecordFile.linesOf a.title standardHeaders a.table))) = .ok a.record := by
  have headers : standardHeaders.map RecordFile.sanitize = standardHeaders := by decide
  have rows : a.table.map (·.map RecordFile.sanitize) = a.record.rows := by
    unfold Account.table
    rw [map_sanitize_numbered]
    simp only [Nat.zero_add]
    rfl
  have even : ∀ row ∈ a.table, row.length = standardHeaders.length :=
    fun row mem => length_of_mem_numbered mem
  have read := (RecordFile.ofLines_linesOf a.title standardHeaders_ne_nil even).mpr
    (standardHeaders_plain a.title)
  rw [RecordFile.written, headers, rows] at read
  rw [RecordFile.ofText, String.toList_ofList, RecordFile.lines_linesOf]
  exact read

/-! ## The folder after a run -/

/-- What the calls made of a recorded suite tell of its groups, from the first call to the last. -/
structure Told (inner : RecordedSuite κ σ) (log : List (Visit κ (State σ)))
    (accounts : List Account) : Prop where
  calls : ∃ first declared blocks last, log = first :: declared :: (List.flatten blocks ++ [last]) ∧
    first.call = .setUp ∧ declared.call = .operations ∧
    declared.answer = .declared (accounts.map (·.group)) ∧ last.call = .tearDown ∧
    List.Forall₂ (Account.Tells inner) accounts blocks

/-- What the groups of a suite leave in its folder. -/
structure Leaves (root : String) (place : List String) (id : String) (accounts : List Account)
    (d : Disk) : Prop where
  /-- The record file of each group is read back as the record of the group. -/
  record : ∀ a ∈ accounts,
    ((Access.readRecords (Path.join (Path.join root id) (recordName a.group))).run d).1 = .ok a.record
  /-- The report of each failed group is the report of its failure. -/
  report : ∀ a ∈ accounts, ∀ e, a.failure = some e →
    d.node? (place ++ [id, reportName a.group]) = some (.file (Bytes.ofText e.report))
  /-- There is nothing else. -/
  only : ∀ p, p ≠ [] → d.node? (place ++ id :: p) ≠ none →
    ∃ a ∈ accounts, ∃ name, a.Owns name ∧ p = [name]

theorem run_readRecords {path text : String} {d d' : Disk}
    (read : (Access.readText path).run d = (.ok text, d')) :
    ((Access.readRecords path).run d).1 = RecordFile.ofText text := by
  unfold Access.readRecords
  simp only [ExceptT.run] at read ⊢
  rw [read]

section Folder

variable {start : Disk} {root id : String} {place : List String} {accounts : List Account}
  {d : Disk}

theorem leaves_of_holds (folder : Folder start root place id)
    (distinct : (accounts.map (·.group)).Nodup)
    (nameable : ∀ a ∈ accounts, Nameable root id a.group)
    (holds : Folder.Holds start place id (filedAll accounts fun _ => none) d) :
    Leaves root place id accounts d where
  record := by
    intro a mem
    obtain ⟨before, filed⟩ := filedAll_of_owned (fun _ => none) distinct mem (.inl rfl)
    rw [a.filed_record] at filed
    have read := folder.run_readText holds (nameable a mem).record filed
    rw [run_readRecords read]
    exact ofText_table a
  report := by
    intro a mem e failed
    have owns : a.Owns (reportName a.group) := .inr ⟨by rw [failed]; rfl, rfl⟩
    obtain ⟨before, filed⟩ := filedAll_of_owned (fun _ => none) distinct mem owns
    rw [holds.file, filed, Account.filed_report failed]
    rfl
  only := by
    intro p filled stands
    rcases p with _ | ⟨name, rest⟩
    · exact absurd rfl filled
    · have alone : rest = [] := by
        by_contra more
        exact stands (holds.deeper name rest more)
      subst alone
      rw [holds.file] at stands
      by_contra other
      apply stands
      rw [filedAll_of_not_owned]
      · rfl
      · intro a mem owns
        exact other ⟨a, mem, name, owns, rfl⟩

end Folder

/-! ## The life of a recorded suite -/

/-- A name and the path to it are as short as the system wants them. -/
structure Within (root id name : String) : Prop where
  short : name.utf8ByteSize ≤ Disk.longestName
  path : (Path.join (Path.join root id) name).utf8ByteSize < Disk.longestPath

/-- Whatever the operations of a suite are, their names are different ones, and names that files may
have. -/
structure NamesFiles (inner : RecordedSuite κ σ) (root id : String) : Prop where
  distinct : ∀ s os, (inner.operations.run s).1 = .ok os → (os.map (·.name)).Nodup
  no_slash : ∀ s os, (inner.operations.run s).1 = .ok os → ∀ o ∈ os, '/' ∉ o.name.toList
  no_nul : ∀ s os, (inner.operations.run s).1 = .ok os → ∀ o ∈ os, '\x00' ∉ o.name.toList
  record : ∀ s os, (inner.operations.run s).1 = .ok os → ∀ o ∈ os,
    Within root id (recordName o.name)
  report : ∀ s os, (inner.operations.run s).1 = .ok os → ∀ o ∈ os,
    Within root id (reportName o.name)

theorem plainName_append {group ext : String} (slash : '/' ∉ group.toList)
    (nul : '\x00' ∉ group.toList) (long : 2 ≤ ext.length) (slash' : '/' ∉ ext.toList)
    (nul' : '\x00' ∉ ext.toList) : Path.PlainName (group ++ "." ++ ext) := by
  have size : (group ++ "." ++ ext).length = group.length + 1 + ext.length := by
    rw [String.length_append, String.length_append]
    rfl
  have chars : ∀ c, c ∈ (group ++ "." ++ ext).toList →
      c ∈ group.toList ∨ c = '.' ∨ c ∈ ext.toList := by
    intro c mem
    rw [String.toList_append, String.toList_append, List.mem_append, List.mem_append] at mem
    rcases mem with (inGroup | dot) | inExt
    · exact .inl inGroup
    · exact .inr (.inl (List.mem_singleton.mp dot))
    · exact .inr (.inr inExt)
  have longer : ∀ s : String, s.length < 3 → group ++ "." ++ ext ≠ s := by
    rintro s short rfl
    omega
  exact
    { filled := longer "" (by decide)
      no_dot := longer "." (by decide)
      no_dots := longer ".." (by decide)
      no_slash := by
        intro mem
        rcases chars _ mem with inGroup | dot | inExt
        · exact slash inGroup
        · exact absurd dot (by decide)
        · exact slash' inExt
      no_nul := by
        intro mem
        rcases chars _ mem with inGroup | dot | inExt
        · exact nul inGroup
        · exact absurd dot (by decide)
        · exact nul' inExt }

theorem NamesFiles.nameable {inner : RecordedSuite κ σ} {root id : String}
    (named : NamesFiles inner root id) {s : σ × World} {os : List (Microbench.Operation σ)}
    (declared : (inner.operations.run s).1 = .ok os) {o : Microbench.Operation σ} (mem : o ∈ os) :
    Nameable root id o.name := by
  have slash := named.no_slash s os declared o mem
  have nul := named.no_nul s os declared o mem
  have record := named.record s os declared o mem
  have report := named.report s os declared o mem
  constructor
  · exact ⟨plainName_append slash nul (by decide) (by decide) (by decide), record.short, record.path⟩
  · exact ⟨plainName_append slash nul (by decide) (by decide) (by decide), report.short, report.path⟩

section Life

variable {inner : RecordedSuite κ σ} {start : Disk} {root id : String} {place : List String}
  {files : Files} {s t : Scene κ (State σ)} {log : List (Visit κ (State σ))}

/-- The folder is there and empty when the suite has prepared itself. -/
theorem rests_of_setUp (standard : inner.Standard) (keeps : inner.KeepsContext)
    (folder : Folder start root place id) (disk : s.world.disk = start)
    (directory : s.context.outputDirectory = Path.join root id) (closed : s.state.2 = {})
    {answer : Except Stop Unit}
    (walk : SetUpWalk (suite inner) s log answer t) (returned : answer = .ok ()) :
    ∃ v, log = [v] ∧ v.call = .setUp ∧ Rests start root place id (fun _ => none) t := by
  cases walk with
  | noDirectory _ => cases returned
  | refused _ _ _ _ => cases returned
  | halted _ _ _ _ => cases returned
  | ready made begun entered =>
    rename_i s' w
    have access : ((Access.makeDirectories s.context.outputDirectory).run s.world.disk).2 = w.disk :=
      congrArg (fun result => result.2.disk) made
    rw [directory, disk, folder.run_makeDirectories] at access
    have begins : Rests start root place id (fun _ => none) s' := by
      subst begun
      refine ⟨directory, closed, ?_⟩
      change Folder.Holds start place id _ w.disk
      rw [← access]
      exact folder.holds_made
    have prepared : Measures s' [s'.visit .setUp .returned] t :=
      .kept (spares_within standard.setUp) (keepsContext_within keeps.setUp) entered ⟨rfl, rfl, rfl⟩
    exact ⟨_, rfl, rfl, begins.measures prepared⟩

theorem untouched_of_tearDown (standard : inner.Standard) (closed : s.state.2 = {})
    {answer : Except Stop Unit} (ended : (suite inner).tearDown.run s = (answer, t)) :
    s.world.disk.Untouched t.world.disk := by
  have untouched := run_closeAll standard closed
  have hook : (suite inner).tearDown = closeAll inner := rfl
  rw [← hook, ended] at untouched
  exact untouched

/-- The declared operations are those of the suite beside its recorder. -/
theorem declared_of_operations (standard : inner.Standard) (named : NamesFiles inner root id)
    (rests : Rests start root place id files s) {operations : List (Microbench.Operation (State σ))}
    (declared : (ofWork (suite inner).operations).run s = (.ok operations, t)) :
    (operations.map (·.name)).Nodup ∧ (∀ o ∈ operations, SparesCalls o) ∧
      (∀ o ∈ operations, Nameable root id o.name) ∧ Rests start root place id files t := by
  rcases inside : inner.operations.run (s.state.1, s.world) with ⟨answer, state, world⟩
  have quiet := standard.operations (s.state.1, s.world)
  rw [inside] at quiet
  have step : (ofWork (suite inner).operations : CodeWith Crash κ (State σ) _).run s =
    ((inner.operations.run (s.state.1, s.world)).1.map (·.map operation),
      { s with
        state := ((inner.operations.run (s.state.1, s.world)).2.1, s.state.2)
        world := (inner.operations.run (s.state.1, s.world)).2.2 }) := rfl
  rw [step, inside] at declared
  cases answer with
  | error c => cases declared
  | ok os =>
    cases declared
    have answered : (inner.operations.run (s.state.1, s.world)).1 = .ok os := by rw [inside]
    refine ⟨?_, ?_, ?_, ?_⟩
    · rw [List.map_map]
      exact named.distinct _ _ answered
    · intro o mem
      rcases List.mem_map.mp mem with ⟨o', mem', rfl⟩
      exact sparesCalls_operation (standard.calls _ _ answered o' mem')
    · intro o mem
      rcases List.mem_map.mp mem with ⟨o', mem', rfl⟩
      exact named.nameable answered mem'
    · exact ⟨rests.directory, rests.closed, rests.holds.untouched quiet⟩

variable [Arithmetic κ]

/-- What the life of a recorded suite tells and leaves. -/
theorem leaves_of_walk (standard : inner.Standard) (keeps : inner.KeepsContext)
    (folder : Folder s.world.disk root place id)
    (directory : s.context.outputDirectory = Path.join root id) (closed : s.state.2 = {})
    (named : NamesFiles inner root id) {clock : Clock} {window : Window κ}
    {answer : Except Stop Summary} (walk : SuiteWalk (suite inner) clock window s log answer t)
    {summary : Summary} (returned : answer = .ok summary) :
    ∃ accounts, Told inner log accounts ∧
      summary = tallied { suite := s.context.suite }
        (accounts.map fun a => (a.group, a.failure.isNone)) ∧
      Leaves root place id accounts t.world.disk := by
  cases walk with
  | unready _ _ => cases returned
  | undeclared _ _ _ => cases returned
  | halted _ _ _ _ => cases returned
  | crashed _ _ _ _ _ => cases returned
  | finished same setUp declared groups ended _ same' =>
    have context := same.context
    obtain ⟨first, rfl, first', rests⟩ := rests_of_setUp standard keeps folder same.disk
      (by rw [context]; exact directory) (by rw [same.state]; exact closed) setUp rfl
    obtain ⟨distinct, spares, nameable, rests'⟩ :=
      declared_of_operations standard named rests declared
    obtain ⟨accounts, blocks, rfl, tells, names, rfl, rests''⟩ := accounts_of_groups standard keeps
      folder
      (fun o mem => spares _ (mem_of_mem_scheduled mem))
      (fun o mem => nameable _ (mem_of_mem_scheduled mem)) rests' groups rfl
    rw [map_name_scheduled] at names
    cases returned
    refine ⟨accounts, ?_, rfl, ?_⟩
    · rw [← names]
      exact ⟨_, _, _, _, rfl, first', rfl, rfl, rfl, tells⟩
    · have distinct' : (accounts.map (·.group)).Nodup := by rw [names]; exact distinct
      refine leaves_of_holds folder distinct' ?_ ?_
      · intro a mem
        have declared' := List.mem_map_of_mem (f := Account.group) mem
        rw [names] at declared'
        rcases List.mem_map.mp declared' with ⟨o, mem', name⟩
        rw [← name]
        exact nameable o mem'
      · rw [same'.disk]
        exact rests''.holds.untouched (untouched_of_tearDown standard rests''.closed ended)

end Life

/-- If the suite keeps its context, a run that returned leaves what the calls made of the suite tell: a
record file for each group, with a row for every run that was measured, and a report for each group
that failed. -/
theorem run_leaves_records [Arithmetic κ] (inner : RecordedSuite κ σ) (clock : Clock)
    (window : Window κ) (s : Scene κ (State σ)) {root id : String} {place : List String}
    (standard : inner.Standard) (keeps : inner.KeepsContext)
    (folder : Folder s.world.disk root place id)
    (directory : s.context.outputDirectory = Path.join root id) (closed : s.state.2 = {})
    (named : NamesFiles inner root id) {summary : Summary}
    (returned : ((run (suite inner) clock window).run s).1 = .ok summary) :
    ∃ log accounts, (∀ past, (run (suite inner).watched clock window).run (s.watching past) =
        (.ok summary, ((run (suite inner) clock window).run s).2.watching (past ++ log))) ∧
      Told inner log accounts ∧
      summary.completed = (accounts.filter (·.failure.isNone)).map (·.group) ∧
      summary.failed = (accounts.filter (·.failure.isSome)).map (·.group) ∧
      Leaves root place id accounts ((run (suite inner) clock window).run s).2.world.disk := by
  obtain ⟨log, listed, walk⟩ := follows_run (suite inner) clock window s
  rw [returned] at listed walk
  obtain ⟨accounts, told, rfl, leaves⟩ :=
    leaves_of_walk standard keeps folder directory closed named walk rfl
  refine ⟨log, accounts, listed, told, ?_, ?_, leaves⟩
  · rw [tallied_eq]
    simp [List.filter_map, Function.comp_def]
  · rw [tallied_eq]
    simp [List.filter_map, Function.comp_def]

/-- A suite with an operation that returns and one that fails. -/
def unlucky : RecordedSuite Float Unit where
  title _ := .ok (some "Luck")
  operations := pure [⟨"good", pure ()⟩, ⟨"bad", throw (.failure (.message "no luck"))⟩]

/-- Where a suite starts that writes below the root directory. -/
def begun : Scene Float (State Unit) where
  state := ((), {})
  context :=
    { suite := "suite"
      outputDirectory := "/suite"
      properties := .empty
      knobs := { calls := 1, repetitions := 2 }
      progress := 0 }
  world := {}

theorem standard_unlucky : unlucky.Standard where
  titled := fun _ => ⟨_, rfl⟩
  headers := rfl
  runEnds := rfl
  groupEnds := rfl
  setUp := fun _ => .refl _
  operations := fun _ => .refl _
  calls := by
    rintro s os declared o mem
    cases declared
    rcases List.mem_cons.mp mem with rfl | mem
    · exact fun _ => .refl _
    · rw [List.mem_singleton.mp mem]
      exact fun _ => .refl _
  determineRuns := fun _ _ => .refl _
  runStarts := fun _ _ => .refl _
  repetitionStarts := fun _ _ _ => .refl _
  tearDown := fun _ => .refl _

theorem keepsContext_unlucky : unlucky.KeepsContext := keepsContext_default _ _

theorem namesFiles_unlucky : NamesFiles unlucky "/" "suite" := by
  have names : ∀ (P : String → Prop), P "good" → P "bad" → ∀ (s : Unit × World) os,
      (unlucky.operations.run s).1 = .ok os → ∀ o ∈ os, P o.name := by
    intro P good bad s os declared o mem
    cases declared
    rcases List.mem_cons.mp mem with rfl | mem
    · exact good
    · rw [List.mem_singleton.mp mem]
      exact bad
  exact
    { distinct := by
        intro s os declared
        cases declared
        decide
      no_slash := names (fun n => '/' ∉ n.toList) (by decide) (by decide)
      no_nul := names (fun n => '\x00' ∉ n.toList) (by decide) (by decide)
      record :=
        names (fun n => Within _ _ (recordName n)) ⟨by decide, by decide⟩ ⟨by decide, by decide⟩
      report :=
        names (fun n => Within _ _ (reportName n)) ⟨by decide, by decide⟩ ⟨by decide, by decide⟩ }

theorem folder_begun : Folder begun.world.disk "/" [] "suite" where
  calm := fun _ => rfl
  leads := by decide +kernel
  stands := rfl
  empty := by
    intro p filled
    cases p with
    | nil => exact absurd rfl filled
    | cons _ _ => rfl
  plain := ⟨by decide, by decide, by decide, by decide, by decide⟩
  short := by decide
  path := by decide

theorem run_leaves_records_unlucky : ∃ log accounts,
    ((run (suite unlucky) (fun _ => 0) .full).run begun).1 =
      .ok { suite := "suite", completed := ["good"], failed := ["bad"] } ∧
    Told unlucky log accounts ∧
    Leaves "/" [] "suite" accounts
      ((run (suite unlucky) (fun _ => 0) .full).run begun).2.world.disk := by
  have returned : ((run (suite unlucky) (fun _ => 0) .full).run begun).1 =
      .ok { suite := "suite", completed := ["good"], failed := ["bad"] } := by decide +kernel
  obtain ⟨log, accounts, -, told, -, -, leaves⟩ := run_leaves_records unlucky (fun _ => 0) .full begun
    standard_unlucky keepsContext_unlucky folder_begun (by decide) rfl namesFiles_unlucky returned
  exact ⟨log, accounts, returned, told, leaves⟩

end Microbench.Recording
