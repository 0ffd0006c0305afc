import Microbench.Failure.Report
import Microbench.Proofs.Disk.Places
import Microbench.Proofs.Record.RoundTrip

/-!
# A folder of files

A folder is made in an empty directory and files are put in it. While no access fails for reasons of
its own, what stands on the disk is known from the files alone: `Folder.Holds`. Every access that
the keeper of records and reports makes has a lemma that says which files it leaves.
-/

namespace Microbench

/-- The files of a folder, by their names. -/
abbrev Files := String → Option Bytes

/-- The files with another one. -/
def Files.filed (files : Files) (name : String) (content : Bytes) : Files :=
  fun n => if n = name then some content else files n

theorem Files.filed_same (files : Files) (name : String) (content : Bytes) :
    files.filed name content name = some content := if_pos rfl

theorem Files.filed_other (files : Files) {name other : String} (content : Bytes)
    (differ : other ≠ name) : files.filed name content other = files other := if_neg differ

theorem Files.filed_filed (files : Files) (name : String) (content content' : Bytes) :
    (files.filed name content).filed name content' = files.filed name content' := by
  funext n
  unfold filed
  split <;> rfl

theorem Files.filed_comm (files : Files) {name name' : String} (content content' : Bytes)
    (differ : name ≠ name') : (files.filed name content).filed name' content' =
      (files.filed name' content').filed name content := by
  funext n
  unfold filed
  by_cases first : n = name
  · rw [first, if_neg differ, if_pos rfl, if_pos rfl]
  · rw [if_neg first, if_neg first]

theorem Files.filed_self {files : Files} {name : String} {held : Bytes}
    (stands : files name = some held) : files.filed name held = files := by
  funext n
  unfold filed
  split
  · rename_i same
    rw [same, stands]
  · rfl

/-- Files laid over others: of two of one name the upper one is seen. -/
def Files.above (upper lower : Files) : Files := fun name => (upper name).or (lower name)

theorem Files.above_of_some {upper : Files} {name : String} {held : Bytes}
    (stands : upper name = some held) (lower : Files) : upper.above lower name = some held := by
  rw [above, stands]
  rfl

/-- Nothing is lost under an upper file that is replaced. -/
theorem Files.filed_above (upper lower : Files) (name : String) (content : Bytes) :
    (upper.above lower).filed name content = (upper.filed name content).above lower := by
  funext n
  unfold filed above
  by_cases same : n = name
  · simp only [if_pos same, Option.some_or]
  · simp only [if_neg same]

theorem Files.above_ne_none_iff {upper lower : Files} {name : String} :
    upper.above lower name ≠ none ↔ upper name ≠ none ∨ lower name ≠ none := by
  unfold above
  cases upper name <;> simp

/-- An empty directory at a place, named by a path, and a name for a folder in it. -/
structure Folder (start : Disk) (root : String) (place : List String) (id : String) : Prop where
  calm : Access.Calm start
  leads : start.locate root = .ok place
  stands : start.node? place = some .directory
  empty : ∀ p, p ≠ [] → start.node? (place ++ p) = none
  plain : Path.PlainName id
  short : id.utf8ByteSize ≤ Disk.longestName
  path : (Path.join root id).utf8ByteSize < Disk.longestPath

namespace Folder

variable {start : Disk} {root id : String} {place : List String}

/-- The folder was made and holds the files; nothing else has changed. -/
structure Holds (start : Disk) (place : List String) (id : String) (files : Files) (d : Disk) :
    Prop where
  calm : Access.Calm d
  here : d.here = start.here
  folder : d.node? (place ++ [id]) = some .directory
  file : ∀ name, d.node? (place ++ [id, name]) = (files name).map .file
  deeper : ∀ name p, p ≠ [] → d.node? (place ++ id :: name :: p) = none
  rest : ∀ p, ¬ (place ++ [id]) <+: p → d.node? p = start.node? p

/-- A name that a file of the folder may have. -/
structure Fits (root id name : String) : Prop where
  plain : Path.PlainName name
  short : name.utf8ByteSize ≤ Disk.longestName
  path : (Path.join (Path.join root id) name).utf8ByteSize < Disk.longestPath

/-! ## Paths into the folder -/

section Paths

variable {files : Files} {d : Disk} {name : String}

theorem root_ne_empty (folder : Folder start root place id) : root ≠ "" :=
  (Disk.follow_of_locate folder.leads).2.1

theorem path_ne_empty (folder : Folder start root place id) : Path.join root id ≠ "" :=
  Path.join_ne_empty folder.root_ne_empty folder.plain

theorem names_path (folder : Folder start root place id) :
    Path.names (Path.join root id) = Path.names root ++ [id] :=
  Path.names_join folder.root_ne_empty folder.plain

theorem no_nul (folder : Folder start root place id) : '\x00' ∉ (Path.join root id).toList := by
  intro mem
  rcases Path.mem_join mem with inRoot | slash | inId
  · exact (Disk.follow_of_locate folder.leads).1 inRoot
  · exact absurd slash (by decide)
  · exact folder.plain.no_nul inId

/-- The directories of the start are still there. -/
theorem directory_of_start (folder : Folder start root place id)
    (holds : Holds start place id files d) {p : List String} (standing : start.node? p = some .directory) :
    d.node? p = some .directory := by
  by_cases below : (place ++ [id]) <+: p
  · rcases below with ⟨rest, rfl⟩
    have none := folder.empty ([id] ++ rest) (List.cons_ne_nil _ _)
    rw [← List.append_assoc, standing] at none
    cases none
  · rw [holds.rest p below, standing]

/-- The names of the root still lead to its place, and from there into the folder. -/
theorem follow_into (folder : Folder start root place id) (holds : Holds start place id files d)
    {more : List String} (some : more ≠ []) (path : String)
    (same : Path.isAbsolute path = Path.isAbsolute root) :
    d.follow (d.startOf path) (Path.names root ++ more) = d.follow place more := by
  have kept := fun p standing => folder.directory_of_start holds (p := p) standing
  have led := Disk.follow_of_directories kept (Disk.follow_of_locate folder.leads).2.2
  have from' : d.startOf path = start.startOf root := by
    unfold Disk.startOf
    rw [same, holds.here]
  rw [from']
  exact Disk.follow_append led (kept _ folder.stands) some

theorem locate_file (folder : Folder start root place id) (holds : Holds start place id files d)
    (fits : Fits root id name) :
    d.locate (Path.join (Path.join root id) name) = .ok (place ++ [id, name]) := by
  have absolute : Path.isAbsolute (Path.join (Path.join root id) name) = Path.isAbsolute root := by
    rw [Path.isAbsolute_join folder.path_ne_empty fits.plain,
      Path.isAbsolute_join folder.root_ne_empty folder.plain]
  have names : Path.names (Path.join (Path.join root id) name) = Path.names root ++ [id, name] := by
    rw [Path.names_join folder.path_ne_empty fits.plain, folder.names_path, List.append_assoc]
    rfl
  have nul : '\x00' ∉ (Path.join (Path.join root id) name).toList := by
    intro mem
    rcases Path.mem_join mem with inPath | slash | inName
    · exact folder.no_nul inPath
    · exact absurd slash (by decide)
    · exact fits.plain.no_nul inName
  obtain ⟨slash, last⟩ := Path.last_join folder.path_ne_empty fits.plain
  refine Disk.locate_of_follow nul (Path.join_ne_empty folder.path_ne_empty fits.plain) fits.path
    ?_ (.inr ⟨?_, ?_⟩)
  · rw [names, folder.follow_into holds (List.cons_ne_nil _ _) _ absolute,
      Disk.follow_next folder.plain.no_dots folder.short (List.cons_ne_nil _ _) holds.folder,
      Disk.follow_last fits.plain.no_dots fits.short, List.append_assoc]
    rfl
  · simpa [Disk.endsInSlash] using slash
  · simp [Disk.endsInDot, last, fits.plain.no_dot]

/-- The path of the folder as those who look for the parent of a file spell it. -/
def spelled (root id : String) : String :=
  Path.ofNames (Path.isAbsolute root) (Path.names root ++ [id])

theorem named (folder : Folder start root place id) : Path.Named (Path.names root ++ [id]) := by
  intro n mem
  rcases List.mem_append.mp mem with inRoot | same
  · rcases Path.mem_names inRoot with ⟨filled, dot, slash, -⟩
    exact ⟨filled, dot, slash⟩
  · rw [List.mem_singleton.mp same]
    exact ⟨folder.plain.filled, folder.plain.no_dot, folder.plain.no_slash⟩

theorem parent?_file (folder : Folder start root place id) (fits : Fits root id name) :
    Path.parent? (Path.join (Path.join root id) name) = some (spelled root id) := by
  have names := Path.names_join folder.path_ne_empty fits.plain
  unfold Path.parent?
  rw [names, Path.isAbsolute_join folder.path_ne_empty fits.plain,
    Path.isAbsolute_join folder.root_ne_empty folder.plain, folder.names_path]
  cases list : Path.names root ++ [id] ++ [name] with
  | nil => exact absurd list (by simp)
  | cons first rest =>
    have dropped : (first :: rest).dropLast = Path.names root ++ [id] := by
      rw [← list, List.dropLast_concat]
    exact congrArg (fun ns => some (Path.ofNames (Path.isAbsolute root) ns)) dropped

theorem spelled_ne_empty (folder : Folder start root place id) : spelled root id ≠ "" := by
  intro empty
  have names : Path.names (spelled root id) = Path.names root ++ [id] :=
    Path.names_ofNames folder.named
  rw [empty] at names
  exact absurd names.symm (List.append_ne_nil_of_right_ne_nil _ (List.cons_ne_nil _ _))

theorem locate_spelled (folder : Folder start root place id)
    (holds : Holds start place id files d) : d.locate (spelled root id) = .ok (place ++ [id]) := by
  have whole : spelled root id =
      Path.ofNames (Path.isAbsolute (Path.join root id)) (Path.names (Path.join root id)) := by
    rw [Path.isAbsolute_join folder.root_ne_empty folder.plain, folder.names_path]
    rfl
  have names : Path.names (spelled root id) = Path.names root ++ [id] :=
    Path.names_ofNames folder.named
  have some : Path.names (Path.join root id) ≠ [] := by
    rw [folder.names_path]
    exact List.append_ne_nil_of_right_ne_nil _ (List.cons_ne_nil _ _)
  have nul : '\x00' ∉ (spelled root id).toList := by
    intro mem
    rw [whole] at mem
    rcases Path.mem_ofNames mem with slash | ⟨n, inNames, inName⟩
    · exact absurd slash (by decide)
    · exact folder.no_nul ((Path.mem_names inNames).2.2.2 _ inName)
  have short : (spelled root id).utf8ByteSize < Disk.longestPath := by
    rw [whole]
    exact Nat.lt_of_le_of_lt (Path.size_ofNames_names some) folder.path
  refine Disk.locate_of_follow nul folder.spelled_ne_empty short ?_ (.inl holds.folder)
  have absolute : Path.isAbsolute (spelled root id) = Path.isAbsolute root :=
    Path.isAbsolute_ofNames folder.named
  rw [names, folder.follow_into holds (List.cons_ne_nil _ _) _ absolute,
    Disk.follow_last folder.plain.no_dots folder.short]

theorem locate_path (folder : Folder start root place id) :
    start.locate (Path.join root id) = .ok (place ++ [id]) := by
  obtain ⟨slash, last⟩ := Path.last_join folder.root_ne_empty folder.plain
  have led := (Disk.follow_of_locate folder.leads).2.2
  have from' : start.startOf (Path.join root id) = start.startOf root := by
    unfold Disk.startOf
    rw [Path.isAbsolute_join folder.root_ne_empty folder.plain]
  refine Disk.locate_of_follow folder.no_nul folder.path_ne_empty folder.path ?_ (.inr ⟨?_, ?_⟩)
  · rw [folder.names_path, from', Disk.follow_append led folder.stands (List.cons_ne_nil _ _),
      Disk.follow_last folder.plain.no_dots folder.short]
  · simpa [Disk.endsInSlash] using slash
  · simp [Disk.endsInDot, last, folder.plain.no_dot]

theorem locate_again (folder : Folder start root place id)
    (holds : Holds start place id files d) :
    d.locate (Path.join root id) = .ok (place ++ [id]) := by
  have absolute : Path.isAbsolute (Path.join root id) = Path.isAbsolute root :=
    Path.isAbsolute_join folder.root_ne_empty folder.plain
  refine Disk.locate_of_follow folder.no_nul folder.path_ne_empty folder.path ?_ (.inl holds.folder)
  rw [folder.names_path, folder.follow_into holds (List.cons_ne_nil _ _) _ absolute,
    Disk.follow_last folder.plain.no_dots folder.short]

end Paths

/-! ## Making the folder -/

section Making

variable {files : Files} {d d' : Disk}

theorem run_ensureDirectory_of_made {path : String}
    (made : (Access.makeDirectory path).run d = (.ok (), d')) :
    (Access.ensureDirectory path).run d = (.ok (), d') := by
  unfold Access.ensureDirectory
  simp only [ExceptT.run] at made ⊢
  rw [made]

theorem run_ensureDirectory_of_standing {path : String} {e : IoFailure}
    (failed : (Access.makeDirectory path).run d = (.error e, d'))
    (standing : d'.isDirectory path = true) :
    (Access.ensureDirectory path).run d = (.ok (), d') := by
  unfold Access.ensureDirectory
  simp only [ExceptT.run] at failed ⊢
  rw [failed]
  exact if_pos standing

theorem run_makeWithParents {path : String}
    (made : (Access.ensureDirectory path).run d = (.ok (), d')) (above : List String) :
    (Access.makeWithParents path above).run d = (.ok (), d') := by
  cases above with
  | nil => exact made
  | cons first rest =>
    unfold Access.makeWithParents
    simp only [ExceptT.run] at made ⊢
    rw [made]

theorem run_makeDirectories_of_ensured {path : String} (filled : path ≠ "")
    (made : (Access.ensureDirectory path).run d = (.ok (), d')) :
    (Access.makeDirectories path).run d = (.ok (), d') := by
  have some : path.isEmpty = false := by simpa using filled
  unfold Access.makeDirectories
  rw [some]
  exact run_makeWithParents made _

/-- The folder as it is made. -/
def made (start : Disk) (place : List String) (id : String) : Disk :=
  start.counted.put (place ++ [id]) .directory

theorem run_makeDirectories (folder : Folder start root place id) :
    (Access.makeDirectories (Path.join root id)).run start = (.ok (), made start place id) := by
  refine run_makeDirectories_of_ensured folder.path_ne_empty (run_ensureDirectory_of_made ?_)
  have located : start.counted.locate (Path.join root id) = .ok (place ++ [id]) := by
    rw [Disk.locate_counted, folder.locate_path]
  have got : (get : Access Disk).run start.counted = (.ok start.counted, start.counted) := rfl
  have none : start.counted.node? (place ++ [id]) = none :=
    folder.empty [id] (List.cons_ne_nil _ _)
  unfold Access.makeDirectory
  rw [run_bind_of_ok (Access.run_begin folder.calm), run_bind_of_ok (Access.run_locate located),
    run_bind_of_ok got]
  simp only [none]
  rfl

theorem folder_ne_nil (place : List String) (id : String) : place ++ [id] ≠ [] :=
  List.append_ne_nil_of_right_ne_nil _ (List.cons_ne_nil _ _)

/-- What stood elsewhere still stands. -/
theorem node?_made_of_ne {p : List String} (differ : p ≠ place ++ [id]) :
    (made start place id).node? p = start.node? p := by
  rw [made, Disk.node?_put _ (folder_ne_nil place id), if_neg differ, Disk.node?_counted]

theorem holds_made (folder : Folder start root place id) :
    Holds start place id (fun _ => none) (made start place id) where
  calm := folder.calm
  here := rfl
  folder := by rw [made, Disk.node?_put _ (folder_ne_nil place id), if_pos rfl]
  file := by
    intro name
    have differ : place ++ [id, name] ≠ place ++ [id] := by simp
    rw [node?_made_of_ne differ, folder.empty _ (List.cons_ne_nil _ _)]
    rfl
  deeper := by
    intro name p some
    have differ : place ++ id :: name :: p ≠ place ++ [id] := by simp
    rw [node?_made_of_ne differ, folder.empty _ (List.cons_ne_nil _ _)]
  rest := by
    intro p above
    refine node?_made_of_ne ?_
    rintro rfl
    exact above (List.prefix_refl _)

theorem Holds.counted (holds : Holds start place id files d) :
    Holds start place id files d.counted :=
  ⟨holds.calm, holds.here, holds.folder, holds.file, holds.deeper, holds.rest⟩

/-- The folder is not made twice, by whichever path it is named. -/
theorem run_makeDirectories_standing (holds : Holds start place id files d) {path : String}
    (filled : path ≠ "") (located : d.counted.locate path = .ok (place ++ [id])) :
    (Access.makeDirectories path).run d = (.ok (), d.counted) := by
  apply run_makeDirectories_of_ensured filled
  have got : (get : Access Disk).run d.counted = (.ok d.counted, d.counted) := rfl
  have standing := holds.counted.folder
  have old : (Access.makeDirectory path).run d = (.error (.system .alreadyExists), d.counted) := by
    unfold Access.makeDirectory
    rw [run_bind_of_ok (Access.run_begin holds.calm), run_bind_of_ok (Access.run_locate located),
      run_bind_of_ok got]
    simp only [standing]
    rfl
  have directory : d.counted.isDirectory path = true := by
    unfold Disk.isDirectory Disk.find?
    rw [located]
    simp only [standing]
    rfl
  exact run_ensureDirectory_of_standing old directory

theorem run_makeDirectories_spelled (folder : Folder start root place id)
    (holds : Holds start place id files d) :
    (Access.makeDirectories (spelled root id)).run d = (.ok (), d.counted) :=
  run_makeDirectories_standing holds folder.spelled_ne_empty (folder.locate_spelled holds.counted)

theorem run_makeDirectories_again (folder : Folder start root place id)
    (holds : Holds start place id files d) :
    (Access.makeDirectories (Path.join root id)).run d = (.ok (), d.counted) :=
  run_makeDirectories_standing holds folder.path_ne_empty (folder.locate_again holds.counted)

end Making

/-! ## Files of the folder -/

section Filing

variable {files : Files} {d : Disk} {name : String}

theorem file_ne_nil (place : List String) (id name : String) : place ++ [id, name] ≠ [] :=
  List.append_ne_nil_of_right_ne_nil _ (List.cons_ne_nil _ _)

/-- Putting a file in the folder changes nothing else. -/
theorem Holds.put (holds : Holds start place id files d) (name : String) (content : Bytes) :
    Holds start place id (files.filed name content)
      (d.put (place ++ [id, name]) (.file content)) where
  calm := holds.calm
  here := holds.here
  folder := by
    have differ : place ++ [id] ≠ place ++ [id, name] := by simp
    rw [Disk.node?_put _ (file_ne_nil place id name), if_neg differ, holds.folder]
  file := by
    intro other
    rw [Disk.node?_put _ (file_ne_nil place id name)]
    by_cases same : other = name
    · rw [same, if_pos rfl, Files.filed_same]
      rfl
    · have differ : place ++ [id, other] ≠ place ++ [id, name] := by simpa using same
      rw [if_neg differ, Files.filed_other _ _ same, holds.file]
  deeper := by
    intro other p some
    have differ : place ++ id :: other :: p ≠ place ++ [id, name] := by simp [some]
    rw [Disk.node?_put _ (file_ne_nil place id name), if_neg differ, holds.deeper other p some]
  rest := by
    intro p above
    have differ : p ≠ place ++ [id, name] := by
      rintro rfl
      exact above ⟨[name], by simp⟩
    rw [Disk.node?_put _ (file_ne_nil place id name), if_neg differ, holds.rest p above]

theorem run_createFile (folder : Folder start root place id)
    (holds : Holds start place id files d) (fits : Fits root id name) :
    ∃ d', (Access.createFile (Path.join (Path.join root id) name)).run d =
        (.ok (place ++ [id, name]), d') ∧ Holds start place id (files.filed name []) d' := by
  have located := folder.locate_file holds.counted fits
  have got : (get : Access Disk).run d.counted = (.ok d.counted, d.counted) := rfl
  obtain ⟨slash, -⟩ := Path.last_join folder.path_ne_empty fits.plain
  have ends : Disk.endsInSlash (Path.join (Path.join root id) name) = false := by
    simpa [Disk.endsInSlash] using slash
  refine ⟨d.counted.put (place ++ [id, name]) (.file []), ?_, holds.counted.put name []⟩
  unfold Access.createFile
  rw [run_bind_of_ok (Access.run_begin holds.calm), run_bind_of_ok (Access.run_locate located),
    run_bind_of_ok got, holds.counted.file]
  cases files name with
  | none => simp only [Option.map_none, ends]; rfl
  | some content => rfl

theorem run_append (holds : Holds start place id files d) {old : Bytes}
    (stands : files name = some old) (bytes : Bytes) :
    ∃ d', (Access.append (place ++ [id, name]) bytes).run d = (.ok (), d') ∧
      Holds start place id (files.filed name (old ++ bytes)) d' := by
  have got : (get : Access Disk).run d.counted = (.ok d.counted, d.counted) := rfl
  refine ⟨_, ?_, holds.counted.put name (old ++ bytes)⟩
  unfold Access.append
  rw [run_bind_of_ok (Access.run_begin holds.calm), run_bind_of_ok got, holds.counted.file, stands]
  rfl

/-- The file at a place takes all that is written to it. -/
theorem lossless_sink (files : Files) (name : String) :
    (Access.sink (place ++ [id, name])).Lossless fun d held =>
      Holds start place id (files.filed name held) d where
  takes := by
    intro d held bytes holds
    obtain ⟨d', appended, holds'⟩ := run_append holds (Files.filed_same files name held) bytes
    rw [Files.filed_filed] at holds'
    refine ⟨d', ?_, holds'⟩
    have step : (Access.sink (place ++ [id, name])).accept bytes =
      Access.append (place ++ [id, name]) bytes >>= fun _ => pure bytes.length := rfl
    rw [step, run_bind_of_ok appended]
    rfl

/-- A report that is kept is the file afterwards. -/
theorem run_writeReport (folder : Folder start root place id)
    (holds : Holds start place id files d) (fits : Fits root id name) (report : String) :
    ∃ d', (Access.writeReport (Path.join (Path.join root id) name) report).run d = (.ok (), d') ∧
      Holds start place id (files.filed name (Bytes.ofText report)) d' := by
  have step : Access.writeReport (Path.join (Path.join root id) name) report =
      Access.makeDirectories (spelled root id) >>= fun _ =>
        Access.createFile (Path.join (Path.join root id) name) >>= fun place =>
          if (Bytes.ofText report).isEmpty then pure ()
          else Access.append place (Bytes.ofText report) := by
    unfold Access.writeReport Access.writeFile
    rw [folder.parent?_file fits]
  obtain ⟨d', created, holds'⟩ := folder.run_createFile holds.counted fits
  rw [step, run_bind_of_ok (folder.run_makeDirectories_spelled holds), run_bind_of_ok created]
  by_cases blank : (Bytes.ofText report).isEmpty = true
  · rw [if_pos blank, List.isEmpty_iff.mp blank]
    exact ⟨d', rfl, holds'⟩
  · obtain ⟨d'', appended, holds''⟩ :=
      run_append holds' (Files.filed_same files name []) (Bytes.ofText report)
    rw [Files.filed_filed, List.nil_append] at holds''
    rw [if_neg blank]
    exact ⟨d'', appended, holds''⟩

theorem run_readText (folder : Folder start root place id) (holds : Holds start place id files d)
    (fits : Fits root id name) {text : String} (stands : files name = some (Bytes.ofText text)) :
    (Access.readText (Path.join (Path.join root id) name)).run d = (.ok text, d.counted) := by
  have led := folder.locate_file holds fits
  refine Access.run_readText ?_ (holds.calm _)
  unfold Disk.find?
  simp only [led, holds.file, stands, Option.map_some]

/-- The opening of a record file is in the file when it is open. -/
theorem run_openRecord_pieces (folder : Folder start root place id)
    (holds : Holds start place id files d) (fits : Fits root id name) (title : Option String)
    (headers : List String) :
    ∃ d', (Access.openRecord (Path.join (Path.join root id) name) title headers).run d =
        (.ok ⟨place ++ [id, name], {}⟩, d') ∧
      Holds start place id (files.filed name
        (RecordWriter.bytesOf (RecordFile.openingPieces title headers))) d' := by
  obtain ⟨d', created, holds'⟩ := folder.run_createFile holds.counted fits
  obtain ⟨d'', opened, holds''⟩ :=
    RecordWriter.run_writeOpening (lossless_sink files name) title headers holds'
  rw [List.nil_append] at holds''
  refine ⟨d'', ?_, holds''⟩
  unfold Access.openRecord
  simp only [folder.parent?_file fits]
  rw [run_bind_of_ok (folder.run_makeDirectories_spelled holds), run_bind_of_ok created]
  simp only [ExceptT.run] at opened ⊢
  rw [opened]

theorem run_openRecord (folder : Folder start root place id)
    (holds : Holds start place id files d) (fits : Fits root id name) (title : Option String)
    {headers : List String} (some : headers ≠ []) :
    ∃ d', (Access.openRecord (Path.join (Path.join root id) name) title headers).run d =
        (.ok ⟨place ++ [id, name], {}⟩, d') ∧
      Holds start place id (files.filed name (Bytes.ofText (String.ofList
        (Text.ofLines (RecordFile.linesOf title headers []))))) d' := by
  rw [← RecordWriter.bytesOf_openingPieces title some]
  exact folder.run_openRecord_pieces holds fits title headers

end Filing

end Folder

end Microbench
