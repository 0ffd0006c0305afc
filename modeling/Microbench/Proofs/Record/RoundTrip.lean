import Microbench.Proofs.Record.Writer
import Microbench.Proofs.Text.Parts
import Microbench.Record.Reader

/-!
# Record files that come back

What a record writer writes is read as the table that was written, with its separators replaced. The
one exception is a table without a title whose header line looks like a title.

* `ofText_written`: the round trip and its exact condition.
-/

namespace Microbench

namespace RecordFile

/-! ## Cells without separators -/

theorem plainCharacter_clean (c : Char) :
    plainCharacter c ≠ '\t' ∧ plainCharacter c ≠ '\n' ∧ plainCharacter c ≠ '\r' := by
  unfold plainCharacter
  by_cases separator : c = '\t' ∨ c = '\n' ∨ c = '\r'
  · rw [if_pos separator]
    decide
  · rw [if_neg separator]
    simpa only [not_or] using separator

theorem mem_sanitize {s : String} {c : Char} (h : c ∈ (sanitize s).toList) :
    c ≠ '\t' ∧ c ≠ '\n' ∧ c ≠ '\r' := by
  rw [sanitize, String.toList_ofList] at h
  rcases List.mem_map.mp h with ⟨d, -, rfl⟩
  exact plainCharacter_clean d

/-- Nothing is replaced in a text without separators. -/
theorem sanitize_of_clean {s : String} (clean : ∀ c ∈ s.toList, c ≠ '\t' ∧ c ≠ '\n' ∧ c ≠ '\r') :
    sanitize s = s := by
  have same : s.toList.map plainCharacter = s.toList := by
    refine (List.map_congr_left ?_).trans (List.map_id _)
    intro c mem
    obtain ⟨tab, feed, ret⟩ := clean c mem
    exact if_neg (by simp [tab, feed, ret])
  rw [sanitize, same, String.ofList_toList]

/-! ## Lines -/

theorem cells_line {row : List String} (some : row ≠ []) :
    cells (line row).toList = row.map sanitize := by
  have parts : (row.map fun c => (sanitize c).toList) ≠ [] := by simpa using some
  have clean : ∀ part ∈ row.map fun c => (sanitize c).toList, '\t' ∉ part := by
    intro part mem tab
    rcases List.mem_map.mp mem with ⟨cell, -, rfl⟩
    exact (mem_sanitize tab).1 rfl
  rw [cells, line, String.toList_ofList, Text.cut_unite parts clean, List.map_map]
  apply List.map_congr_left
  intro cell _
  exact String.ofList_toList

theorem mem_line {row : List String} {c : Char} (h : c ∈ (line row).toList) :
    c ≠ '\n' ∧ c ≠ '\r' := by
  rw [line, String.toList_ofList] at h
  rcases Text.mem_unite h with rfl | ⟨part, mem, inPart⟩
  · decide
  · rcases List.mem_map.mp mem with ⟨cell, -, rfl⟩
    exact (mem_sanitize inPart).2

/-- The title line, without its end. -/
def titleLine (title : String) : List Char :=
  '#' :: (decoration ++ ' ' :: ((sanitize title).toList ++ ' ' :: decoration))

theorem mem_titleLine {title : String} {c : Char} (h : c ∈ titleLine title) :
    c ≠ '\n' ∧ c ≠ '\r' := by
  have dash : c ∈ decoration → c = '-' := List.eq_of_mem_replicate
  simp only [titleLine, List.mem_cons, List.mem_append] at h
  rcases h with rfl | mem | rfl | mem | rfl | mem
  · decide
  · rw [dash mem]; decide
  · decide
  · exact (mem_sanitize mem).2
  · decide
  · rw [dash mem]; decide

/-! ## What is written -/

/-- Whether no title is written: there is none, or it is empty. -/
def Untitled (title : Option String) : Prop := title.getD "" = ""

instance (title : Option String) : Decidable (Untitled title) := inferInstanceAs (Decidable (_ = _))

/-- The lines of a table. -/
def linesOf (title : Option String) (headers : List String) (rows : List (List String)) :
    List (List Char) :=
  (if Untitled title then [] else [titleLine (title.getD "")]) ++
    ('#' :: (line headers).toList) :: rows.map fun row => (line row).toList

/-- A table as it is read back. -/
def written (title : Option String) (headers : List String) (rows : List (List String)) :
    RecordFile where
  title := if Untitled title then none else some (Text.trim (sanitize (title.getD "")))
  headers := headers.map sanitize
  rows := rows.map (·.map sanitize)

end RecordFile

namespace RecordWriter

open RecordFile

theorem bytesOf_eq (pieces : List String) :
    bytesOf pieces = Bytes.ofText (String.ofList (pieces.flatMap String.toList)) := by
  induction pieces with
  | nil => rfl
  | cons piece pieces ih =>
    have step : bytesOf (piece :: pieces) = Bytes.ofText piece ++ bytesOf pieces := rfl
    rw [step, ih, List.flatMap_cons, String.ofList_append, String.ofList_toList,
      Bytes.ofText_append]

/-- Writes a table. -/
def writeTable {ω : Type} (sink : Sink ω) (title : Option String) (headers : List String)
    (rows : List (List String)) : Action ω Unit := do
  writeOpening sink title headers
  rows.forM (writeRow sink)

theorem bytesOf_openingPieces (title : Option String) {headers : List String}
    (some : headers ≠ []) : bytesOf (openingPieces title headers) =
      Bytes.ofText (String.ofList (Text.ofLines (linesOf title headers []))) := by
  have filled : ¬ headers.isEmpty = true := fun empty => some (List.isEmpty_iff.mp empty)
  rw [bytesOf_eq]
  refine congrArg (fun cs => Bytes.ofText (String.ofList cs)) ?_
  unfold openingPieces linesOf
  rw [if_neg filled]
  cases title with
  | none => simp [Untitled, headerPieces, Text.ofLines]
  | some t =>
    by_cases empty : t = ""
    · simp [Untitled, empty, headerPieces, Text.ofLines]
    · simp [Untitled, empty, headerPieces, titlePieces, titleLine, Text.ofLines]

theorem bytesOf_rows (rows : List (List String)) :
    (rows.flatMap fun cells => bytesOf (rowPieces cells)) =
      Bytes.ofText (String.ofList (Text.ofLines (rows.map fun row => (line row).toList))) := by
  induction rows with
  | nil => rfl
  | cons row rows ih =>
    have first :
        bytesOf (rowPieces row) = Bytes.ofText (String.ofList ((line row).toList ++ ['\n'])) := by
      rw [bytesOf_eq]
      rfl
    rw [List.flatMap_cons, first, ih, ← Bytes.ofText_append, ← String.ofList_append, List.map_cons,
      Text.ofLines_cons, List.append_assoc]
    rfl

/-- What a lossless sink takes of a table is the text of its lines. -/
theorem run_writeTable {ω : Type} {sink : Sink ω} {Holds : ω → Bytes → Prop}
    (lossless : sink.Lossless Holds) (title : Option String) {headers : List String}
    (some : headers ≠ []) (rows : List (List String)) {w : ω} {held : Bytes} {count : Nat}
    (holds : Holds w held) :
    ∃ w', (writeTable sink title headers rows).run (⟨[], count⟩, w) =
        (.ok (), (⟨[], count + rows.length⟩, w')) ∧
      Holds w'
        (held ++ Bytes.ofText (String.ofList (Text.ofLines (linesOf title headers rows)))) := by
  obtain ⟨v, opened, holds'⟩ := run_writeOpening lossless title headers holds
  obtain ⟨w', written, holds''⟩ := run_forM_writeRow lossless rows holds'
  have lines : linesOf title headers rows =
      linesOf title headers [] ++ rows.map fun row => (line row).toList := by
    simp [linesOf]
  refine ⟨w', ?_, ?_⟩
  · rw [writeTable, run_bind_of_ok opened, written]
  · rw [bytesOf_openingPieces title some, bytesOf_rows, List.append_assoc, ← Bytes.ofText_append,
      ← String.ofList_append, ← Text.ofLines_append, ← lines] at holds''
    exact holds''

end RecordWriter

namespace RecordFile

/-! ## Reading it back -/

/-- A decorated comment is one that the decoration encloses. -/
theorem decorated?_eq_some {comment m : List Char} :
    decorated? comment = some m ↔ comment = decoration ++ m ++ decoration := by
  constructor
  · intro h
    unfold decorated? at h
    split at h
    · next opens =>
      rcases List.isPrefixOf_iff_prefix.mp opens with ⟨rest, rfl⟩
      rw [List.drop_left] at h
      dsimp only at h
      split at h
      · next closes =>
        rcases List.isSuffixOf_iff_suffix.mp closes with ⟨middle, rfl⟩
        have same : middle = m := by simpa using h
        rw [same, List.append_assoc]
      · cases h
    · cases h
  · rintro rfl
    have opens : decoration.isPrefixOf (decoration ++ m ++ decoration) = true :=
      List.isPrefixOf_iff_prefix.mpr ⟨m ++ decoration, (List.append_assoc _ _ _).symm⟩
    have closes : decoration.isSuffixOf (m ++ decoration) = true :=
      List.isSuffixOf_iff_suffix.mpr ⟨m, rfl⟩
    unfold decorated?
    rw [if_pos opens, List.append_assoc, List.drop_left]
    simp [closes]

theorem readRows_lines {headers : List String} {rows : List (List String)} (number : Nat)
    (some : headers ≠ []) (even : ∀ row ∈ rows, row.length = headers.length) :
    readRows (headers.map sanitize) number (rows.map fun row => (line row).toList) =
      .ok (rows.map (·.map sanitize)) := by
  induction rows generalizing number with
  | nil => rfl
  | cons row rows ih =>
    have length := even row List.mem_cons_self
    have filled : row ≠ [] := by
      rintro rfl
      exact some (List.eq_nil_of_length_eq_zero length.symm)
    have later := ih (number + 1) fun r mem => even r (List.mem_cons_of_mem _ mem)
    rw [List.map_cons, readRows, cells_line filled]
    simp [length, later, pure, Except.pure, bind, Except.bind]

theorem readTable_lines (title : Option String) {headers : List String} {rows : List (List String)}
    {number : Nat} (some : headers ≠ []) (even : ∀ row ∈ rows, row.length = headers.length) :
    readTable title number (('#' :: (line headers).toList) :: rows.map fun row => (line row).toList) =
      .ok { title, headers := headers.map sanitize, rows := rows.map (·.map sanitize) } := by
  have read := readRows_lines (number + 1) some even
  simp [readTable, comment?, cells_line some, read, pure, Except.pure, bind, Except.bind]

/-- A table that is read has the title that was passed to its reader. -/
theorem title_of_readTable {title : Option String} {number : Nat} {ls : List (List Char)}
    {file : RecordFile} (h : readTable title number ls = .ok file) : file.title = title := by
  cases ls with
  | nil => cases h; rfl
  | cons first rest =>
    unfold readTable at h
    cases comment : comment? first with
    | some c =>
      simp only [comment] at h
      cases rows : readRows (cells c) (number + 1) rest with
      | ok _ => rw [rows] at h; cases h; rfl
      | error _ => rw [rows] at h; cases h
    | none =>
      simp only [comment] at h
      cases rows : readRows [] number (first :: rest) with
      | ok _ => rw [rows] at h; cases h; rfl
      | error _ => rw [rows] at h; cases h

/-- A header line without a title in front of it is taken for a title. -/
def HeadersLookLikeTitle (title : Option String) (headers : List String) : Prop :=
  Untitled title ∧ ∃ m, (line headers).toList = decoration ++ m ++ decoration

theorem ofLines_linesOf_of_titled {title : Option String} {headers : List String}
    {rows : List (List String)} (titled : ¬ Untitled title) (some : headers ≠ [])
    (even : ∀ row ∈ rows, row.length = headers.length) :
    ofLines (linesOf title headers rows) = .ok (written title headers rows) := by
  have decorated : decorated? (decoration ++ ' ' ::
      ((sanitize (title.getD "")).toList ++ ' ' :: decoration)) =
        .some (' ' :: ((sanitize (title.getD "")).toList ++ [' '])) := by
    rw [decorated?_eq_some]
    simp
  have comment : comment? (titleLine (title.getD "")) = .some (decoration ++ ' ' ::
      ((sanitize (title.getD "")).toList ++ ' ' :: decoration)) := rfl
  rw [linesOf, if_neg titled, List.singleton_append, ofLines, comment, Option.bind_some, decorated]
  simp only []
  rw [readTable_lines _ some even, Text.trim_between, String.ofList_toList, written, if_neg titled]

theorem ofLines_linesOf_of_untitled {title : Option String} {headers : List String}
    {rows : List (List String)} (untitled : Untitled title) (some : headers ≠ [])
    (even : ∀ row ∈ rows, row.length = headers.length) :
    ofLines (linesOf title headers rows) = .ok (written title headers rows) ↔
      ¬ ∃ m, (line headers).toList = decoration ++ m ++ decoration := by
  rw [linesOf, if_pos untitled, List.nil_append, ofLines]
  have comment : (comment? ('#' :: (line headers).toList)).bind decorated? =
      decorated? (line headers).toList := rfl
  rw [comment]
  cases h : decorated? (line headers).toList with
  | some m =>
    refine iff_of_false ?_ ?_
    · intro read
      have title := title_of_readTable read
      rw [written, if_pos untitled] at title
      cases title
    · intro plain
      exact plain ⟨m, decorated?_eq_some.mp h⟩
  | none =>
    refine iff_of_true ?_ ?_
    · simp only []
      rw [readTable_lines _ some even, written, if_pos untitled]
    · rintro ⟨m, same⟩
      rw [decorated?_eq_some.mpr same] at h
      cases h

/-- The lines of a table are read as the table, unless its headers look like a title. -/
theorem ofLines_linesOf (title : Option String) {headers : List String}
    {rows : List (List String)} (some : headers ≠ [])
    (even : ∀ row ∈ rows, row.length = headers.length) :
    ofLines (linesOf title headers rows) = .ok (written title headers rows) ↔
      ¬ HeadersLookLikeTitle title headers := by
  by_cases untitled : Untitled title
  · rw [ofLines_linesOf_of_untitled untitled some even, HeadersLookLikeTitle]
    simp [untitled]
  · apply iff_of_true (ofLines_linesOf_of_titled untitled some even)
    rintro ⟨none, -⟩
    exact untitled none

theorem lines_linesOf (title : Option String) (headers : List String) (rows : List (List String)) :
    Text.lines (Text.ofLines (linesOf title headers rows)) = linesOf title headers rows := by
  apply Text.lines_ofLines
  have clean : ∀ row : List String, '\n' ∉ (line row).toList ∧ '\r' ∉ (line row).toList :=
    fun row => ⟨fun mem => (mem_line mem).1 rfl, fun mem => (mem_line mem).2 rfl⟩
  intro l mem
  obtain inTitle | rfl | inRows : l ∈ (if Untitled title then [] else [titleLine (title.getD "")]) ∨
      l = '#' :: (line headers).toList ∨ l ∈ rows.map fun row => (line row).toList := by
    simpa only [linesOf, List.mem_append, List.mem_cons] using mem
  · split at inTitle
    · cases inTitle
    · rw [List.mem_singleton.mp inTitle]
      exact ⟨fun mem => (mem_titleLine mem).1 rfl, fun mem => (mem_titleLine mem).2 rfl⟩
  · simp [clean headers]
  · rcases List.mem_map.mp inRows with ⟨row, -, rfl⟩
    exact clean row

/-- A table is read back as it was written, its cells without separators, if and only if its header
line is not taken for a title; cells without separators come back as they were. -/
theorem ofText_written (title : Option String) {headers : List String} {rows : List (List String)}
    (some : headers ≠ []) (even : ∀ row ∈ rows, row.length = headers.length) :
    ∃ text writer, (RecordWriter.writeTable .unbounded title headers rows).run ({}, []) =
        (.ok (), (writer, Bytes.ofText text)) ∧
      (ofText text = .ok (written title headers rows) ↔ ¬ HeadersLookLikeTitle title headers) ∧
      ∀ cell : String, (∀ c ∈ cell.toList, c ≠ '\t' ∧ c ≠ '\n' ∧ c ≠ '\r') → sanitize cell = cell := by
  obtain ⟨bytes, run, rfl⟩ :=
    RecordWriter.run_writeTable Sink.lossless_unbounded title some rows rfl
  refine ⟨_, _, run, ?_, fun _ => sanitize_of_clean⟩
  rw [ofText, String.toList_ofList, lines_linesOf]
  exact ofLines_linesOf title some even

theorem ofText_written_separators :
    ∃ text writer, (RecordWriter.writeTable .unbounded (some "") ["#a\tb", ""] [["\r", "x"]]).run
        ({}, []) = (.ok (), (writer, Bytes.ofText text)) ∧
      ofText text = .ok { headers := ["#a b", ""], rows := [[" ", "x"]] } := by
  have plain : ¬ HeadersLookLikeTitle (some "") ["#a\tb", ""] := by
    rintro ⟨-, m, same⟩
    have short : (line ["#a\tb", ""]).toList.length = 5 := by decide
    rw [same] at short
    simp [decoration] at short
  have even : ∀ row ∈ [["\r", "x"]], row.length = ["#a\tb", ""].length := by decide
  obtain ⟨text, writer, run, read, -⟩ :=
    ofText_written (some "") (List.cons_ne_nil "#a\tb" [""]) even
  have table : written (some "") ["#a\tb", ""] [["\r", "x"]] =
      { headers := ["#a b", ""], rows := [[" ", "x"]] } := by decide
  rw [table] at read
  exact ⟨text, writer, run, read.mpr plain⟩

end RecordFile

end Microbench
