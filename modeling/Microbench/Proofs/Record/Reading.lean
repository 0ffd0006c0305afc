import Mathlib.Data.List.Forall2
import Microbench.Proofs.Record.RoundTrip

/-!
# What a reader makes of a text

Any text is read as a record file or refused, and which of the two it is depends on its lines alone.
A line in front that could be a title is one, and a comment in front of the rows is the headers; what
is left are the rows, each line a row.

* `Opens`: what stands in front of the rows. Every text is opened in one way.
* `Holds`: that a record file is the content of such lines, cell by cell.
* `FirstUneven`: which row is the first to have too few cells or too many.
* `ofText_eq_iff`: a text is read as what it holds, and it is refused for its first uneven row.
-/

namespace Microbench.RecordFile

/-! ## Cells and widths -/

/-- The number of cells of a line. -/
def width (line : List Char) : Nat := line.count '\t' + 1

theorem length_cells (line : List Char) : (cells line).length = width line := by
  rw [cells, List.length_map, Text.length_cut, width]

theorem cells_ne_nil (line : List Char) : cells line ≠ [] := by
  simpa [cells] using Text.cut_ne_nil '\t' line

/-- A row is what a line is read as: joined by tabs it is the line. -/
structure IsRow (row : List String) (line : List Char) : Prop where
  nonempty : row ≠ []
  clean : ∀ cell ∈ row, '\t' ∉ cell.toList
  unite_eq : Text.unite '\t' (row.map String.toList) = line

/-- There is no other row for a line than its cells. -/
theorem isRow_iff {row : List String} {line : List Char} : IsRow row line ↔ row = cells line := by
  constructor
  · rintro ⟨nonempty, clean, rfl⟩
    have parts : row.map String.toList ≠ [] := by simpa using nonempty
    have apart : ∀ part ∈ row.map String.toList, '\t' ∉ part := by simpa using clean
    rw [cells, Text.cut_unite parts apart, List.map_map]
    exact (List.map_id'' (fun _ => String.ofList_toList) row).symm
  · rintro rfl
    have texts : (cells line).map String.toList = Text.cut '\t' line := by
      rw [cells, List.map_map]
      exact List.map_id'' (fun _ => String.toList_ofList) _
    refine ⟨cells_ne_nil line, fun cell mem => ?_, by rw [texts, Text.unite_cut]⟩
    have part : cell.toList ∈ Text.cut '\t' line := texts ▸ List.mem_map_of_mem mem
    exact (Text.mem_cut part).1

theorem forall₂_isRow_iff {rows : List (List String)} {ls : List (List Char)} :
    List.Forall₂ IsRow rows ls ↔ rows = ls.map cells := by
  have same : rows = ls.map cells ↔ List.Forall₂ (· = ·) rows (ls.map cells) := by
    rw [List.forall₂_eq_eq_eq]
  rw [same, List.forall₂_map_right_iff]
  exact ⟨fun rows => rows.imp fun _ _ => isRow_iff.mp, fun rows => rows.imp fun _ _ => isRow_iff.mpr⟩

/-! ## Rows -/

/-- The first of some lines with another number of cells than the given one: where it stands, and
how many it has. -/
structure FirstUneven (expected : Nat) (ls : List (List Char)) (place found : Nat) : Prop where
  line : ∃ line, ls[place]? = some line ∧ width line = found
  uneven : found ≠ expected
  even_before : ∀ i line, i < place → ls[i]? = some line → width line = expected

section Rows

variable {expected place found number : Nat} {line : List Char} {ls : List (List Char)}
  {headers : List String}

theorem firstUneven_cons_of_even (even : width line = expected) :
    FirstUneven expected (line :: ls) place found ↔
      ∃ before, place = before + 1 ∧ FirstUneven expected ls before found := by
  constructor
  · rintro ⟨⟨l, here, wide⟩, uneven, before⟩
    cases place with
    | zero =>
      rw [List.getElem?_cons_zero, Option.some.injEq] at here
      exact absurd (wide ▸ here ▸ even) uneven
    | succ place =>
      refine ⟨place, rfl, ⟨l, here, wide⟩, uneven, fun i l' less here' => ?_⟩
      exact before (i + 1) l' (Nat.succ_lt_succ less) here'
  · rintro ⟨before, rfl, ⟨l, here, wide⟩, uneven, evens⟩
    refine ⟨⟨l, here, wide⟩, uneven, fun i l' less here' => ?_⟩
    cases i with
    | zero =>
      rw [List.getElem?_cons_zero, Option.some.injEq] at here'
      exact here' ▸ even
    | succ i => exact evens i l' (Nat.lt_of_succ_lt_succ less) here'

theorem firstUneven_cons_of_uneven (uneven : width line ≠ expected) :
    FirstUneven expected (line :: ls) place found ↔ place = 0 ∧ found = width line := by
  constructor
  · rintro ⟨⟨l, here, wide⟩, -, before⟩
    cases place with
    | zero =>
      rw [List.getElem?_cons_zero, Option.some.injEq] at here
      exact ⟨rfl, wide ▸ here ▸ rfl⟩
    | succ place =>
      exact absurd (before 0 line (Nat.succ_pos place) List.getElem?_cons_zero) uneven
  · rintro ⟨rfl, rfl⟩
    exact ⟨⟨line, rfl, rfl⟩, uneven, fun i _ less => absurd less (Nat.not_lt_zero i)⟩

/-- What is said of a row of the wrong number of cells. -/
def unevenMessage (expected found : Nat) : String :=
  "expected " ++ Decimal.text expected ++ " columns, found " ++ Decimal.text found

theorem readRows_nil_headers (number : Nat) (ls : List (List Char)) :
    readRows [] number ls = .ok (ls.map cells) := by
  induction ls generalizing number with
  | nil => rfl
  | cons line ls ih =>
    rw [readRows, ih]
    rfl

theorem readRows_cons_of_even (even : width line = headers.length) :
    readRows headers number (line :: ls) =
      (readRows headers (number + 1) ls).map (cells line :: ·) := by
  rw [readRows, length_cells, even]
  simp only [bne_self_eq_false, Bool.and_false, Bool.false_eq_true, if_false]
  cases readRows headers (number + 1) ls <;> rfl

theorem readRows_cons_of_uneven (some : headers ≠ []) (uneven : width line ≠ headers.length) :
    readRows headers number (line :: ls) =
      .error (.malformed number (unevenMessage headers.length (width line))) := by
  have condition : (!headers.isEmpty && width line != headers.length) = true := by
    simp [some, uneven]
  rw [readRows, length_cells, if_pos condition]
  rfl

/-- The rows are read if they are even, and otherwise the first that is not is told of. -/
theorem readRows_eq_ok_iff (some : headers ≠ []) {rows : List (List String)} :
    readRows headers number ls = .ok rows ↔
      (∀ line ∈ ls, width line = headers.length) ∧ rows = ls.map cells := by
  induction ls generalizing number rows with
  | nil => simp [readRows, eq_comm]
  | cons line ls ih =>
    by_cases even : width line = headers.length
    · rw [readRows_cons_of_even even]
      constructor
      · intro read
        cases later : readRows headers (number + 1) ls with
        | error e => rw [later] at read; cases read
        | ok rest =>
          rw [later] at read
          cases read
          obtain ⟨evens, rfl⟩ := ih.mp later
          exact ⟨List.forall_mem_cons.mpr ⟨even, evens⟩, rfl⟩
      · rintro ⟨evens, rfl⟩
        rw [ih.mpr ⟨(List.forall_mem_cons.mp evens).2, rfl⟩]
        rfl
    · rw [readRows_cons_of_uneven some even]
      constructor
      · intro read
        cases read
      · rintro ⟨evens, -⟩
        exact absurd (List.forall_mem_cons.mp evens).1 even

theorem readRows_eq_error_iff (some : headers ≠ []) {e : RecordFailure} :
    readRows headers number ls = .error e ↔ ∃ place found,
      FirstUneven headers.length ls place found ∧
        e = .malformed (number + place) (unevenMessage headers.length found) := by
  induction ls generalizing number with
  | nil =>
    refine iff_of_false (fun read => nomatch read) ?_
    rintro ⟨place, found, ⟨⟨line, here, -⟩, -, -⟩, -⟩
    rw [List.getElem?_nil] at here
    cases here
  | cons line ls ih =>
    by_cases even : width line = headers.length
    · simp only [readRows_cons_of_even even, firstUneven_cons_of_even even]
      constructor
      · intro read
        cases later : readRows headers (number + 1) ls with
        | ok rest => rw [later] at read; cases read
        | error e' =>
          rw [later] at read
          cases read
          obtain ⟨place, found, first, same⟩ := ih.mp later
          exact ⟨place + 1, found, ⟨place, rfl, first⟩, by rw [same, Nat.add_right_comm]; rfl⟩
      · rintro ⟨-, found, ⟨place, rfl, first⟩, same⟩
        have later : readRows headers (number + 1) ls = .error e :=
          ih.mpr ⟨place, found, first, by rw [same, Nat.add_right_comm]; rfl⟩
        rw [later]
        rfl
    · simp only [readRows_cons_of_uneven some even, firstUneven_cons_of_uneven even]
      constructor
      · intro read
        cases read
        exact ⟨0, width line, ⟨rfl, rfl⟩, rfl⟩
      · rintro ⟨-, -, ⟨rfl, rfl⟩, rfl⟩
        rfl

end Rows

/-! ## The lines in front of the rows -/

/-- What stands in front of the rows: what the decoration of a title encloses, and what follows the
hash of the headers. -/
structure Opening where
  title : Option (List Char)
  headers : Option (List Char)

namespace Opening

/-- A line with a title. -/
def titled (title : List Char) : List Char := '#' :: (decoration ++ title ++ decoration)

/-- The lines of an opening: two at most, the title in front of the headers. -/
def lines (o : Opening) : List (List Char) :=
  (o.title.map titled).toList ++ (o.headers.map ('#' :: ·)).toList

/-- The cells of the headers. -/
def cells (o : Opening) : List String := o.headers.elim [] RecordFile.cells

/-- Some lines are opened and then go on: what could be a title in front of all others is one, and
what could be headers in front of the rest are headers. -/
structure Opens (o : Opening) (ls rest : List (List Char)) : Prop where
  lines_eq : ls = o.lines ++ rest
  untitled : o.title = none → ∀ title, ls.head? ≠ some (titled title)
  headless : o.headers = none → ∀ comment, rest.head? ≠ some ('#' :: comment)

/-- A record file holds what the lines say: a row for each line after the opening. -/
structure Holds (o : Opening) (rest : List (List Char)) (file : RecordFile) : Prop where
  title : file.title = o.title.map fun title => Text.trim (String.ofList title)
  headless : o.headers = none → file.headers = []
  headers : ∀ comment, o.headers = some comment → IsRow file.headers comment
  rows : List.Forall₂ IsRow file.rows rest
  even : file.headers ≠ [] → ∀ row ∈ file.rows, row.length = file.headers.length

/-- The lines are refused: there are headers, and a line has another number of cells. The failure
names the first such line, by its number among all lines. -/
def Fails (o : Opening) (rest : List (List Char)) (e : RecordFailure) : Prop :=
  ∃ comment place found, o.headers = some comment ∧
    FirstUneven (width comment) rest place found ∧
    e = .malformed (o.lines.length + place + 1) (unevenMessage (width comment) found)

variable {o o' : Opening} {ls rest rest' : List (List Char)}

/-! ### Every text is opened in one way -/

theorem comment?_eq_some {line comment : List Char} :
    comment? line = some comment ↔ line = '#' :: comment := by
  constructor
  · intro h
    unfold comment? at h
    split at h
    · cases h; rfl
    · cases h
  · rintro rfl
    rfl

theorem comment?_eq_none {line : List Char} :
    comment? line = none ↔ ∀ comment, line ≠ '#' :: comment := by
  simp only [Option.eq_none_iff_forall_ne_some, ne_eq, comment?_eq_some]

theorem bind_decorated?_eq_some {line title : List Char} :
    (comment? line).bind decorated? = some title ↔ line = titled title := by
  rw [Option.bind_eq_some_iff]
  constructor
  · rintro ⟨comment, commented, decorated⟩
    rw [comment?_eq_some.mp commented, decorated?_eq_some.mp decorated, titled]
  · rintro rfl
    exact ⟨_, rfl, decorated?_eq_some.mpr rfl⟩

theorem titled_injective {title title' : List Char} (same : titled title = titled title') :
    title = title' :=
  List.append_cancel_left (List.append_cancel_right (List.cons.inj same).2)

/-- The headers of what a title does not open. -/
theorem exists_opens_headers (ls : List (List Char)) :
    ∃ headers rest, ls = (Option.map ('#' :: ·) headers).toList ++ rest ∧
      (headers = none → ∀ comment, rest.head? ≠ some ('#' :: comment)) := by
  cases ls with
  | nil => exact ⟨none, [], rfl, fun _ _ => nofun⟩
  | cons line rest =>
    cases commented : comment? line with
    | some comment =>
      rw [comment?_eq_some.mp commented]
      exact ⟨some comment, rest, rfl, nofun⟩
    | none =>
      refine ⟨none, line :: rest, rfl, fun _ comment same => ?_⟩
      exact comment?_eq_none.mp commented comment (Option.some.inj same)

theorem exists_opens (ls : List (List Char)) : ∃ o rest, Opens o ls rest := by
  by_cases titles : ∃ title rest, ls = titled title :: rest
  · obtain ⟨title, after, rfl⟩ := titles
    obtain ⟨headers, rest, rfl, headless⟩ := exists_opens_headers after
    exact ⟨⟨some title, headers⟩, rest, rfl, nofun, headless⟩
  · obtain ⟨headers, rest, same, headless⟩ := exists_opens_headers ls
    refine ⟨⟨none, headers⟩, rest, same, fun _ title here => titles ?_, headless⟩
    obtain ⟨after, rfl⟩ := List.head?_eq_some_iff.mp here
    exact ⟨title, after, rfl⟩

/-- Where two openings stand in front of the same lines, the lines begin with one title or with
none. -/
theorem Opens.title_eq (opens : Opens o ls rest) (opens' : Opens o' ls rest') :
    o.title = o'.title := by
  have head : ∀ {o : Opening} {rest title}, Opens o ls rest → o.title = some title →
      ls.head? = some (titled title) := by
    intro o rest title opens here
    rw [opens.lines_eq, lines, here]
    rfl
  cases here : o.title with
  | some title =>
    cases here' : o'.title with
    | some title' =>
      have same := (head opens here).symm.trans (head opens' here')
      rw [titled_injective (Option.some.inj same)]
    | none => exact absurd (head opens here) (opens'.untitled here' title)
  | none =>
    cases here' : o'.title with
    | some title' => exact absurd (head opens' here') (opens.untitled here title')
    | none => rfl

theorem Opens.unique (opens : Opens o ls rest) (opens' : Opens o' ls rest') :
    o = o' ∧ rest = rest' := by
  have titles := opens.title_eq opens'
  obtain ⟨title, headers⟩ := o
  obtain ⟨title', headers'⟩ := o'
  cases titles
  have after : (headers.map ('#' :: ·)).toList ++ rest =
      (headers'.map ('#' :: ·)).toList ++ rest' := by
    have same := opens.lines_eq.symm.trans opens'.lines_eq
    rw [lines, lines, List.append_assoc, List.append_assoc] at same
    exact List.append_cancel_left same
  cases headers with
  | some comment =>
    cases headers' with
    | some comment' =>
      obtain ⟨comments, rests⟩ := List.cons.inj after
      cases (List.cons.inj comments).2
      exact ⟨rfl, rests⟩
    | none => exact absurd (congrArg List.head? after.symm) (opens'.headless rfl comment)
  | none =>
    cases headers' with
    | some comment' => exact absurd (congrArg List.head? after) (opens.headless rfl comment')
    | none => exact ⟨rfl, after⟩

/-! ### What is read behind an opening -/

theorem readTable_headed (title : Option String) (number : Nat) (comment : List Char)
    (rest : List (List Char)) : readTable title number (('#' :: comment) :: rest) =
      (readRows (RecordFile.cells comment) (number + 1) rest).map fun rows =>
        { title, headers := RecordFile.cells comment, rows } := by
  have commented : comment? ('#' :: comment) = some comment := rfl
  rw [readTable, commented]
  dsimp only
  cases readRows (RecordFile.cells comment) (number + 1) rest <;> rfl

theorem readTable_headless (title : Option String) (number : Nat)
    (headless : ∀ comment, rest.head? ≠ some ('#' :: comment)) : readTable title number rest =
      (readRows [] number rest).map fun rows => { title, rows } := by
  cases rest with
  | nil => rfl
  | cons line rest =>
    have plain : comment? line = none := comment?_eq_none.mpr fun comment same =>
      headless comment (congrArg some same)
    rw [readTable, plain]
    dsimp only
    cases readRows [] number (line :: rest) <;> rfl

theorem readTable_eq (title : Option String) (number : Nat) {headers : Option (List Char)}
    (headless : headers = none → ∀ comment, rest.head? ≠ some ('#' :: comment)) :
    readTable title number ((headers.map ('#' :: ·)).toList ++ rest) =
      (readRows (headers.elim [] RecordFile.cells) (number + headers.toList.length) rest).map
        fun rows => { title, headers := headers.elim [] RecordFile.cells, rows } := by
  cases headers with
  | some comment => exact readTable_headed title number comment rest
  | none => exact readTable_headless title number (headless rfl)

/-- The title and the headers are found without looking at what follows. -/
theorem ofLines_of_opens (opens : Opens o ls rest) : ofLines ls =
    (readRows o.cells (o.lines.length + 1) rest).map fun rows =>
      { title := o.title.map fun title => Text.trim (String.ofList title)
        headers := o.cells
        rows } := by
  obtain ⟨rfl, untitled, headless⟩ := opens
  obtain ⟨title, headers⟩ := o
  cases title with
  | some title =>
    have decorated : (comment? (titled title)).bind decorated? = some title :=
      bind_decorated?_eq_some.mpr rfl
    have step : ofLines (titled title :: ((headers.map ('#' :: ·)).toList ++ rest)) =
        readTable (some (Text.trim (String.ofList title))) 2
          ((headers.map ('#' :: ·)).toList ++ rest) := by
      rw [ofLines, decorated]
    refine step.trans ((readTable_eq _ 2 headless).trans ?_)
    cases headers <;> rfl
  | none =>
    have step : ∀ ls, (∀ title, ls.head? ≠ some (titled title)) →
        ofLines ls = readTable none 1 ls := by
      intro ls plain
      cases ls with
      | nil => rfl
      | cons line ls =>
        have undecorated : (comment? line).bind decorated? = none := by
          rw [Option.eq_none_iff_forall_ne_some]
          intro title decorated
          exact plain title (congrArg some (bind_decorated?_eq_some.mp decorated))
        rw [ofLines, undecorated]
    refine (step _ (untitled rfl)).trans ((readTable_eq none 1 headless).trans ?_)
    cases headers <;> rfl

theorem cells_of_headers {comment : List Char} (here : o.headers = some comment) :
    o.cells = RecordFile.cells comment := by rw [cells, here]; rfl

theorem cells_of_headless (none : o.headers = none) : o.cells = [] := by rw [cells, none]; rfl

/-- The headers that a record file holds are those of the opening. -/
theorem Holds.headers_eq {file : RecordFile} (holds : o.Holds rest file) :
    file.headers = o.cells := by
  cases here : o.headers with
  | some comment =>
    rw [isRow_iff.mp (holds.headers comment here), cells_of_headers here]
  | none => rw [holds.headless here, cells_of_headless here]

theorem holds_iff {file : RecordFile} : o.Holds rest file ↔
    (o.headers ≠ none → ∀ line ∈ rest, width line = o.cells.length) ∧
      file = { title := o.title.map fun title => Text.trim (String.ofList title)
               headers := o.cells
               rows := rest.map RecordFile.cells } := by
  constructor
  · intro holds
    have rows := forall₂_isRow_iff.mp holds.rows
    refine ⟨fun headed line mem => ?_, ?_⟩
    · obtain ⟨comment, here⟩ := Option.ne_none_iff_exists'.mp headed
      have filled : file.headers ≠ [] := (holds.headers comment here).nonempty
      rw [← length_cells, ← holds.headers_eq]
      exact holds.even filled _ (rows ▸ List.mem_map_of_mem mem)
    · rw [← holds.title, ← holds.headers_eq, ← rows]
  · rintro ⟨even, rfl⟩
    refine ⟨rfl, cells_of_headless, fun comment here => ?_, forall₂_isRow_iff.mpr rfl, ?_⟩
    · exact isRow_iff.mpr (cells_of_headers here)
    · intro filled row mem
      obtain ⟨line, inside, rfl⟩ := List.mem_map.mp mem
      rw [length_cells]
      exact even (fun none => filled (cells_of_headless none)) line inside

/-- What is read are the rows that the lines hold, and every even table is read. -/
theorem Opens.ofLines_eq_ok_iff (opens : Opens o ls rest) {file : RecordFile} :
    ofLines ls = .ok file ↔ o.Holds rest file := by
  rw [ofLines_of_opens opens, holds_iff]
  cases here : o.headers with
  | none =>
    rw [cells_of_headless here, readRows_nil_headers]
    simp [Except.map, eq_comm]
  | some comment =>
    have filled : o.cells ≠ [] := cells_of_headers here ▸ cells_ne_nil comment
    constructor
    · intro read
      cases rows : readRows o.cells (o.lines.length + 1) rest with
      | error e => rw [rows] at read; cases read
      | ok table =>
        rw [rows] at read
        cases read
        obtain ⟨even, rfl⟩ := (readRows_eq_ok_iff filled).mp rows
        exact ⟨fun _ => even, rfl⟩
    · rintro ⟨even, rfl⟩
      rw [(readRows_eq_ok_iff filled).mpr ⟨even nofun, rfl⟩]
      rfl

theorem Opens.ofLines_eq_error_iff (opens : Opens o ls rest) {e : RecordFailure} :
    ofLines ls = .error e ↔ o.Fails rest e := by
  rw [ofLines_of_opens opens, Fails]
  cases here : o.headers with
  | none =>
    rw [cells_of_headless here, readRows_nil_headers]
    exact iff_of_false nofun nofun
  | some comment =>
    have filled : o.cells ≠ [] := cells_of_headers here ▸ cells_ne_nil comment
    have length : o.cells.length = width comment := by rw [cells_of_headers here, length_cells]
    have failed : (readRows o.cells (o.lines.length + 1) rest).map (fun rows : List (List String) =>
          ({ title := o.title.map fun title => Text.trim (String.ofList title)
             headers := o.cells
             rows } : RecordFile)) = .error e ↔
        readRows o.cells (o.lines.length + 1) rest = .error e := by
      cases readRows o.cells (o.lines.length + 1) rest <;> simp [Except.map]
    rw [failed, readRows_eq_error_iff filled, length]
    simp [Nat.add_right_comm]

/-- Every line is the title, the headers or a row. -/
theorem Opens.length_eq (opens : Opens o ls rest) {file : RecordFile} (holds : o.Holds rest file) :
    ls.length = file.rows.length + (if file.title = none then 0 else 1) +
      (if file.headers = [] then 0 else 1) := by
  have rows : file.rows.length = rest.length := holds.rows.length_eq
  have title : (if file.title = none then 0 else 1) = (o.title.map titled).toList.length := by
    rw [holds.title]
    cases o.title <;> rfl
  have headers : (if file.headers = [] then 0 else 1) = (o.headers.map ('#' :: ·)).toList.length := by
    cases here : o.headers with
    | none => rw [if_pos (holds.headless here)]; rfl
    | some comment => rw [if_neg (holds.headers comment here).nonempty]; rfl
  rw [title, headers, rows, opens.lines_eq, lines, List.length_append, List.length_append]
  omega

end Opening

/-- A text is opened in one way. It is read as what its lines then hold, each of them accounted for,
and it is refused for the first line with another number of cells than the headers. -/
theorem ofText_eq_iff (s : String) : ∃ o rest, o.Opens (Text.lines s.toList) rest ∧
    (∀ o' rest', Opening.Opens o' (Text.lines s.toList) rest' → o' = o ∧ rest' = rest) ∧
    (∀ file, ofText s = .ok file ↔ o.Holds rest file) ∧
    (∀ e, ofText s = .error e ↔ o.Fails rest e) ∧
    ∀ file, ofText s = .ok file → (Text.lines s.toList).length =
      file.rows.length + (if file.title = none then 0 else 1) +
        (if file.headers = [] then 0 else 1) := by
  obtain ⟨o, rest, opens⟩ := Opening.exists_opens (Text.lines s.toList)
  refine ⟨o, rest, opens, fun o' rest' opens' => opens'.unique opens,
    fun file => opens.ofLines_eq_ok_iff, fun e => opens.ofLines_eq_error_iff, fun file read => ?_⟩
  exact opens.length_eq (opens.ofLines_eq_ok_iff.mp read)

end Microbench.RecordFile
