import Microbench.Path
import Microbench.Proofs.Text.Parts

/-!
# The names of a path

Joining a name to a path adds it to the names of the path, and a path of given names has those
names. A path without repeated slashes and single dots is no longer than one with them.
-/

namespace Microbench.Path

/-! ## Names -/

/-- A name that a directory may hold: not empty, neither a dot nor two, without a slash. -/
structure PlainName (n : String) : Prop where
  filled : n ≠ ""
  no_dot : n ≠ "."
  no_dots : n ≠ ".."
  no_slash : '/' ∉ n.toList
  no_nul : '\x00' ∉ n.toList

theorem cutText_append_slash (a b : String) :
    Text.cutText '/' (a ++ "/" ++ b) = Text.cutText '/' a ++ Text.cutText '/' b := by
  have parts : (a ++ "/" ++ b).toList = a.toList ++ '/' :: b.toList := by
    rw [String.toList_append, String.toList_append, List.append_assoc]
    rfl
  rw [Text.cutText, parts, Text.cut_append_sep, List.map_append, Text.cutText, Text.cutText]

theorem cutText_of_no_slash {n : String} (h : '/' ∉ n.toList) : Text.cutText '/' n = [n] := by
  rw [Text.cutText, Text.cut_of_clean h, List.map_singleton, String.ofList_toList]

theorem names_append_slash (a b : String) : names (a ++ "/" ++ b) = names a ++ names b := by
  rw [names, cutText_append_slash, List.filter_append]
  rfl

theorem names_of_no_slash {n : String} (filled : n ≠ "") (dot : n ≠ ".") (h : '/' ∉ n.toList) :
    names n = [n] := by
  rw [names, cutText_of_no_slash h]
  simp [filled, dot]

theorem mem_names {p n : String} (h : n ∈ names p) :
    n ≠ "" ∧ n ≠ "." ∧ '/' ∉ n.toList ∧ ∀ c ∈ n.toList, c ∈ p.toList := by
  rcases List.mem_filter.mp h with ⟨mem, keep⟩
  rcases List.mem_map.mp mem with ⟨part, inCut, rfl⟩
  obtain ⟨clean, inside⟩ := Text.mem_cut inCut
  rw [String.toList_ofList]
  have named : String.ofList part ≠ "" ∧ String.ofList part ≠ "." := by simpa using keep
  exact ⟨named.1, named.2, clean, inside⟩

/-! ## Joining -/

theorem not_isAbsolute {n : String} (h : '/' ∉ n.toList) : isAbsolute n = false := by
  have first : n.toList.head? ≠ some '/' := fun mem => h (List.mem_of_head? mem)
  simpa [isAbsolute] using first

/-- A path that ends in a slash, or is given one, stands in front of the name. -/
theorem join_eq {p n : String} (some : p ≠ "") (plain : PlainName n) :
    ∃ a, join p n = a ++ "/" ++ n ∧ names a = names p := by
  have filled : p.isEmpty = false := by simpa using some
  unfold join
  rw [not_isAbsolute plain.no_slash, filled]
  by_cases ends : (p.toList.getLast? == .some '/') = true
  · obtain ⟨front, same⟩ := List.getLast?_eq_some_iff.mp (eq_of_beq ends)
    have parts : p = String.ofList front ++ "/" := by
      rw [← @String.ofList_toList p, same, String.ofList_append]
    refine ⟨String.ofList front, ?_, ?_⟩
    · simp only [Bool.or_self, Bool.false_eq_true, if_false, ends, if_true]
      exact congrArg (· ++ n) parts
    · have closed : p = String.ofList front ++ "/" ++ "" := by rw [← parts, String.append_empty]
      rw [closed, names_append_slash]
      exact (List.append_nil _).symm
  · refine ⟨p, ?_, rfl⟩
    simp only [Bool.or_self, Bool.false_eq_true, if_false, ends]

theorem isAbsolute_append {p q : String} (some : p ≠ "") : isAbsolute (p ++ q) = isAbsolute p := by
  have filled : p.toList ≠ [] := by simpa using some
  unfold isAbsolute
  rw [String.toList_append]
  cases chars : p.toList with
  | nil => exact absurd chars filled
  | cons c cs => rfl

theorem isAbsolute_join {p n : String} (some : p ≠ "") (plain : PlainName n) :
    isAbsolute (join p n) = isAbsolute p := by
  have filled : p.isEmpty = false := by simpa using some
  unfold join
  rw [not_isAbsolute plain.no_slash, filled]
  by_cases ends : (p.toList.getLast? == .some '/') = true
  · simp only [Bool.or_self, Bool.false_eq_true, if_false, ends, if_true]
    exact isAbsolute_append some
  · simp only [Bool.or_self, Bool.false_eq_true, if_false, ends]
    rw [String.append_assoc]
    exact isAbsolute_append some

theorem names_join {p n : String} (some : p ≠ "") (plain : PlainName n) :
    names (join p n) = names p ++ [n] := by
  obtain ⟨a, joined, same⟩ := join_eq some plain
  rw [joined, names_append_slash, same, names_of_no_slash plain.filled plain.no_dot plain.no_slash]

/-- A path that ends in a plain name ends in no slash and no dot. -/
theorem last_join {p n : String} (some : p ≠ "") (plain : PlainName n) :
    (join p n).toList.getLast? ≠ .some '/' ∧
      ((Text.cutText '/' (join p n)).filter fun m => !m.isEmpty).getLast? = .some n := by
  obtain ⟨a, joined, -⟩ := join_eq some plain
  rw [joined]
  constructor
  · rw [String.toList_append, List.getLast?_append]
    cases last : n.toList.getLast? with
    | none => exact absurd (List.getLast?_eq_none_iff.mp last) (by simpa using plain.filled)
    | some c =>
      rw [Option.some_or]
      intro slash
      rw [slash] at last
      exact plain.no_slash (List.mem_of_getLast? last)
  · rw [cutText_append_slash, cutText_of_no_slash plain.no_slash, List.filter_append]
    simp [plain.filled]

theorem join_ne_empty {p n : String} (some : p ≠ "") (plain : PlainName n) : join p n ≠ "" := by
  obtain ⟨a, joined, -⟩ := join_eq some plain
  rw [joined]
  intro empty
  have size := congrArg String.utf8ByteSize empty
  have slash : "/".utf8ByteSize = 1 := by decide
  rw [String.utf8ByteSize_append, String.utf8ByteSize_append, String.utf8ByteSize_empty] at size
  omega

theorem mem_join {p n : String} {c : Char} (h : c ∈ (join p n).toList) :
    c ∈ p.toList ∨ c = '/' ∨ c ∈ n.toList := by
  unfold join at h
  split at h
  · exact .inr (.inr h)
  · split at h
    · rw [String.toList_append, List.mem_append] at h
      exact h.imp_right .inr
    · rw [String.toList_append, String.toList_append, List.mem_append, List.mem_append] at h
      rcases h with (inP | slash) | inN
      · exact .inl inP
      · exact .inr (.inl (List.mem_singleton.mp slash))
      · exact .inr (.inr inN)

/-! ## Paths of given names -/

/-- Names that are read as themselves. -/
def Named (ns : List String) : Prop := ∀ n ∈ ns, n ≠ "" ∧ n ≠ "." ∧ '/' ∉ n.toList

theorem names_intercalate {ns : List String} (named : Named ns) :
    names ("/".intercalate ns) = ns := by
  induction ns with
  | nil => rfl
  | cons n ns ih =>
    obtain ⟨filled, dot, slash⟩ := named n List.mem_cons_self
    have first := names_of_no_slash filled dot slash
    have later := ih fun m mem => named m (List.mem_cons_of_mem _ mem)
    cases ns with
    | nil => rw [String.intercalate_singleton, first]
    | cons m ns =>
      rw [String.intercalate_cons_cons, names_append_slash, first, later, List.singleton_append]

theorem names_ofNames {absolute : Bool} {ns : List String} (named : Named ns) :
    names (ofNames absolute ns) = ns := by
  cases absolute with
  | false =>
    have relative : ofNames false ns = "/".intercalate ns := String.empty_append
    rw [relative, names_intercalate named]
  | true =>
    have rooted : ofNames true ns = "" ++ "/" ++ "/".intercalate ns := rfl
    rw [rooted, names_append_slash, names_intercalate named]
    rfl

theorem isAbsolute_ofNames {absolute : Bool} {ns : List String} (named : Named ns) :
    isAbsolute (ofNames absolute ns) = absolute := by
  cases absolute with
  | true =>
    have rooted : ofNames true ns = "/" ++ "/".intercalate ns := rfl
    rw [rooted, isAbsolute_append (by decide)]
    decide
  | false =>
    have relative : ofNames false ns = "/".intercalate ns := String.empty_append
    rw [relative]
    cases ns with
    | nil => rfl
    | cons n ns =>
      obtain ⟨filled, -, slash⟩ := named n List.mem_cons_self
      cases ns with
      | nil => rw [String.intercalate_singleton, not_isAbsolute slash]
      | cons m ns =>
        rw [String.intercalate_cons_cons, String.append_assoc, isAbsolute_append filled,
          not_isAbsolute slash]

theorem mem_intercalate {ns : List String} {c : Char} (h : c ∈ ("/".intercalate ns).toList) :
    c = '/' ∨ ∃ n ∈ ns, c ∈ n.toList := by
  induction ns with
  | nil => exact absurd h (by simp)
  | cons n ns ih =>
    cases ns with
    | nil =>
      rw [String.intercalate_singleton] at h
      exact .inr ⟨n, List.mem_cons_self, h⟩
    | cons m ns =>
      rw [String.intercalate_cons_cons, String.toList_append, String.toList_append, List.mem_append,
        List.mem_append] at h
      rcases h with (inFirst | slash) | later
      · exact .inr ⟨n, List.mem_cons_self, inFirst⟩
      · exact .inl (List.mem_singleton.mp slash)
      · rcases ih later with slash | ⟨o, mem, inO⟩
        · exact .inl slash
        · exact .inr ⟨o, List.mem_cons_of_mem _ mem, inO⟩

theorem mem_ofNames {absolute : Bool} {ns : List String} {c : Char}
    (h : c ∈ (ofNames absolute ns).toList) : c = '/' ∨ ∃ n ∈ ns, c ∈ n.toList := by
  rw [ofNames, String.toList_append, List.mem_append] at h
  rcases h with first | later
  · cases absolute with
    | true => exact .inl (List.mem_singleton.mp first)
    | false => exact absurd first (by simp)
  · exact mem_intercalate later

/-! ## Sizes -/

/-- The bytes of names that each have a slash. -/
def weight : List String → Nat
  | [] => 0
  | n :: ns => n.utf8ByteSize + 1 + weight ns

theorem weight_cons (n : String) (ns : List String) :
    weight (n :: ns) = n.utf8ByteSize + 1 + weight ns := rfl

theorem weight_filter_le (keep : String → Bool) (ns : List String) :
    weight (ns.filter keep) ≤ weight ns := by
  induction ns with
  | nil => exact Nat.le_refl _
  | cons n ns ih =>
    rw [List.filter_cons]
    split
    · rw [weight_cons, weight_cons]
      omega
    · rw [weight_cons]
      omega

theorem size_intercalate {ns : List String} (some : ns ≠ []) :
    ("/".intercalate ns).utf8ByteSize + 1 = weight ns := by
  have slash : "/".utf8ByteSize = 1 := by decide
  induction ns with
  | nil => exact absurd rfl some
  | cons n ns ih =>
    cases ns with
    | nil =>
      rw [String.intercalate_singleton, weight_cons]
      rfl
    | cons m ns =>
      have later := ih (List.cons_ne_nil _ _)
      rw [String.intercalate_cons_cons, String.utf8ByteSize_append, String.utf8ByteSize_append,
        weight_cons]
      omega

theorem intercalate_ofList (parts : List (List Char)) :
    "/".intercalate (parts.map String.ofList) = String.ofList (Text.unite '/' parts) := by
  induction parts with
  | nil => rfl
  | cons part parts ih =>
    cases parts with
    | nil => exact String.intercalate_singleton
    | cons next rest =>
      have step : Text.unite '/' (part :: next :: rest) =
        part ++ '/' :: Text.unite '/' (next :: rest) := rfl
      rw [List.map_cons, List.map_cons, String.intercalate_cons_cons, ← List.map_cons, ih, step,
        String.ofList_append, String.append_assoc]
      exact congrArg (String.ofList part ++ ·) (@String.ofList_append ['/'] _).symm

theorem intercalate_cutText (p : String) : "/".intercalate (Text.cutText '/' p) = p := by
  rw [Text.cutText, intercalate_ofList, Text.unite_cut, String.ofList_toList]

theorem cutText_ne_nil (p : String) : Text.cutText '/' p ≠ [] :=
  fun h => Text.cut_ne_nil '/' p.toList (List.map_eq_nil_iff.mp h)

theorem size_intercalate_names {p : String} (some : names p ≠ []) :
    ("/".intercalate (names p)).utf8ByteSize ≤ p.utf8ByteSize := by
  have parts := size_intercalate (cutText_ne_nil p)
  have kept := size_intercalate some
  have fewer : weight (names p) ≤ weight (Text.cutText '/' p) := weight_filter_le _ _
  rw [intercalate_cutText] at parts
  omega

/-- Dropping what says nothing makes a path no longer. -/
theorem size_ofNames_names {p : String} (some : names p ≠ []) :
    (ofNames (isAbsolute p) (names p)).utf8ByteSize ≤ p.utf8ByteSize := by
  cases absolute : isAbsolute p with
  | false =>
    have relative : ofNames false (names p) = "/".intercalate (names p) := String.empty_append
    rw [relative]
    exact size_intercalate_names some
  | true =>
    obtain ⟨rest, chars⟩ := List.head?_eq_some_iff.mp (eq_of_beq absolute)
    have rooted : p = "" ++ "/" ++ String.ofList rest := by
      rw [← @String.ofList_toList p, chars, ← List.singleton_append, String.ofList_append]
      rfl
    have below : names p = names (String.ofList rest) := by
      rw [rooted, names_append_slash]
      rfl
    have shorter := size_intercalate_names (below ▸ some)
    have size : p.utf8ByteSize = 1 + (String.ofList rest).utf8ByteSize := by
      rw [rooted, String.utf8ByteSize_append]
      rfl
    have slash : "/".utf8ByteSize = 1 := by decide
    have whole : ofNames true (names p) = "/" ++ "/".intercalate (names p) := rfl
    rw [whole, below, String.utf8ByteSize_append]
    omega

end Microbench.Path
