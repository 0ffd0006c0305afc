import Microbench.Disk
import Microbench.Proofs.Code
import Microbench.Proofs.Disk.Path

/-!
# Places on a disk

What stands at a place after something was put somewhere, where a path leads to, and that new
directories and files do not lead an old path astray.
-/

namespace Microbench

namespace Disk

variable {d d' : Disk} {p q : List String} {ns rest : List String}

/-! ## What stands at a place -/

theorem lookup_filter_of_ne {nodes : List (List String × Node)} (differ : q ≠ p) :
    (nodes.filter fun e => e.1 != p).lookup q = nodes.lookup q := by
  induction nodes with
  | nil => rfl
  | cons e nodes ih =>
    rcases e with ⟨place, node⟩
    rw [List.filter_cons]
    by_cases same : place = p
    · subst same
      have other : (q == place) = false := by simpa using differ
      simp only [bne_self_eq_false, Bool.false_eq_true, if_false, ih, List.lookup_cons, other]
    · have kept : (place != p) = true := by simpa using same
      simp only [kept, if_true, List.lookup_cons, ih]

theorem node?_put (d : Disk) (some : p ≠ []) (node : Node) (q : List String) :
    (d.put p node).node? q = if q = p then .some node else d.node? q := by
  unfold node? put
  by_cases same : q = p
  · subst same
    have filled : q.isEmpty = false := by simpa using some
    simp [filled]
  · have other : (q == p) = false := by simpa using same
    simp only [List.lookup_cons, other, lookup_filter_of_ne same, if_neg same]

/-- The disk after an access was counted. -/
def counted (d : Disk) : Disk := { d with accesses := d.accesses + 1 }

@[simp] theorem node?_counted (d : Disk) (q : List String) : d.counted.node? q = d.node? q := rfl

/-! ## Where names lead -/

theorem follow_up : d.follow p (".." :: ns) = d.follow p.dropLast ns := rfl

/-- The last name need not stand for anything. -/
theorem follow_last {name : String} (down : name ≠ "..") (short : name.utf8ByteSize ≤ longestName) :
    d.follow p [name] = .ok (p ++ [name]) := by
  have up : (name == "..") = false := by simpa using down
  rw [follow, up, if_neg (Nat.not_lt.mpr short)]
  rfl

theorem follow_next {name : String} (down : name ≠ "..") (short : name.utf8ByteSize ≤ longestName)
    (more : ns ≠ []) (dir : d.node? (p ++ [name]) = some .directory) :
    d.follow p (name :: ns) = d.follow (p ++ [name]) ns := by
  have up : (name == "..") = false := by simpa using down
  have later : ns.isEmpty = false := by simpa using more
  rw [follow, up, if_neg (Nat.not_lt.mpr short)]
  simp only [later, dir]
  rfl

/-- How a list of names can lead somewhere. -/
theorem follow_cons {name : String} (led : d.follow p (name :: ns) = .ok q) :
    name = ".." ∧ d.follow p.dropLast ns = .ok q ∨
      name ≠ ".." ∧ name.utf8ByteSize ≤ longestName ∧
        (ns = [] ∧ q = p ++ [name] ∨
          ns ≠ [] ∧ d.node? (p ++ [name]) = some .directory ∧
            d.follow (p ++ [name]) ns = .ok q) := by
  rw [follow] at led
  by_cases up : (name == "..") = true
  · rw [if_pos up] at led
    exact .inl ⟨eq_of_beq up, led⟩
  · rw [if_neg up] at led
    refine .inr ⟨fun same => up (beq_iff_eq.mpr same), ?_⟩
    by_cases long : longestName < name.utf8ByteSize
    · rw [if_pos long] at led
      cases led
    · rw [if_neg long] at led
      refine ⟨Nat.not_lt.mp long, ?_⟩
      cases ns with
      | nil =>
        cases led
        exact .inl ⟨rfl, rfl⟩
      | cons m ns =>
        simp only [List.isEmpty_cons, Bool.false_eq_true, if_false] at led
        cases standing : d.node? (p ++ [name]) with
        | none => rw [standing] at led; cases led
        | some node =>
          rw [standing] at led
          cases node with
          | file content => cases led
          | directory => exact .inr ⟨List.cons_ne_nil _ _, rfl, led⟩

theorem follow_append (led : d.follow p ns = .ok q) (dir : d.node? q = some .directory)
    (more : rest ≠ []) : d.follow p (ns ++ rest) = d.follow q rest := by
  induction ns generalizing p with
  | nil =>
    cases led
    rfl
  | cons name ns ih =>
    have filled : ns ++ rest ≠ [] := List.append_ne_nil_of_right_ne_nil _ more
    rcases follow_cons led with ⟨rfl, later⟩ | ⟨down, short, ⟨rfl, rfl⟩ | ⟨_, standing, later⟩⟩
    · rw [List.cons_append, follow_up, ih later]
    · rw [List.singleton_append, follow_next down short more dir]
    · rw [List.cons_append, follow_next down short filled standing, ih later]

/-- Names that end in one that leads down lead to a place of that name. -/
theorem exists_of_follow_concat {name : String} (down : name ≠ "..")
    (led : d.follow p (ns ++ [name]) = .ok q) : ∃ above, q = above ++ [name] := by
  induction ns generalizing p with
  | nil =>
    rcases follow_cons led with ⟨up, _⟩ | ⟨_, _, ⟨_, rfl⟩ | ⟨more, _⟩⟩
    · exact absurd up down
    · exact ⟨p, rfl⟩
    · exact absurd rfl more
  | cons first ns ih =>
    rcases follow_cons led with ⟨_, later⟩ | ⟨_, _, ⟨none, _⟩ | ⟨_, _, later⟩⟩
    · exact ih later
    · exact absurd none (List.append_ne_nil_of_right_ne_nil _ (List.cons_ne_nil _ _))
    · exact ih later

/-- New directories and files do not lead names astray. -/
theorem follow_of_directories
    (kept : ∀ p, d.node? p = some .directory → d'.node? p = some .directory)
    (led : d.follow p ns = .ok q) : d'.follow p ns = .ok q := by
  induction ns generalizing p with
  | nil => exact led
  | cons name ns ih =>
    rcases follow_cons led with ⟨rfl, later⟩ | ⟨down, short, ⟨rfl, rfl⟩ | ⟨more, standing, later⟩⟩
    · rw [follow_up, ih later]
    · exact follow_last down short
    · rw [follow_next down short more (kept _ standing), ih later]

/-! ## Where paths lead -/

/-- The place where the names of a path start from. -/
def startOf (d : Disk) (path : String) : List String := if Path.isAbsolute path then [] else d.here

theorem locate_of_follow {path : String} (nul : '\x00' ∉ path.toList) (filled : path ≠ "")
    (short : path.utf8ByteSize < longestPath)
    (led : d.follow (d.startOf path) (Path.names path) = .ok q)
    (ends : d.node? q = some .directory ∨ endsInSlash path = false ∧ endsInDot path = false) :
    d.locate path = .ok q := by
  have clean : path.toList.contains '\x00' = false := by simpa using nul
  have some : path.isEmpty = false := by simpa using filled
  unfold startOf at led
  unfold locate
  rw [clean, some, if_neg (Nat.not_le.mpr short), led]
  rcases ends with dir | ⟨slash, dot⟩
  · simp [dir]
  · cases standing : d.node? q with
    | none => simp [standing, dot]
    | some node => cases node <;> simp [standing, slash, dot]

theorem follow_of_locate {path : String} (led : d.locate path = .ok q) :
    '\x00' ∉ path.toList ∧ path ≠ "" ∧ d.follow (d.startOf path) (Path.names path) = .ok q := by
  unfold locate at led
  by_cases clean : path.toList.contains '\x00' = true
  · rw [if_pos clean] at led
    cases led
  · rw [if_neg clean] at led
    by_cases none : path.isEmpty = true
    · rw [if_pos none] at led
      cases led
    · rw [if_neg none] at led
      refine ⟨by simpa using clean, by simpa using none, ?_⟩
      split at led
      · cases led
      · unfold startOf
        cases names : d.follow (if Path.isAbsolute path then [] else d.here) (Path.names path) with
        | error e => rw [names] at led; cases led
        | ok place =>
          simp only [names] at led
          cases standing : d.node? place with
          | none =>
            simp only [standing] at led
            split at led
            · cases led
            · exact congrArg Except.ok (Except.ok.inj led)
          | some node =>
            cases node with
            | directory =>
              simp only [standing] at led
              exact congrArg Except.ok (Except.ok.inj led)
            | file content =>
              simp only [standing] at led
              split at led
              · cases led
              · exact congrArg Except.ok (Except.ok.inj led)

theorem follow_counted (p ns : List String) : d.counted.follow p ns = d.follow p ns := by
  induction ns generalizing p with
  | nil => rfl
  | cons name ns ih => simp only [follow, ih, node?_counted]

theorem locate_counted (path : String) : d.counted.locate path = d.locate path := by
  have here : d.counted.here = d.here := rfl
  unfold locate
  rw [here, follow_counted]
  rfl

end Disk

namespace Access

/-- Accesses do not fail for reasons of their own. -/
def Calm (d : Disk) : Prop := ∀ n, d.faults n = none

/-- An access that does not fail for reasons of its own. -/
theorem run_begin_of_served {d : Disk} (served : d.faults d.accesses = none) :
    begin.run d = (.ok (), d.counted) := by
  have got : (get : Access Disk).run d = (.ok d, d) := rfl
  have counted : (set { d with accesses := d.accesses + 1 } : Access PUnit).run d =
    (.ok ⟨⟩, d.counted) := rfl
  unfold begin
  rw [run_bind_of_ok got, run_bind_of_ok counted, served]
  rfl

theorem run_begin {d : Disk} (calm : Calm d) : begin.run d = (.ok (), d.counted) :=
  run_begin_of_served (calm _)

/-- An access counts even if it fails. -/
theorem disk_begin (d : Disk) : (begin.run d).2 = d.counted := by
  have got : (get : Access Disk).run d = (.ok d, d) := rfl
  have counted : (set { d with accesses := d.accesses + 1 } : Access PUnit).run d =
    (.ok ⟨⟩, d.counted) := rfl
  unfold begin
  rw [run_bind_of_ok got, run_bind_of_ok counted]
  split <;> rfl

theorem run_locate {d : Disk} {path : String} {q : List String} (led : d.locate path = .ok q) :
    (locate path).run d = (.ok q, d) := by
  have got : (get : Access Disk).run d = (.ok d, d) := rfl
  unfold locate
  rw [run_bind_of_ok got, led]
  rfl

theorem run_readBytes {d : Disk} {path : String} {content : Bytes}
    (filed : d.find? path = some (.file content)) (served : d.faults d.accesses = none) :
    (readBytes path).run d = (.ok content, d.counted) := by
  obtain ⟨q, led, stands⟩ : ∃ q, d.locate path = .ok q ∧ d.node? q = some (.file content) := by
    unfold Disk.find? at filed
    split at filed
    · exact ⟨_, ‹_›, filed⟩
    · cases filed
  have located : (locate path).run d.counted = (.ok q, d.counted) :=
    run_locate ((Disk.locate_counted path).trans led)
  have got : (get : Access Disk).run d.counted = (.ok d.counted, d.counted) := rfl
  unfold readBytes
  rw [run_bind_of_ok (run_begin_of_served served), run_bind_of_ok located, run_bind_of_ok got,
    Disk.node?_counted, stands]
  rfl

/-- The text of a file that a path names. -/
theorem run_readText {d : Disk} {path text : String}
    (filed : d.find? path = some (.file (Bytes.ofText text)))
    (served : d.faults d.accesses = none) : (readText path).run d = (.ok text, d.counted) := by
  unfold readText
  rw [run_bind_of_ok (run_readBytes filed served), Bytes.text?_ofText]
  rfl

end Access

end Microbench
