import Microbench.Proofs.Disk.Places

/-!
# Files that were written

A write of which it is known that it succeeded: the path names a file with the content that was
written, whatever the disk was before.
-/

namespace Microbench

namespace Disk

variable {d d' : Disk} {q : List String} {path : String}

/-- A path that can only name a directory names no file. -/
theorem ends_of_locate (led : d.locate path = .ok q) (file : d.node? q ≠ some .directory) :
    endsInDot path = false ∧ (d.node? q = none ∨ endsInSlash path = false) := by
  have whole := led
  obtain ⟨nul, filled, leads⟩ := follow_of_locate led
  have clean : path.toList.contains '\x00' = false := by simpa using nul
  have some : path.isEmpty = false := by simpa using filled
  unfold startOf at leads
  unfold locate at whole
  rw [clean, some, leads] at whole
  by_cases long : longestPath ≤ path.utf8ByteSize
  · rw [if_pos long] at whole
    cases whole
  · rw [if_neg long] at whole
    cases standing : d.node? q with
    | none =>
      cases dot : endsInDot path with
      | false => exact ⟨rfl, .inl rfl⟩
      | true => simp [standing, dot] at whole
    | some node =>
      cases node with
      | directory => exact absurd standing file
      | file content =>
        cases dot : endsInDot path <;> cases slash : endsInSlash path <;>
          simp_all

theorem short_of_locate (led : d.locate path = .ok q) : path.utf8ByteSize < longestPath := by
  apply Nat.lt_of_not_le
  intro long
  unfold locate at led
  rw [if_pos long] at led
  split at led
  · cases led
  · split at led <;> cases led

/-- A file in the place that a path led to, with every directory still there, is what the path
names. -/
theorem find?_of_filed {content : Bytes} (led : d.locate path = .ok q) (here : d'.here = d.here)
    (kept : ∀ p, d.node? p = some .directory → d'.node? p = some .directory)
    (filed : d'.node? q = some (.file content))
    (ends : endsInSlash path = false ∧ endsInDot path = false) :
    d'.find? path = some (.file content) := by
  obtain ⟨nul, filled, leads⟩ := follow_of_locate led
  have start : d'.startOf path = d.startOf path := by
    unfold startOf
    rw [here]
  have leads' : d'.follow (d'.startOf path) (Path.names path) = .ok q := by
    rw [start]
    exact follow_of_directories kept leads
  unfold find?
  rw [locate_of_follow nul filled (short_of_locate led) leads' (.inr ends)]
  exact filed

end Disk

namespace Access

variable {d d' : Disk} {q : List String} {path : String}

theorem of_begin (started : begin.run d = (.ok (), d')) : d' = d.counted := by
  rw [← disk_begin d, started]

theorem of_locate (located : (locate path).run d = (.ok q, d')) :
    d' = d ∧ d.locate path = .ok q := by
  have got : (get : Access Disk).run d = (.ok d, d) := rfl
  unfold locate at located
  rw [run_bind_of_ok got] at located
  split at located
  · rename_i place led
    cases located
    exact ⟨rfl, led⟩
  · cases located

/-- A file that was made stands where no directory stood. -/
theorem of_createFile (created : (createFile path).run d = (.ok q, d')) :
    d.locate path = .ok q ∧ d.node? q ≠ some .directory ∧
      (Disk.endsInSlash path = false ∧ Disk.endsInDot path = false) ∧
      d' = d.counted.put q (.file []) := by
  unfold createFile at created
  obtain ⟨_, d₁, started, created⟩ := exists_of_run_bind_ok created
  cases of_begin started
  obtain ⟨place, d₂, located, created⟩ := exists_of_run_bind_ok created
  obtain ⟨rfl, led⟩ := of_locate located
  have got : (get : Access Disk).run d.counted = (.ok d.counted, d.counted) := rfl
  rw [run_bind_of_ok got] at created
  rw [Disk.locate_counted] at led
  have putting : (set (d.counted.put place (.file [])) : Access PUnit).run d.counted =
    (.ok ⟨⟩, d.counted.put place (.file [])) := rfl
  cases standing : d.node? place with
  | none =>
    have none : d.counted.node? place = .none := standing
    simp only [none] at created
    cases slash : Disk.endsInSlash path with
    | true =>
      rw [slash] at created
      cases created
    | false =>
      simp only [slash, Bool.false_eq_true, if_false] at created
      rw [run_bind_of_ok putting] at created
      cases created
      have file : d.node? q ≠ some .directory := by rw [standing]; nofun
      exact ⟨led, file, ⟨rfl, (Disk.ends_of_locate led file).1⟩, rfl⟩
  | some node =>
    have stands : d.counted.node? place = .some node := standing
    cases node with
    | directory =>
      simp only [stands] at created
      cases created
    | file content =>
      simp only [stands] at created
      rw [run_bind_of_ok putting] at created
      cases created
      have file : d.node? q ≠ some .directory := by rw [standing]; nofun
      obtain ⟨dot, none | slash⟩ := Disk.ends_of_locate led file
      · rw [standing] at none
        cases none
      · exact ⟨led, file, ⟨slash, dot⟩, rfl⟩

theorem of_append {bytes content : Bytes} (appended : (append q bytes).run d = (.ok (), d'))
    (stands : d.node? q = some (.file content)) :
    d' = d.counted.put q (.file (content ++ bytes)) := by
  unfold append at appended
  obtain ⟨_, d₁, started, appended⟩ := exists_of_run_bind_ok appended
  cases of_begin started
  have got : (get : Access Disk).run d.counted = (.ok d.counted, d.counted) := rfl
  rw [run_bind_of_ok got, Disk.node?_counted, stands] at appended
  cases appended
  rfl

/-- A path that was written to names a file of the content. -/
theorem find?_of_writeFile {bytes : Bytes} (written : (writeFile path bytes).run d = (.ok (), d')) :
    d'.find? path = some (.file bytes) := by
  unfold writeFile at written
  obtain ⟨q, d₁, created, written⟩ := exists_of_run_bind_ok written
  obtain ⟨led, file, ends, rfl⟩ := of_createFile created
  have below : q ≠ [] := by
    intro root
    rw [root] at file
    exact file rfl
  -- whether bytes were added or not, only the node of the file changed
  have left : d'.here = d.here ∧
      ∀ p, d'.node? p = if p = q then some (.file bytes) else d.node? p := by
    by_cases blank : bytes.isEmpty = true
    · rw [if_pos blank] at written
      cases written
      refine ⟨rfl, fun p => ?_⟩
      rw [Disk.node?_put _ below, List.isEmpty_iff.mp blank, Disk.node?_counted]
    · rw [if_neg blank] at written
      have stands : (d.counted.put q (.file [])).node? q = some (.file []) := by
        rw [Disk.node?_put _ below, if_pos rfl]
      cases of_append written stands
      refine ⟨rfl, fun p => ?_⟩
      rw [Disk.node?_put _ below, Disk.node?_counted, Disk.node?_put _ below, Disk.node?_counted]
      by_cases same : p = q
      · rw [if_pos same, if_pos same]
        rfl
      · rw [if_neg same, if_neg same, if_neg same]
  refine Disk.find?_of_filed led left.1 (fun p dir => ?_) ?_ ends
  · have differ : p ≠ q := by
      intro same
      rw [same] at dir
      exact file dir
    rw [left.2, if_neg differ, dir]
  · rw [left.2, if_pos rfl]

end Access

end Microbench
