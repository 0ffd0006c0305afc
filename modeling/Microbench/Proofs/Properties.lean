import Microbench.Properties

/-!
# Properties from their entries

Properties are found again from the list of their entries: `ofList_entries`. A name has a value
exactly if it is among the names that were set.
-/

namespace Microbench.Properties

theorem insertEntry_of_greatest {key value : String} {es : List (String × String)}
    (greatest : ∀ e ∈ es, e.1 < key) : insertEntry key value es = es ++ [(key, value)] := by
  induction es with
  | nil => rfl
  | cons e rest ih =>
    rcases e with ⟨k, v⟩
    have less : k < key := greatest (k, v) List.mem_cons_self
    have not_less : ¬key < k := fun more => String.lt_irrefl k (String.lt_trans less more)
    have different : key ≠ k := fun same => String.lt_irrefl k (same ▸ less)
    rw [insertEntry, if_neg not_less, if_neg different,
      ih fun e mem => greatest e (List.mem_cons_of_mem _ mem)]
    rfl

theorem entries_insertAll {es : List (String × String)} {p : Properties}
    (ascending : (p.entries ++ es).Pairwise fun a b => a.1 < b.1) :
    (p.insertAll es).entries = p.entries ++ es := by
  induction es generalizing p with
  | nil =>
    rw [List.append_nil]
    rfl
  | cons e rest ih =>
    have greatest : ∀ a ∈ p.entries, a.1 < e.1 := fun a mem =>
      (List.pairwise_append.mp ascending).2.2 a mem e List.mem_cons_self
    have inserted : (p.insert e.1 e.2).entries = p.entries ++ [e] :=
      insertEntry_of_greatest greatest
    have step : p.insertAll (e :: rest) = (p.insert e.1 e.2).insertAll rest := rfl
    rw [step, ih]
    · rw [inserted, List.append_assoc]
      rfl
    · rw [inserted, List.append_assoc]
      exact ascending

/-- Properties set one after the other from their own entries are the same properties. -/
theorem ofList_entries (p : Properties) : ofList p.entries = p := by
  have same : (ofList p.entries).entries = p.entries :=
    entries_insertAll (p := empty) p.ascending
  cases p with
  | mk entries ascending =>
    generalize ofList entries = q at same
    cases q with
    | mk entries' ascending' =>
      cases same
      rfl

theorem contains_iff {p : Properties} {k : String} :
    p.contains k = true ↔ ∃ e ∈ p.entries, e.1 = k := by
  unfold contains get?
  rw [List.lookup_isSome_iff]
  simp only [beq_iff_eq]
  constructor
  · rintro ⟨e, mem, same⟩
    exact ⟨e, mem, same.symm⟩
  · rintro ⟨e, mem, same⟩
    exact ⟨e, mem, same.symm⟩

/-- A name has a value after several were set if it was one of those or had one before. -/
theorem contains_insertAll {p : Properties} {es : List (String × String)} {k : String} :
    (p.insertAll es).contains k = true ↔ (∃ e ∈ es, e.1 = k) ∨ p.contains k = true := by
  induction es generalizing p with
  | nil => simp [insertAll]
  | cons e rest ih =>
    have step : p.insertAll (e :: rest) = (p.insert e.1 e.2).insertAll rest := rfl
    have inserted : (p.insert e.1 e.2).contains k = true ↔ k = e.1 ∨ p.contains k = true := by
      unfold contains
      rw [get?_insert]
      split
      · rename_i same
        simp [same]
      · rename_i different
        simp [different]
    rw [step, ih, inserted]
    constructor
    · rintro (⟨a, mem, same⟩ | rfl | before)
      · exact .inl ⟨a, List.mem_cons_of_mem e mem, same⟩
      · exact .inl ⟨e, List.mem_cons_self, rfl⟩
      · exact .inr before
    · rintro (⟨a, mem, same⟩ | before)
      · rcases List.mem_cons.mp mem with rfl | later
        · exact .inr (.inl same.symm)
        · exact .inl ⟨a, later, same⟩
      · exact .inr (.inr before)

theorem contains_ofList {es : List (String × String)} {k : String} :
    (ofList es).contains k = true ↔ ∃ e ∈ es, e.1 = k := by
  unfold ofList
  rw [contains_insertAll]
  constructor
  · rintro (set | none)
    · exact set
    · cases none
  · exact .inl

end Microbench.Properties
