/-!
# Properties

Suites are configured by named texts. The names are kept in ascending order, each once, and the
last value given to a name is the one that counts. `get?_insert` and `get?_insertAll` say so.
-/

namespace Microbench

/-- Named texts in ascending order of their names. -/
structure Properties where
  entries : List (String × String) := []
  ascending : entries.Pairwise (fun a b => a.1 < b.1) := by decide

namespace Properties

/-- No properties. -/
def empty : Properties := {}

instance : Inhabited Properties := ⟨empty⟩

/-- The entries with one more, in its place. -/
def insertEntry (key value : String) : List (String × String) → List (String × String)
  | [] => [(key, value)]
  | (k, v) :: rest =>
    if key < k then (key, value) :: (k, v) :: rest
    else if key = k then (key, value) :: rest
    else (k, v) :: insertEntry key value rest

theorem mem_insertEntry {key value : String} {e : String × String} :
    ∀ {es : List (String × String)}, e ∈ insertEntry key value es → e = (key, value) ∨ e ∈ es
  | [], h => by simpa [insertEntry] using h
  | (k, v) :: rest, h => by
    simp only [insertEntry] at h
    split at h
    · simpa using h
    · split at h
      · rcases List.mem_cons.1 h with h | h
        · exact .inl h
        · exact .inr (.tail _ h)
      · rcases List.mem_cons.1 h with h | h
        · exact .inr (h ▸ .head _)
        · exact (mem_insertEntry h).imp_right (.tail _)

theorem ascending_insertEntry (key value : String) :
    ∀ {es : List (String × String)}, es.Pairwise (fun a b => a.1 < b.1) →
      (insertEntry key value es).Pairwise (fun a b => a.1 < b.1)
  | [], _ => by simp [insertEntry]
  | (k, v) :: rest, h => by
    have ⟨hk, hrest⟩ := List.pairwise_cons.1 h
    simp only [insertEntry]
    split
    · next hlt =>
      refine List.pairwise_cons.2 ⟨fun e he => ?_, h⟩
      rcases List.mem_cons.1 he with rfl | he
      · exact hlt
      · exact String.lt_trans hlt (hk e he)
    · split
      · next heq => exact List.pairwise_cons.2 ⟨fun e he => heq ▸ hk e he, hrest⟩
      · next hlt hne =>
        refine List.pairwise_cons.2 ⟨fun e he => ?_, ascending_insertEntry key value hrest⟩
        rcases mem_insertEntry he with rfl | he
        · exact Std.lt_of_le_of_ne hlt (Ne.symm hne)
        · exact hk e he

/-- The properties with a name set to a value. -/
def insert (p : Properties) (key value : String) : Properties :=
  ⟨insertEntry key value p.entries, ascending_insertEntry key value p.ascending⟩

/-- The value of a name. -/
def get? (p : Properties) (key : String) : Option String := p.entries.lookup key

/-- Whether a name has a value. -/
def contains (p : Properties) (key : String) : Bool := (p.get? key).isSome

/-- The properties with names set one after the other. -/
def insertAll (p : Properties) (entries : List (String × String)) : Properties :=
  entries.foldl (fun p e => p.insert e.1 e.2) p

/-- Properties set one after the other. -/
def ofList (entries : List (String × String)) : Properties := empty.insertAll entries

theorem lookup_insertEntry (key value k : String) :
    ∀ es : List (String × String), (insertEntry key value es).lookup k =
      if k = key then some value else es.lookup k
  | [] => by
    by_cases h : k = key
    · simp [insertEntry, h]
    · have hb : (k == key) = false := by simpa using h
      simp [insertEntry, List.lookup_cons, h, hb]
  | (k', v) :: rest => by
    have ih := lookup_insertEntry key value k rest
    by_cases hk : k = key
    · subst hk
      simp only [insertEntry]
      split
      · simp
      · split
        · simp
        · next hne =>
          have : (k == k') = false := by simpa using hne
          simp [List.lookup_cons, this, ih]
    · have hkb : (k == key) = false := by simpa using hk
      simp only [insertEntry]
      split
      · simp [List.lookup_cons, hkb]
      · split
        · next heq => subst heq; simp [List.lookup_cons, hkb]
        · simp only [List.lookup_cons, ih, hk, if_false]

@[simp] theorem get?_insert (p : Properties) (key value k : String) :
    (p.insert key value).get? k = if k = key then some value else p.get? k :=
  lookup_insertEntry key value k p.entries

/-- Of several values for a name the last one counts. -/
theorem get?_insertAll (p : Properties) (es : List (String × String)) (k : String) :
    (p.insertAll es).get? k =
      ((es.reverse.find? (fun e => e.1 == k)).map (·.2)).or (p.get? k) := by
  induction es generalizing p with
  | nil => simp [insertAll]
  | cons e rest ih =>
    rw [insertAll, List.foldl_cons, ← insertAll, ih, get?_insert, List.reverse_cons,
      List.find?_append]
    by_cases h : k = e.1
    · subst h
      cases List.find? (fun x => x.1 == e.1) rest.reverse <;> simp
    · have : (e.1 == k) = false := by simpa using Ne.symm h
      cases List.find? (fun x => x.1 == k) rest.reverse <;> simp [h, this]

end Properties

end Microbench
