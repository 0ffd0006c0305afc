import Mathlib.Data.List.Nodup
import Mathlib.Data.List.TakeWhile
import Mathlib.Data.String.Basic
import Microbench.Plan

/-!
# Registries and plans

A registry holds one definition of each suite, in ascending order, and it is the first that was
given. A plan for suites of it is made of their definitions.

* `ids_ascending`, `mem_ids_ofDefinitions`: which identifiers are registered, and in which order.
* `get?_ofDefinitions`: which definition an identifier has.
* `Plan.make_of_registered`, `Plan.make_of_unregistered`: what is planned.
-/

namespace Microbench

variable {κ : Type}

namespace Registry

variable {d e : Definition κ} {ds rest : List (Definition κ)} {id : String} {r : Registry κ}

/-! ## The first of several definitions -/

/-- The first definition with an identifier. -/
def first? (ds : List (Definition κ)) (id : String) : Option (Definition κ) := ds.find? (·.id == id)

theorem first?_cons_of_eq (here : d.id = id) : first? (d :: rest) id = some d :=
  List.find?_cons_of_pos (beq_iff_eq.mpr here)

theorem first?_cons_of_ne (other : d.id ≠ id) : first? (d :: rest) id = first? rest id :=
  List.find?_cons_of_neg (by simpa using other)

theorem id_of_first? (found : first? ds id = some d) : d.id = id := by
  have same := List.find?_some found
  exact beq_iff_eq.mp same

theorem exists_first?_iff : (∃ d, first? ds id = some d) ↔ ∃ d ∈ ds, d.id = id := by
  rw [← Option.isSome_iff_exists, first?, List.find?_isSome]
  simp only [beq_iff_eq]

/-! ## Sorting -/

theorem mem_place : e ∈ place d rest ↔ e = d ∨ e ∈ rest := by
  induction rest with
  | nil => rw [place, List.mem_singleton]; simp
  | cons f rest ih =>
    rw [place]
    split
    · exact List.mem_cons
    · rw [List.mem_cons, ih, List.mem_cons, or_left_comm]

/-- Definitions in ascending order of their identifiers. -/
def Sorted (ds : List (Definition κ)) : Prop := ds.Pairwise (·.id ≤ ·.id)

theorem sorted_place (sorted : Sorted rest) : Sorted (place d rest) := by
  induction rest with
  | nil => exact List.pairwise_singleton _ _
  | cons f rest ih =>
    obtain ⟨least, later⟩ := List.pairwise_cons.mp sorted
    rw [place]
    split
    · next le =>
      refine List.pairwise_cons.mpr ⟨fun e mem => ?_, sorted⟩
      rcases List.mem_cons.mp mem with rfl | inside
      · exact le
      · exact le.trans (least e inside)
    · next gt =>
      refine List.pairwise_cons.mpr ⟨fun e mem => ?_, ih later⟩
      rcases mem_place.mp mem with rfl | inside
      · exact (not_le.mp gt).le
      · exact least e inside

theorem sorted_sort (ds : List (Definition κ)) : Sorted (sort ds) := by
  induction ds with
  | nil => exact .nil
  | cons d ds ih => exact sorted_place ih

/-- What is placed stands in front of all that has its identifier. -/
theorem first?_place (d : Definition κ) (rest : List (Definition κ)) (id : String) :
    first? (place d rest) id = first? (d :: rest) id := by
  induction rest with
  | nil => rfl
  | cons f rest ih =>
    rw [place]
    split
    · rfl
    · next gt =>
      have differs : f.id ≠ d.id := (not_le.mp gt).ne
      by_cases here : d.id = id
      · rw [first?_cons_of_ne (here ▸ differs), ih, first?_cons_of_eq here, first?_cons_of_eq here]
      · by_cases next : f.id = id
        · rw [first?_cons_of_eq next, first?_cons_of_ne here, first?_cons_of_eq next]
        · rw [first?_cons_of_ne next, ih, first?_cons_of_ne here, first?_cons_of_ne here,
            first?_cons_of_ne next]

/-- Of definitions with one identifier, sorting leaves the first one the first. -/
theorem first?_sort (ds : List (Definition κ)) (id : String) : first? (sort ds) id = first? ds id := by
  induction ds with
  | nil => rfl
  | cons d ds ih =>
    rw [sort, first?_place]
    by_cases here : d.id = id
    · rw [first?_cons_of_eq here, first?_cons_of_eq here]
    · rw [first?_cons_of_ne here, first?_cons_of_ne here, ih]

/-! ## Dropping repeated definitions -/

/-- The definitions that are kept. -/
def kept (ds : List (Definition κ)) : List (Definition κ) := (dropRepeated ds).1

theorem kept_cons (d : Definition κ) (rest : List (Definition κ)) :
    kept (d :: rest) = d :: (kept rest).dropWhile (·.id == d.id) := rfl

theorem mem_of_mem_kept (mem : e ∈ kept ds) : e ∈ ds := by
  induction ds with
  | nil => exact mem
  | cons d ds ih =>
    rw [kept_cons] at mem
    rcases List.mem_cons.mp mem with rfl | later
    · exact List.mem_cons_self
    · exact List.mem_cons_of_mem _ (ih ((List.dropWhile_suffix _).subset later))

/-- Of sorted definitions one is kept for each identifier. -/
theorem ascending_kept (sorted : Sorted ds) : (kept ds).Pairwise (·.id < ·.id) := by
  induction ds with
  | nil => exact .nil
  | cons d ds ih =>
    obtain ⟨least, later⟩ := List.pairwise_cons.mp sorted
    have ascending := ih later
    rw [kept_cons]
    refine List.pairwise_cons.mpr ⟨fun e mem => ?_, ascending.sublist (List.dropWhile_sublist _)⟩
    have le : ∀ f ∈ kept ds, d.id ≤ f.id := fun f mem => least f (mem_of_mem_kept mem)
    cases rest : kept ds with
    | nil =>
      rw [rest] at mem
      exact absurd mem List.not_mem_nil
    | cons f rest' =>
      rw [rest] at mem ascending le
      obtain ⟨above, -⟩ := List.pairwise_cons.mp ascending
      have first := le f List.mem_cons_self
      rw [List.dropWhile_cons] at mem
      split at mem
      · exact first.trans_lt (above e ((List.dropWhile_suffix _).subset mem))
      · next differs =>
        have lower : d.id < f.id := lt_of_le_of_ne first fun same => differs (beq_iff_eq.mpr same.symm)
        rcases List.mem_cons.mp mem with rfl | inside
        · exact lower
        · exact lower.trans (above e inside)

/-- What is dropped is found in front of where it stood. -/
theorem first?_kept (ds : List (Definition κ)) (id : String) : first? (kept ds) id = first? ds id := by
  induction ds with
  | nil => rfl
  | cons d ds ih =>
    rw [kept_cons]
    by_cases here : d.id = id
    · rw [first?_cons_of_eq here, first?_cons_of_eq here]
    · have passed : first? ((kept ds).takeWhile (·.id == d.id)) id = none := by
        refine List.find?_eq_none.mpr fun f mem same => here ?_
        have dropped := List.mem_takeWhile_imp mem
        exact (beq_iff_eq.mp dropped).symm.trans (beq_iff_eq.mp same)
      have behind : first? ((kept ds).dropWhile (·.id == d.id)) id = first? (kept ds) id := by
        conv_rhs => rw [← List.takeWhile_append_dropWhile (p := (·.id == d.id)) (l := kept ds)]
        rw [first?, first?, List.find?_append]
        rw [first?] at passed
        rw [passed, Option.none_or]
      rw [first?_cons_of_ne here, first?_cons_of_ne here, behind, ih]

/-! ## Registries -/

theorem definitions_ofDefinitions (ds : List (Definition κ)) :
    (ofDefinitions ds).1.definitions = kept (sort ds) := rfl

/-- A registry in ascending order, with one definition for each identifier. -/
def Ascending (r : Registry κ) : Prop := r.definitions.Pairwise (·.id < ·.id)

theorem ascending_ofDefinitions (ds : List (Definition κ)) : (ofDefinitions ds).1.Ascending :=
  ascending_kept (sorted_sort ds)

/-- The definition of an identifier is the first that was given. -/
theorem get?_ofDefinitions (ds : List (Definition κ)) (id : String) :
    (ofDefinitions ds).1.get? id = first? ds id := by
  rw [← first?_sort, ← first?_kept]
  rfl

theorem id_of_get? (found : r.get? id = some d) : d.id = id := id_of_first? found

theorem mem_ids_iff : id ∈ r.ids ↔ ∃ d, r.get? id = some d :=
  List.mem_map.trans exists_first?_iff.symm

/-- What is registered is what was given. -/
theorem mem_ids_ofDefinitions {ds : List (Definition κ)} :
    id ∈ (ofDefinitions ds).1.ids ↔ ∃ d ∈ ds, d.id = id := by
  simp only [mem_ids_iff, get?_ofDefinitions, exists_first?_iff]

theorem ids_ascending (ascending : r.Ascending) : r.ids.Pairwise (· < ·) :=
  List.pairwise_map.mpr ascending

/-- No definition hides another one. -/
theorem get?_of_mem (ascending : r.Ascending) (mem : d ∈ r.definitions) : r.get? d.id = some d := by
  obtain ⟨e, found⟩ := mem_ids_iff.mp (List.mem_map_of_mem mem)
  have distinct : (r.definitions.map (·.id)).Nodup := (ids_ascending ascending).imp fun lt => lt.ne
  have equal : e = d :=
    List.inj_on_of_nodup_map distinct (List.mem_of_find?_eq_some found) mem (id_of_get? found)
  rw [found, equal]

end Registry

/-! ## Plans -/

namespace Plan

variable {r : Registry κ} {requested : List String} {selects : String → Bool}

/-- The identifiers that are to be planned: those that are requested, as they are, or else those that
are registered and selected. -/
def planned (r : Registry κ) (requested : List String) (selects : String → Bool) : List String :=
  if requested = [] then r.ids.filter selects else requested

/-- The plan for registered suites. -/
def ofIds (r : Registry κ) (ids : List String) : Plan κ := ⟨ids.filterMap r.get?⟩

theorem planned_registered (registered : ∀ id ∈ requested, id ∈ r.ids) :
    ∀ id ∈ planned r requested selects, id ∈ r.ids := by
  intro id mem
  rw [planned] at mem
  split at mem
  · exact (List.mem_filter.mp mem).1
  · exact registered id mem

theorem ids_ofIds {ids : List String} (registered : ∀ id ∈ ids, id ∈ r.ids) :
    (ofIds r ids).ids = ids := by
  induction ids with
  | nil => rfl
  | cons id ids ih =>
    obtain ⟨d, found⟩ := Registry.mem_ids_iff.mp (registered id List.mem_cons_self)
    have later := ih fun id' mem => registered id' (List.mem_cons_of_mem _ mem)
    rw [Plan.ids, ofIds] at later ⊢
    rw [List.filterMap_cons_some found, List.map_cons, later, Registry.id_of_get? found]

theorem isEmpty_ofIds {ids : List String} (registered : ∀ id ∈ ids, id ∈ r.ids) :
    (ofIds r ids).suites.isEmpty = ids.isEmpty := by
  rw [← List.isEmpty_map (f := (·.id))]
  exact congrArg List.isEmpty (ids_ofIds registered)

/-- The definitions of a registry are those of their identifiers. -/
theorem filterMap_get?_map_id {ds : List (Definition κ)} (found : ∀ d ∈ ds, r.get? d.id = some d) :
    (ds.map (·.id)).filterMap r.get? = ds := by
  rw [List.filterMap_map]
  exact (List.filterMap_congr found).trans List.filterMap_some

/-- The identifiers that are not registered. -/
def unregistered (r : Registry κ) (requested : List String) : List String :=
  requested.filter (· ∉ r.ids)

theorem unregistered_eq_nil_iff : unregistered r requested = [] ↔ ∀ id ∈ requested, id ∈ r.ids := by
  rw [unregistered, List.filter_eq_nil_iff]
  simp only [decide_eq_true_eq, not_not]

theorem filter_isNone_get? :
    (requested.filter fun id => (r.get? id).isNone) = unregistered r requested := by
  refine List.filter_congr fun id _ => ?_
  rw [Bool.eq_iff_iff, decide_eq_true_eq, Registry.mem_ids_iff, ← Option.isSome_iff_exists,
    Option.isNone_iff_eq_none, Option.not_isSome_iff_eq_none]

theorem make_of_registered (ascending : r.Ascending) (registered : ∀ id ∈ requested, id ∈ r.ids) :
    make r requested selects = .ok (ofIds r (planned r requested selects)) := by
  unfold make planned ofIds
  by_cases empty : requested = []
  · have definitions : (r.ids.filter selects).filterMap r.get? =
        r.definitions.filter fun d => selects d.id := by
      rw [Registry.ids, List.filter_map]
      exact filterMap_get?_map_id fun d mem =>
        Registry.get?_of_mem ascending (List.mem_filter.mp mem).1
    rw [if_pos (List.isEmpty_iff.mpr empty), if_pos empty, definitions]
  · rw [if_neg (mt List.isEmpty_iff.mp empty), if_neg empty]
    rw [filter_isNone_get?, unregistered_eq_nil_iff.mpr registered]
    rfl

theorem make_of_unregistered (unknown : ¬ ∀ id ∈ requested, id ∈ r.ids) :
    make r requested selects = .error (.unknownSuites (unregistered r requested)) := by
  have some : requested ≠ [] := fun empty => unknown (empty ▸ nofun)
  have listed : ¬ (unregistered r requested).isEmpty = true := fun none =>
    unknown (unregistered_eq_nil_iff.mp (List.isEmpty_iff.mp none))
  unfold make
  rw [if_neg (mt List.isEmpty_iff.mp some), filter_isNone_get?]
  exact if_neg listed

/-- The required properties that a suite lacks. -/
def lackedBy (r : Registry κ) (properties : Properties) (id : String) : List String :=
  ((r.get? id).elim [] (·.requires)).filter fun key => !properties.contains key

/-- The suites that lack properties, in the order of the plan. -/
def lacking (r : Registry κ) (properties : Properties) (ids : List String) :
    List (String × List String) :=
  (ids.map fun id => (id, lackedBy r properties id)).filter fun (_, keys) => !keys.isEmpty

theorem missing_ofIds {ids : List String} (registered : ∀ id ∈ ids, id ∈ r.ids)
    (properties : Properties) : (ofIds r ids).missing properties = lacking r properties ids := by
  have pairs : (ofIds r ids).suites.map (fun d => (d.id, d.missing properties)) =
      ids.map fun id => (id, lackedBy r properties id) := by
    induction ids with
    | nil => rfl
    | cons id ids ih =>
      obtain ⟨d, found⟩ := Registry.mem_ids_iff.mp (registered id List.mem_cons_self)
      have later := ih fun id' mem => registered id' (List.mem_cons_of_mem _ mem)
      rw [ofIds] at later ⊢
      rw [List.filterMap_cons_some found, List.map_cons, later, List.map_cons, lackedBy, found,
        Registry.id_of_get? found]
      rfl
  rw [missing, pairs]
  rfl

theorem lackedBy_eq_nil_iff {properties : Properties} {d : Definition κ} {id : String}
    (found : r.get? id = some d) :
    lackedBy r properties id = [] ↔ ∀ key ∈ d.requires, properties.contains key = true := by
  rw [lackedBy, found, List.filter_eq_nil_iff]
  simp

/-- No suite lacks anything if the definition of each has all that it requires. -/
theorem lacking_eq_nil_iff {ids : List String} {properties : Properties}
    (registered : ∀ id ∈ ids, id ∈ r.ids) : lacking r properties ids = [] ↔
      ∀ id ∈ ids, ∃ d, r.get? id = some d ∧ ∀ key ∈ d.requires, properties.contains key = true := by
  rw [lacking, List.filter_eq_nil_iff, List.forall_mem_map]
  refine forall₂_congr fun id mem => ?_
  obtain ⟨d, found⟩ := Registry.mem_ids_iff.mp (registered id mem)
  have nothing : ¬ (!(lackedBy r properties id).isEmpty) = true ↔ lackedBy r properties id = [] := by
    simp
  rw [nothing, lackedBy_eq_nil_iff found]
  constructor
  · intro present
    exact ⟨d, found, present⟩
  · rintro ⟨d', found', present⟩
    cases found.symm.trans found'
    exact present

end Plan

end Microbench
