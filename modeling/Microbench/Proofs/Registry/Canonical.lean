import Mathlib.Data.List.Perm.Basic
import Microbench.Proofs.Registry
import Microbench.Proofs.Text.Order

/-!
# One registry for many orders

A registry in ascending order is determined by what it answers for each identifier. What it answers
is the first definition that was given for it, so nothing else about the order matters in which
definitions are given, and giving a registry its own definitions again changes nothing.

* `Ascending.ext`: registries in ascending order that answer the same are the same.
* `registers_ofDefinitions`: what is registered, and for which orders it is the same.
-/

namespace Microbench.Registry

variable {κ : Type} {r r' : Registry κ} {ds ds' : List (Definition κ)} {id : String}
  {d : Definition κ}

/-! ## Ascending registries -/

theorem Ascending.nodup (ascending : r.Ascending) : r.definitions.Nodup :=
  List.Pairwise.imp (fun before same => before.ne (congrArg (·.id) same)) ascending

theorem Ascending.mem_iff (ascending : r.Ascending) : d ∈ r.definitions ↔ r.get? d.id = some d :=
  ⟨get?_of_mem ascending, List.mem_of_find?_eq_some⟩

/-- A registry in ascending order is determined by what it answers. -/
theorem Ascending.ext (ascending : r.Ascending) (ascending' : r'.Ascending)
    (answers : ∀ id, r'.get? id = r.get? id) : r' = r := by
  have members : ∀ d, d ∈ r'.definitions ↔ d ∈ r.definitions := by
    intro d
    rw [ascending.mem_iff, ascending'.mem_iff, answers]
  have arranged : r'.definitions.Perm r.definitions :=
    (List.perm_ext_iff_of_nodup ascending'.nodup ascending.nodup).mpr members
  have same : r'.definitions = r.definitions :=
    arranged.eq_of_pairwise (fun _ _ _ _ before behind => absurd before behind.asymm) ascending'
      ascending
  cases r
  cases r'
  exact congrArg Registry.mk same

/-! ## The first of the definitions with an identifier -/

theorem first?_eq_head? (ds : List (Definition κ)) (id : String) :
    first? ds id = (ds.filter (·.id = id)).head? := by
  rw [List.head?_filter]
  rfl

theorem first?_eq_some_iff : first? ds id = some d ↔
    ∃ before after, ds = before ++ d :: after ∧ d.id = id ∧ ∀ e ∈ before, e.id ≠ id := by
  rw [first?, List.find?_eq_some_iff_append]
  constructor
  · rintro ⟨here, before, after, parts, others⟩
    exact ⟨before, after, parts, beq_iff_eq.mp here, fun e mem => by simpa using others e mem⟩
  · rintro ⟨before, after, parts, here, others⟩
    exact ⟨beq_iff_eq.mpr here, before, after, parts, fun e mem => by simpa using others e mem⟩

theorem first?_eq_none_iff : first? ds id = none ↔ ∀ d ∈ ds, d.id ≠ id := by
  rw [first?, List.find?_eq_none]
  simp only [beq_iff_eq]

/-! ## Making suites -/

/-- A suite cannot be made exactly if it is not registered; it may still panic while it is made. -/
theorem create_eq_failure_iff {env : Environment} {e : BenchError} :
    r.create id env = .error (.failure e) ↔ e = .unknownSuite id ∧ r.get? id = none := by
  unfold create
  cases found : r.get? id with
  | none =>
    simp only [and_true]
    constructor
    · intro same
      cases same
      rfl
    · rintro rfl
      rfl
  | some d => cases made : d.make env <;> simp [made]

/-! ## Registered definitions -/

/-- A registry of definitions: one for each identifier that occurs, in the order of the identifiers'
bytes, and of several with one identifier the first. -/
structure Registers (r : Registry κ) (ds : List (Definition κ)) : Prop where
  ascending : r.definitions.Pairwise fun d e => Bytes.ofText d.id < Bytes.ofText e.id
  mem_ids_iff : ∀ id, id ∈ r.ids ↔ ∃ d ∈ ds, d.id = id
  get?_eq_some_iff : ∀ id d, r.get? id = some d ↔
    ∃ before after, ds = before ++ d :: after ∧ d.id = id ∧ ∀ e ∈ before, e.id ≠ id
  get?_eq_none_iff : ∀ id, r.get? id = none ↔ ∀ d ∈ ds, d.id ≠ id
  create_eq_failure_iff : ∀ id env e, r.create id env = .error (.failure e) ↔
    e = .unknownSuite id ∧ ∀ d ∈ ds, d.id ≠ id

/-- Definitions in another order, but with those of one identifier in the order that they had. -/
def Rearranged (ds ds' : List (Definition κ)) : Prop :=
  ds'.Perm ds ∧ ∀ id, ds'.filter (·.id = id) = ds.filter (·.id = id)

theorem registers_of_definitions (ds : List (Definition κ)) : Registers (ofDefinitions ds).1 ds where
  ascending := List.Pairwise.imp (fun before => Bytes.ofText_lt_ofText before) (ascending_ofDefinitions ds)
  mem_ids_iff _ := mem_ids_ofDefinitions
  get?_eq_some_iff id d := by rw [get?_ofDefinitions, first?_eq_some_iff]
  get?_eq_none_iff id := by rw [get?_ofDefinitions, first?_eq_none_iff]
  create_eq_failure_iff id env e := by
    rw [create_eq_failure_iff, get?_ofDefinitions, first?_eq_none_iff]

/-- Definitions of which each identifier has the same first one make the same registry. -/
theorem ofDefinitions_congr (firsts : ∀ id, first? ds' id = first? ds id) :
    (ofDefinitions ds').1 = (ofDefinitions ds).1 := by
  refine (ascending_ofDefinitions ds).ext (ascending_ofDefinitions ds') fun id => ?_
  rw [get?_ofDefinitions, get?_ofDefinitions, firsts]

/-- Whatever definitions are given, the registry holds the first of each identifier, in ascending order.
Its own definitions make it again, and so do the given ones in any order that leaves those of one
identifier in theirs. -/
theorem registers_ofDefinitions (ds : List (Definition κ)) :
    Registers (ofDefinitions ds).1 ds ∧
      (ofDefinitions (ofDefinitions ds).1.definitions).1 = (ofDefinitions ds).1 ∧
      ∀ ds', Rearranged ds ds' → (ofDefinitions ds').1 = (ofDefinitions ds).1 := by
  refine ⟨registers_of_definitions ds, ?_, fun ds' rearranged => ?_⟩
  · exact ofDefinitions_congr fun id => get?_ofDefinitions ds id
  · refine ofDefinitions_congr fun id => ?_
    rw [first?_eq_head?, first?_eq_head?, rearranged.2]

/-- A definition of which only the identifier and the description matter. -/
def described (id description : String) : Definition Float where
  id
  description := some description
  make _ := .error .other

/-- Two definitions of one suite with another one between them or behind. -/
theorem registers_ofDefinitions_twice :
    Rearranged [described "b" "first", described "a" "only", described "b" "second"]
        [described "b" "first", described "b" "second", described "a" "only"] ∧
      (ofDefinitions [described "b" "first", described "b" "second", described "a" "only"]).1 =
        (ofDefinitions [described "b" "first", described "a" "only", described "b" "second"]).1 ∧
      (ofDefinitions [described "b" "first", described "a" "only",
        described "b" "second"]).1.definitions = [described "a" "only", described "b" "first"] := by
  have rearranged : Rearranged [described "b" "first", described "a" "only", described "b" "second"]
      [described "b" "first", described "b" "second", described "a" "only"] := by
    refine ⟨.cons _ (.swap _ _ _), fun id => ?_⟩
    by_cases a : "a" = id
    · subst a
      rfl
    · simp [List.filter_cons, described, a]
  exact ⟨rearranged, (registers_ofDefinitions _).2.2 _ rearranged, rfl⟩

end Microbench.Registry
