import Microbench.Proofs.Worker.Assignment

/-!
# Arguments of a worker

The arguments of an assignment are read back as the assignment if its window is one of finite numbers
and it names a suite, and for no other. Whatever arguments are read are an assignment of that kind, so
nothing is lost when it is written again.

* `ofArguments_eq_ok_iff`: which arguments are read, and as what.
* `arguments_read_back`: the way there and back, from either end, and what is said of arguments that
  are too few.
-/

namespace Microbench.Assignment

open Binary64

variable {a : Assignment} {arguments suites : List String} {directory start size text what : String}
  {x : Float}

/-! ## Numbers -/

/-- A text that is read as a finite number. -/
def IsPercent (text : String) : Prop := ∃ x, Decimal.readFloat text = some x ∧ isFinite x = true

theorem readPercent_eq_ok_iff :
    readPercent what text = .ok x ↔ Decimal.readFloat text = some x ∧ isFinite x = true := by
  unfold readPercent
  cases read : Decimal.readFloat text with
  | none => simp
  | some y =>
    cases finite : isFinite y with
    | false =>
      simp only [finite, Bool.false_eq_true, if_false, reduceCtorEq, Option.some.injEq, false_iff]
      rintro ⟨rfl, finite'⟩
      rw [finite] at finite'
      cases finite'
    | true =>
      simp only [finite, if_true, Except.ok.injEq, Option.some.injEq]
      constructor
      · rintro rfl
        exact ⟨rfl, finite⟩
      · exact fun same => same.1

theorem exists_readPercent (number : IsPercent text) (what : String) :
    ∃ x, readPercent what text = .ok x := by
  obtain ⟨x, read, finite⟩ := number
  exact ⟨x, readPercent_eq_ok_iff.mpr ⟨read, finite⟩⟩

theorem readPercent_of_not (none : ¬ IsPercent text) (what : String) :
    readPercent what text = .error (.invalidNumber what text) := by
  unfold readPercent
  cases read : Decimal.readFloat text with
  | none => rfl
  | some y =>
    have infinite : isFinite y ≠ true := fun finite => none ⟨y, read, finite⟩
    simp only [infinite]
    rfl

theorem exists_of_isFinite (finite : isFinite x = true) :
    ∃ negative m e, decode x = .finite negative m e := by
  unfold isFinite at finite
  cases decoded : decode x with
  | finite negative m e => exact ⟨negative, m, e, rfl⟩
  | infinite negative => rw [decoded] at finite; cases finite
  | nan => rw [decoded] at finite; cases finite

theorem readPercent_plain_of_isFinite (finite : isFinite x = true) (what : String) :
    readPercent what (Decimal.plain x) = .ok x := by
  obtain ⟨negative, m, e, decoded⟩ := exists_of_isFinite finite
  exact readPercent_plain decoded what

/-- The words for what is no finite number are no finite numbers either. -/
theorem not_isPercent_plain (infinite : isFinite x ≠ true) : ¬ IsPercent (Decimal.plain x) := by
  have words : ∀ word ∈ ["NaN", "inf", "-inf"], ¬ IsPercent word := by
    have read : ∀ word ∈ ["NaN", "inf", "-inf"],
        (Decimal.readFloat word).any (fun y => isFinite y) = false := by decide +kernel
    rintro word mem ⟨y, same, finite⟩
    have none := read word mem
    rw [same, Option.any_some, finite] at none
    cases none
  unfold isFinite at infinite
  unfold Decimal.plain Decimal.Layout.write
  cases decoded : decode x with
  | finite negative m e =>
    rw [decoded] at infinite
    exact absurd rfl infinite
  | nan => exact words _ (by decide)
  | infinite negative => cases negative <;> exact words _ (by decide)

/-! ## Arguments -/

/-- What stands at the first places. -/
def places : List String :=
  ["output directory", "progress start", "progress window", "suite identifier"]

theorem ofArguments_cons : ofArguments (directory :: start :: size :: suites) = do
    let start ← readPercent "progress start" start
    let size ← readPercent "progress window" size
    if suites.isEmpty then throw (.missing "suite identifier")
    return { outputDirectory := directory, window := ⟨start, size⟩, suites } := rfl

theorem ofArguments_of_start (none : ¬ IsPercent start) :
    ofArguments (directory :: start :: size :: suites) =
      .error (.invalidNumber "progress start" start) := by
  rw [ofArguments_cons, readPercent_of_not none]
  rfl

theorem ofArguments_of_size (number : IsPercent start) (none : ¬ IsPercent size) :
    ofArguments (directory :: start :: size :: suites) =
      .error (.invalidNumber "progress window" size) := by
  obtain ⟨x, read⟩ := exists_readPercent number "progress start"
  rw [ofArguments_cons, read, readPercent_of_not none]
  rfl

/-- Arguments are too few as long as nothing else is wrong with them. -/
theorem ofArguments_of_few (few : arguments.length < 4)
    (numbers : ∀ text ∈ (arguments.drop 1).take 2, IsPercent text) :
    ∃ what, places[arguments.length]? = some what ∧ ofArguments arguments = .error (.missing what) := by
  rcases arguments with _ | ⟨directory, _ | ⟨start, _ | ⟨size, _ | ⟨suite, rest⟩⟩⟩⟩
  · exact ⟨_, rfl, rfl⟩
  · exact ⟨_, rfl, rfl⟩
  · obtain ⟨x, read⟩ := exists_readPercent (numbers start (by simp)) "progress start"
    refine ⟨_, rfl, ?_⟩
    unfold ofArguments
    simp only [take, bind, Except.bind, read]
  · obtain ⟨x, read⟩ := exists_readPercent (numbers start (by simp)) "progress start"
    obtain ⟨y, read'⟩ := exists_readPercent (numbers size (by simp)) "progress window"
    refine ⟨_, rfl, ?_⟩
    rw [ofArguments_cons, read, read']
    rfl
  · simp only [List.length_cons] at few
    omega

/-- Arguments are read as an assignment if they are its directory, texts of its numbers, and its
suites, one at least. -/
theorem ofArguments_eq_ok_iff : ofArguments arguments = .ok a ↔ ∃ start size,
    arguments = a.outputDirectory :: start :: size :: a.suites ∧ a.suites ≠ [] ∧
      readPercent "progress start" start = .ok a.window.start ∧
      readPercent "progress window" size = .ok a.window.size := by
  constructor
  · intro read
    rcases arguments with _ | ⟨directory, _ | ⟨start, _ | ⟨size, suites⟩⟩⟩
    · cases read
    · cases read
    · unfold ofArguments at read
      simp only [take, bind, Except.bind] at read
      split at read <;> cases read
    · rw [ofArguments_cons] at read
      cases first : readPercent "progress start" start with
      | error e => rw [first] at read; cases read
      | ok x =>
        cases second : readPercent "progress window" size with
        | error e => rw [first, second] at read; cases read
        | ok y =>
          rw [first, second] at read
          cases suites with
          | nil => cases read
          | cons suite rest =>
            cases read
            exact ⟨start, size, rfl, List.cons_ne_nil _ _, first, second⟩
  · rintro ⟨start, size, rfl, some, first, second⟩
    have named : a.suites.isEmpty = false := by simpa using some
    rw [ofArguments_cons, first, second]
    simp only [bind, Except.bind, named]
    rfl

/-! ## There and back -/

/-- What the arguments of an assignment are read as: the assignment, or what is wrong with the first of
its numbers that is not finite, or that it has no suite. -/
structure ReadBack (a : Assignment) (answer : Except AssignmentError Assignment) : Prop where
  ok_iff : answer = .ok a ↔
    isFinite a.window.start = true ∧ isFinite a.window.size = true ∧ a.suites ≠ []
  start : isFinite a.window.start ≠ true →
    answer = .error (.invalidNumber "progress start" (Decimal.plain a.window.start))
  size : isFinite a.window.start = true → isFinite a.window.size ≠ true →
    answer = .error (.invalidNumber "progress window" (Decimal.plain a.window.size))
  suites : isFinite a.window.start = true → isFinite a.window.size = true → a.suites = [] →
    answer = .error (.missing "suite identifier")

theorem ofArguments_toArguments_of_isFinite (start : isFinite a.window.start = true)
    (size : isFinite a.window.size = true) (some : a.suites ≠ []) :
    ofArguments a.toArguments = .ok a :=
  ofArguments_eq_ok_iff.mpr ⟨_, _, rfl, some, readPercent_plain_of_isFinite start _,
    readPercent_plain_of_isFinite size _⟩

theorem isFinite_of_ofArguments (read : ofArguments arguments = .ok a) :
    isFinite a.window.start = true ∧ isFinite a.window.size = true ∧ a.suites ≠ [] := by
  obtain ⟨_, _, _, some, first, second⟩ := ofArguments_eq_ok_iff.mp read
  exact ⟨(readPercent_eq_ok_iff.mp first).2, (readPercent_eq_ok_iff.mp second).2, some⟩

theorem readBack_toArguments (a : Assignment) : ReadBack a (ofArguments a.toArguments) where
  ok_iff :=
    ⟨isFinite_of_ofArguments, fun ⟨start, size, named⟩ =>
      ofArguments_toArguments_of_isFinite start size named⟩
  start infinite := ofArguments_of_start (not_isPercent_plain infinite)
  size finite infinite := by
    have number : IsPercent (Decimal.plain a.window.start) :=
      ⟨_, readPercent_eq_ok_iff.mp (readPercent_plain_of_isFinite finite "")⟩
    exact ofArguments_of_size number (not_isPercent_plain infinite)
  suites start size none := by
    unfold toArguments
    rw [ofArguments_cons, readPercent_plain_of_isFinite start, readPercent_plain_of_isFinite size, none]
    rfl

/-- The arguments of every assignment are read back as it, or refused for the first thing that is wrong
with it. Whatever is read from arguments is read again from its own, and its suites are all arguments
behind the third. Of too few arguments the one that is missing is named. -/
theorem arguments_read_back :
    (∀ a, ReadBack a (ofArguments a.toArguments)) ∧
      (∀ arguments a, ofArguments arguments = .ok a →
        ofArguments a.toArguments = .ok a ∧ a.suites = arguments.drop 3) ∧
      ∀ arguments : List String, arguments.length < 4 →
        (∀ text ∈ (arguments.drop 1).take 2, IsPercent text) →
        ∃ what, places[arguments.length]? = some what ∧
          ofArguments arguments = .error (.missing what) := by
  refine ⟨readBack_toArguments, fun arguments a read => ?_, fun _ => ofArguments_of_few⟩
  obtain ⟨start, size, some⟩ := isFinite_of_ofArguments read
  obtain ⟨_, _, rfl, _⟩ := ofArguments_eq_ok_iff.mp read
  exact ⟨ofArguments_toArguments_of_isFinite start size some, rfl⟩

/-- A third of the progress for two suites, an endless window, and arguments that end with a number. -/
theorem arguments_read_back_thirds :
    ofArguments ["out", "1e1", "33.333333333333336", "b", "a"] =
        .ok ⟨"out", ⟨10, 100 / 3⟩, ["b", "a"]⟩ ∧
      ofArguments (toArguments ⟨"out", ⟨10, 100 / 3⟩, ["b", "a"]⟩) =
        .ok ⟨"out", ⟨10, 100 / 3⟩, ["b", "a"]⟩ ∧
      ofArguments (toArguments ⟨"out", ⟨10, 100 / 0⟩, ["b", "a"]⟩) =
        .error (.invalidNumber "progress window" "inf") ∧
      ofArguments ["out", "+.5"] = .error (.missing "progress window") := by
  have read : ofArguments ["out", "1e1", "33.333333333333336", "b", "a"] =
      .ok ⟨"out", ⟨10, 100 / 3⟩, ["b", "a"]⟩ := by
    refine ofArguments_eq_ok_iff.mpr ⟨"1e1", "33.333333333333336", rfl, List.cons_ne_nil _ _, ?_, ?_⟩ <;>
      exact readPercent_eq_ok_iff.mpr (by decide +kernel)
  have endless : ReadBack ⟨"out", ⟨10, 100 / 0⟩, ["b", "a"]⟩ _ := arguments_read_back.1 _
  have written : Decimal.plain (100 / 0) = "inf" := by decide +kernel
  have half : IsPercent "+.5" := ⟨1 / 2, by decide +kernel⟩
  obtain ⟨_, place, refused⟩ := arguments_read_back.2.2 ["out", "+.5"] (by decide)
    (List.forall_mem_singleton.mpr half)
  cases place
  refine ⟨read, (arguments_read_back.2.1 _ _ read).1, ?_, refused⟩
  rw [← written]
  exact endless.size (by decide +kernel) (by decide +kernel)

end Microbench.Assignment
