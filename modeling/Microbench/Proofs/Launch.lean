import Microbench.Launch
import Microbench.Proofs.Engine.Calls

/-!
# Launches

What becomes of the suites of a launch, and whether it becomes known. A suite is contained if it can
be made and nothing that it does gets past the engine.

* `Launch.runFrom_returns_iff`: a launch returns exactly if every suite is contained in the world that
  the suites before it leave.
* `Launch.tells_of_runFrom`: a launch that returns has one result for each suite, in order, which is
  what comes of the suite in that world.
* `Launch.Tells.failed_iff`: a suite comes to an error exactly if it is not registered or cannot be
  prepared; whatever goes wrong with its groups is no error of the suite.
-/

namespace Microbench

variable {κ : Type} [Arithmetic κ]

namespace Bench

/-- Where a run of the suite starts. -/
def scene (b : Bench κ) (w : World) : Scene κ b.σ := ⟨b.state, b.context, w.noteAll b.notes⟩

/-- The calls that a run makes of the suite. -/
def calls (b : Bench κ) (clock : Clock) (window : Window κ) (w : World) : List (Visit κ b.σ) :=
  Engine.calls b.suite clock window (b.scene w)

/-- Why the suite cannot be prepared: its directory cannot be made, or it refuses to start, by an
error or a panic. The error names the suite as the context does then. -/
inductive Unready (b : Bench κ) (clock : Clock) (window : Window κ) (w : World) : BenchError → Prop
  | noDirectory {e : IoFailure} :
    ((Access.makeDirectories b.context.outputDirectory).run w.disk).1 = .error e →
    Unready b clock window w (.setUp b.context.suite (.io e))
  | refused {before after : Scene κ b.σ} {e : Stop} {c : Caught} :
    b.calls clock window w = [before.visit .setUp (.stopped e)] →
    b.suite.setUp.run before = (.error e, after) → e.caught? = some c →
    Unready b clock window w (.setUp after.context.suite c.error)

/-- A run without irregular calls fails exactly if the suite cannot be prepared. -/
theorem run_eq_failure_iff {b : Bench κ} {clock : Clock} {window : Window κ} {w : World}
    {e : BenchError} (regular : ∀ v ∈ b.calls clock window w, v.Regular) :
    ((Engine.run b.suite clock window).run (b.scene w)).1 = .error (.failure e) ↔
      b.Unready clock window w e := by
  have disk : (b.scene w).world.disk = w.disk := World.disk_noteAll _ _
  have protocol := (Engine.walk_calls b.suite clock window (b.scene w)).protocol regular
  generalize called : Engine.calls b.suite clock window (b.scene w) = log at protocol
  generalize ((Engine.run b.suite clock window).run (b.scene w)).1 = answer at protocol
  cases protocol with
  | noDirectory failed =>
    rw [disk] at failed
    constructor
    · intro same
      cases same
      exact .noDirectory failed
    · intro unready
      cases unready with
      | noDirectory failed' =>
        cases failed.symm.trans failed'
        rfl
      | refused called' _ _ => cases called.symm.trans called'
  | @refused before _ _ _ made stopped caught =>
    rw [disk] at made
    constructor
    · intro same
      cases same
      exact .refused called stopped caught
    · intro unready
      cases unready with
      | noDirectory failed => cases made.symm.trans failed
      | @refused before' _ _ _ called' stopped' caught' =>
        have same : before' = before :=
          Scene.eq_of_visit_eq (List.singleton_inj.mp (called'.symm.trans called))
        subst same
        cases stopped.symm.trans stopped'
        cases caught.symm.trans caught'
        rfl
  | finished made _ _ _ _ _ _ =>
    rw [disk] at made
    constructor
    · nofun
    · intro unready
      cases unready with
      | noDirectory failed => cases made.symm.trans failed
      | refused called' _ _ => cases called.symm.trans called'

end Bench

namespace Launch

variable {registry : Registry κ} {env : Environment} {clock : Clock} {clocks : Clocks}
  {suite : String} {window : Window κ} {w w' : World}

/-! ## One suite -/

/-- If the suite is registered it can be made, and nothing that it does gets past the engine. -/
def Contained (registry : Registry κ) (env : Environment) (clock : Clock) (suite : String)
    (window : Window κ) (w : World) : Prop :=
  ∀ d, registry.get? suite = some d →
    ∃ b, d.make env = .ok b ∧ ∀ v ∈ b.calls clock window w, v.Regular

/-- The errors that a suite can come to. -/
inductive Fatal (registry : Registry κ) (env : Environment) (clock : Clock) (suite : String)
    (window : Window κ) (w : World) : BenchError → Prop
  | unknown : registry.get? suite = none →
    Fatal registry env clock suite window w (.unknownSuite suite)
  | unready {d : Definition κ} {b : Bench κ} {e : BenchError} :
    registry.get? suite = some d → d.make env = .ok b → b.Unready clock window w e →
    Fatal registry env clock suite window w e

theorem runSuite_of_unknown (unknown : registry.get? suite = none) :
    runSuite registry env clock suite window w = (.error (.failure (.unknownSuite suite)), w) := by
  unfold runSuite Registry.create
  rw [unknown]

theorem runSuite_of_panic {d : Definition κ} {p : Payload} (known : registry.get? suite = some d)
    (panicked : d.make env = .error p) :
    runSuite registry env clock suite window w = (.error (.crash (.panic p)), w) := by
  unfold runSuite Registry.create
  simp only [known, panicked]

theorem fst_runSuite_of_made {d : Definition κ} {b : Bench κ} (known : registry.get? suite = some d)
    (made : d.make env = .ok b) :
    (runSuite registry env clock suite window w).1 =
      ((Engine.run b.suite clock window).run (b.scene w)).1 := by
  unfold runSuite Registry.create
  simp only [known, made]
  rfl

/-- A suite comes to an outcome exactly if it is contained. -/
theorem calm_runSuite_iff :
    Calm (runSuite registry env clock suite window w).1 ↔
      Contained registry env clock suite window w := by
  cases known : registry.get? suite with
  | none =>
    rw [runSuite_of_unknown known]
    refine ⟨fun _ d found => ?_, fun _ => nofun⟩
    rw [known] at found
    cases found
  | some d =>
    cases made : d.make env with
    | error p =>
      rw [runSuite_of_panic known made]
      refine ⟨fun calm => absurd rfl (calm _), fun contained => ?_⟩
      obtain ⟨b, ready, _⟩ := contained d known
      rw [made] at ready
      cases ready
    | ok b =>
      rw [fst_runSuite_of_made known made, ← Engine.calls_regular_iff]
      constructor
      · intro regular d' found
        cases known.symm.trans found
        exact ⟨b, made, regular⟩
      · intro contained
        obtain ⟨b', ready, regular⟩ := contained d known
        cases made.symm.trans ready
        exact regular

/-- A contained suite comes to an error exactly if it is unknown or cannot be prepared. -/
theorem runSuite_eq_failure_iff {e : BenchError}
    (contained : Contained registry env clock suite window w) :
    (runSuite registry env clock suite window w).1 = .error (.failure e) ↔
      Fatal registry env clock suite window w e := by
  cases known : registry.get? suite with
  | none =>
    rw [runSuite_of_unknown known]
    constructor
    · intro same
      cases same
      exact .unknown known
    · intro fatal
      cases fatal with
      | unknown _ => rfl
      | unready known' _ _ => cases known.symm.trans known'
  | some d =>
    obtain ⟨b, made, regular⟩ := contained d known
    rw [fst_runSuite_of_made known made, Bench.run_eq_failure_iff regular]
    constructor
    · exact .unready known made
    · intro fatal
      cases fatal with
      | unknown unknown => cases known.symm.trans unknown
      | unready known' made' unready =>
        cases known.symm.trans known'
        cases made.symm.trans made'
        exact unready

/-! ## Several suites -/

variable {place : Nat} {list : List (String × Window κ)} {results : List (LaunchResult κ)}

/-- What a run answers that came to an outcome. -/
def answered : Except BenchError Summary → Except Stop Summary
  | .ok s => .ok s
  | .error e => .error (.failure e)

theorem calm_answered (outcome : Except BenchError Summary) : Calm (answered outcome) := by
  cases outcome <;> nofun

theorem answered_or_crashed (answer : Except Stop Summary) :
    (∃ outcome, answer = answered outcome) ∨ ∃ c, answer = .error (.crash c) := by
  cases answer with
  | ok s => exact .inl ⟨.ok s, rfl⟩
  | error e =>
    cases e with
    | failure e => exact .inl ⟨.error e, rfl⟩
    | crash c => exact .inr ⟨c, rfl⟩

theorem exists_answered {answer : Except Stop Summary} (calm : Calm answer) :
    ∃ outcome, answer = answered outcome := by
  rcases answered_or_crashed answer with outcome | ⟨c, crashed⟩
  · exact outcome
  · exact absurd crashed (calm c)

/-- A suite that comes to an outcome adds a result, whatever the outcome is. -/
theorem runFrom_of_answered {outcome : Except BenchError Summary}
    (ran : runSuite registry env (clocks place) suite window w = (answered outcome, w')) :
    runFrom registry env clocks place ((suite, window) :: list) w =
      ((runFrom registry env clocks (place + 1) list
          (w'.note (outcomeNote suite outcome))).1.map (⟨suite, window, outcome⟩ :: ·),
        (runFrom registry env clocks (place + 1) list (w'.note (outcomeNote suite outcome))).2) := by
  rw [runFrom, ran]
  cases outcome <;> rfl

/-- A suite that crashes ends the launch. -/
theorem runFrom_of_crash {c : Crash}
    (ran : runSuite registry env (clocks place) suite window w = (.error (.crash c), w')) :
    runFrom registry env clocks place ((suite, window) :: list) w = (.error c, w') := by
  rw [runFrom, ran]

/-- The world when a launch has come to the suite at a place of its list. -/
def worldAt (registry : Registry κ) (env : Environment) (clocks : Clocks) (place : Nat)
    (list : List (String × Window κ)) (w : World) (i : Nat) : World :=
  (runFrom registry env clocks place (list.take i) w).2

theorem worldAt_succ {outcome : Except BenchError Summary}
    (ran : runSuite registry env (clocks place) suite window w = (answered outcome, w')) (i : Nat) :
    worldAt registry env clocks place ((suite, window) :: list) w (i + 1) =
      worldAt registry env clocks (place + 1) list (w'.note (outcomeNote suite outcome)) i := by
  unfold worldAt
  rw [List.take_succ_cons, runFrom_of_answered ran]

/-- All suites of a list are contained, each in the world that those before it leave. -/
def AllContained (registry : Registry κ) (env : Environment) (clocks : Clocks) (place : Nat)
    (list : List (String × Window κ)) (w : World) : Prop :=
  ∀ i (h : i < list.length), Contained registry env (clocks (place + i)) list[i].1 list[i].2
    (worldAt registry env clocks place list w i)

theorem allContained_nil : AllContained registry env clocks place [] w := nofun

theorem allContained_cons {outcome : Except BenchError Summary}
    (ran : runSuite registry env (clocks place) suite window w = (answered outcome, w')) :
    AllContained registry env clocks place ((suite, window) :: list) w ↔
      AllContained registry env clocks (place + 1) list (w'.note (outcomeNote suite outcome)) := by
  have first : Contained registry env (clocks place) suite window w := by
    rw [← calm_runSuite_iff, ran]
    exact calm_answered outcome
  unfold AllContained
  constructor
  · intro all i h
    have later := all (i + 1) (Nat.succ_lt_succ h)
    rw [worldAt_succ ran] at later
    rw [Nat.add_right_comm]
    exact later
  · intro all i h
    cases i with
    | zero => exact first
    | succ i =>
      rw [worldAt_succ ran, ← Nat.add_assoc, Nat.add_right_comm]
      exact all i (Nat.lt_of_succ_lt_succ h)

/-- A launch returns exactly if every suite is contained in the world that those before it leave. -/
theorem runFrom_returns_iff :
    (∃ results, (runFrom registry env clocks place list w).1 = .ok results) ↔
      AllContained registry env clocks place list w := by
  induction list generalizing place w with
  | nil => exact ⟨fun _ => allContained_nil, fun _ => ⟨[], rfl⟩⟩
  | cons head rest ih =>
    rcases head with ⟨suite, window⟩
    rcases ran : runSuite registry env (clocks place) suite window w with ⟨answer, w'⟩
    rcases answered_or_crashed answer with ⟨outcome, rfl⟩ | ⟨c, rfl⟩
    · rw [allContained_cons ran, ← ih, runFrom_of_answered ran]
      generalize (runFrom registry env clocks (place + 1) rest
        (w'.note (outcomeNote suite outcome))).1 = others
      cases others with
      | ok results => exact ⟨fun _ => ⟨results, rfl⟩, fun _ => ⟨_, rfl⟩⟩
      | error c => exact ⟨nofun, nofun⟩
    · rw [runFrom_of_crash ran]
      refine ⟨nofun, fun all => ?_⟩
      have calm := calm_runSuite_iff.mpr (all 0 (Nat.succ_pos _))
      exact absurd (congrArg Prod.fst ran) (calm c)

/-- A result is what came of a suite in a window from a world. -/
structure Tells (registry : Registry κ) (env : Environment) (clock : Clock) (suite : String)
    (window : Window κ) (w : World) (r : LaunchResult κ) : Prop where
  suite_eq : r.suite = suite
  window_eq : r.window = window
  ran : (runSuite registry env clock suite window w).1 = answered r.outcome

/-- The suite came to an error exactly if it is unknown or cannot be prepared. -/
theorem Tells.failed_iff {r : LaunchResult κ} (tells : Tells registry env clock suite window w r)
    {e : BenchError} : r.outcome = .error e ↔ Fatal registry env clock suite window w e := by
  have contained : Contained registry env clock suite window w := by
    rw [← calm_runSuite_iff, tells.ran]
    exact calm_answered _
  rw [← runSuite_eq_failure_iff contained, tells.ran]
  cases r.outcome with
  | ok s => exact ⟨nofun, nofun⟩
  | error e' => exact ⟨fun same => by cases same; rfl, fun same => by cases same; rfl⟩

/-- A launch that returns has a result for each suite, in order. -/
theorem tells_of_runFrom (returned : (runFrom registry env clocks place list w).1 = .ok results) :
    results.length = list.length ∧
      ∀ i (h : i < list.length) (h' : i < results.length),
        Tells registry env (clocks (place + i)) list[i].1 list[i].2
          (worldAt registry env clocks place list w i) results[i] := by
  induction list generalizing place w results with
  | nil =>
    cases returned
    exact ⟨rfl, nofun⟩
  | cons head rest ih =>
    rcases head with ⟨suite, window⟩
    have contained := (runFrom_returns_iff.mp ⟨results, returned⟩) 0 (Nat.succ_pos _)
    obtain ⟨outcome, answer⟩ := exists_answered (calm_runSuite_iff.mpr contained)
    have ran : runSuite registry env (clocks place) suite window w =
        (answered outcome, (runSuite registry env (clocks place) suite window w).2) :=
      Prod.ext answer rfl
    rw [runFrom_of_answered ran] at returned
    cases others : (runFrom registry env clocks (place + 1) rest
        ((runSuite registry env (clocks place) suite window w).2.note
          (outcomeNote suite outcome))).1 with
    | error c =>
      rw [others] at returned
      cases returned
    | ok results' =>
      rw [others] at returned
      cases returned
      obtain ⟨length, tells⟩ := ih others
      refine ⟨congrArg Nat.succ length, fun i h h' => ?_⟩
      cases i with
      | zero => exact ⟨rfl, rfl, answer⟩
      | succ i =>
        rw [worldAt_succ ran, ← Nat.add_assoc, Nat.add_right_comm]
        exact tells i (Nat.lt_of_succ_lt_succ h) (Nat.lt_of_succ_lt_succ h')

end Launch

end Microbench
