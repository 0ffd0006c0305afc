import Microbench.Proofs.Recording.Listening
import Microbench.Proofs.Recording.Records

/-!
# Recording is transparent

A recorded suite whose files do not fail it goes through the life that its hooks would go through with
a recorder in memory. The calls that reach it are the same, so are what they are shown and what comes
of them, the state it is left in and the summary; all that recording adds is on the disk and in the
journal.

* `run_inMemory`: the two runs end in the same way, in scenes that differ by what is overlooked.
* `recording_transparent`: that the same calls are made on the way.
-/

namespace Microbench

open Engine

variable {κ σ α ρ : Type}

/-- The scene of a suite beside something else. -/
def Scene.beside (s : Scene κ σ) (r : ρ) : Scene κ (σ × ρ) := { s with state := (s.state, r) }

/-- The scene of a suite that has listed some calls, beside something else. -/
def Scene.telling (t : Scene κ (σ × ρ)) (notices : List (Notice κ σ)) :
    Scene κ (Noticed κ σ × ρ) :=
  { t with state := ((t.state.1, notices), t.state.2) }

namespace Recording

variable {D : Disk → Disk → Prop} {inner : RecordedSuite κ σ}

theorem state_eq {s : Scene κ (State σ)} {t : Scene κ (σ × Ledger)}
    (alike : Alike (Overlooking D) (s.along Prod.fst) (t.along Prod.fst)) :
    t.state.1 = s.state.1 := alike.backdrop.state

variable [Arithmetic κ]

/-- As long as no file fails it, a run of a recorded suite ends as it would with a recorder in
memory. -/
theorem run_inMemory (same : ∀ d, D d d) (overlooks : inner.Overlooks D)
    (titled : ∀ s, ∃ title, inner.title s = .ok title)
    (headed : ∀ s, ∃ headers, inner.headers s = .ok headers) {clock : Clock} {window : Window κ}
    {s : Scene κ σ}
    (served : ∀ v ∈ calls (suite inner) clock window (s.beside {}), Served D inner v) :
    Alike (Parallel D) ((run (suite inner) clock window).run (s.beside {})).2
        ((run (inMemory inner) clock window).run (s.beside {})).2 ∧
      ((run (inMemory inner) clock window).run (s.beside {})).1 =
        ((run (suite inner) clock window).run (s.beside {})).1 := by
  let V (p : State σ) (q : σ × Ledger) : Prop := q.1 = p.1 ∧ q.2.view = p.2.view
  have opens : ∀ (s : Scene κ (State σ)) (t : Scene κ (σ × Ledger)) (window : Window κ),
      Alike (Companions D) s t →
        Alike (Companions D) (s.adjusted (opened window)) (t.adjusted (opened window)) :=
    fun _ _ window alike => alike.parted.opened window
  have level : ∀ (s : Scene κ (State σ)) (t : Scene κ (σ × Ledger)), Engine.Level V s t →
      Alike (Companions D) s t := by
    rintro ⟨⟨state, r⟩, context, world⟩ ⟨⟨state', l⟩, context', world'⟩ ⟨rfl, rfl, rfl, view⟩
    exact ⟨rfl, ⟨⟨rfl, rfl, rfl⟩, same _⟩, view⟩
  have named : ∀ (s : Scene κ (State σ)) (t : Scene κ (σ × Ledger)), Alike (Companions D) s t →
      t.context.suite = s.context.suite :=
    fun _ _ alike => congrArg (·.1) alike.backdrop.parallel.fixed
  exact run_paired (inStep_alike _) (inStep_alike _) opens level named
    (fun _ _ alike => ⟨alike.view, alike.backdrop.parallel⟩)
    (paired_inMemory overlooks titled headed) ⟨rfl, rfl, rfl, rfl⟩ served

/-- When a suite lists its calls as well, no more of its calls fail. -/
theorem served_noticed {clock : Clock} {window : Window κ} {s : Scene κ σ}
    (served : ∀ v ∈ calls (suite inner) clock window (s.beside {}), Served D inner v) :
    ∀ v ∈ calls (suite inner.noticed) clock window ((s.noticing []).beside {}),
      Served D inner.noticed v := by
  intro v made
  have listed := calls_along (paired_noticed inner) clock window ((s.noticing []).beside {})
  have start : s.beside ({} : Recorder) = ((s.noticing []).beside {}).along unlisted := rfl
  rw [start, listed] at served
  exact Served.noticed (served _ (List.mem_map_of_mem made))

/-- What is told of a run by a suite that lists its calls. -/
theorem run_telling {suite : Suite κ (σ × ρ)} {suite' : Suite κ (Noticed κ σ × ρ)}
    (lives : PairedLives (fun _ => True) (Along unlisted) (Along unlisted) suite' suite)
    (clock : Clock) (window : Window κ) (s : Scene κ σ) (r : ρ) :
    ∃ notices, (run suite' clock window).run ((s.noticing []).beside r) =
      (((run suite clock window).run (s.beside r)).1,
        ((run suite clock window).run (s.beside r)).2.telling notices) := by
  have start : s.beside r = ((s.noticing []).beside r).along unlisted := rfl
  rw [start, run_along lives]
  exact ⟨((run suite' clock window).run ((s.noticing []).beside r)).2.state.1.2, rfl⟩

/-- As long as no file fails it, a recorded suite goes through the same life as the plain suite that
has its hooks and a recorder in memory. Both runs end with the same summary or in the same stop; they
leave the suite in the same state, and in worlds that differ by what the suite overlooks of the disk;
and if the suite lists the calls that are made of it, it has listed the same ones. -/
theorem recording_transparent (inner : RecordedSuite κ σ) (clock : Clock) (window : Window κ)
    (s : Scene κ σ) {D : Disk → Disk → Prop} (same : ∀ d, D d d) (overlooks : inner.Overlooks D)
    (titled : ∀ s, ∃ title, inner.title s = .ok title)
    (headed : ∀ s, ∃ headers, inner.headers s = .ok headers)
    (served : ∀ v ∈ calls (suite inner) clock window (s.beside {}), Served D inner v) :
    let recorded := (run (suite inner) clock window).run (s.beside {})
    let plain := (run (inMemory inner) clock window).run (s.beside {})
    plain.1 = recorded.1 ∧
      Alike (Overlooking D) (recorded.2.along Prod.fst) (plain.2.along Prod.fst) ∧
      ∃ notices,
        (run (suite inner.noticed) clock window).run ((s.noticing []).beside {}) =
          (recorded.1, recorded.2.telling notices) ∧
        (run (inMemory inner.noticed) clock window).run ((s.noticing []).beside {}) =
          (plain.1, plain.2.telling notices) := by
  intro recorded plain
  obtain ⟨alike, ends⟩ := run_inMemory same overlooks titled headed served
  obtain ⟨alike', -⟩ := run_inMemory same overlooks.noticed (fun s => titled s.1)
    (fun s => headed s.1) (served_noticed served)
  obtain ⟨notices, left⟩ := run_telling (paired_noticed inner) clock window s {}
  obtain ⟨notices', right⟩ := run_telling (paired_noticed_inMemory inner) clock window s {}
  rw [left, right] at alike'
  obtain rfl : notices' = notices := congrArg Prod.snd alike'.backdrop.state
  exact ⟨ends, ⟨alike.view, alike.backdrop⟩, notices', left, right⟩

/-- An operation that counts a step and then ends in some way. -/
def step (name : String) (answer : Except Stop Unit) : Microbench.Operation Nat :=
  ⟨name, fun s => (answer, s.1 + 1, s.2)⟩

/-- A suite whose first operation returns and whose second one panics; its third group cannot be ended
once its row is written. -/
def stumbling : RecordedSuite Float Nat where
  headers _ := .ok ["Steps"]
  operations := pure [step "firm" (.ok ()),
    step "loose" (.error (.crash (.panic (.text "slipped")))), step "steep" (.ok ())]
  runEnds run := Recorded.row [run.name]
  groupEnds group := do
    Recorded.row [group]
    Recorded.ofCode (if group = "steep" then throw (.failure (.message "too steep")) else pure ())

/-- Where the suite starts. -/
def settingOut : Scene Float Nat where
  state := 0
  context := begun.context
  world := {}

theorem aloof_step (name : String) (answer : Except Stop Unit) :
    (CodeWith.ofWork (step name answer).call : Code Float Nat Unit).Aloof where
  blind := by
    intro s t alike
    have counted : t.state + 1 = s.state + 1 := congrArg (· + 1) alike.backdrop.state
    exact ⟨⟨alike.view, alike.backdrop.fixed, counted, alike.backdrop.world⟩, .of_eq rfl⟩
  leaves _ := .refl _

theorem aloof_stumbling : stumbling.Aloof where
  setUp := CodeWith.aloof_pure ()
  operations := ⟨fun _ _ alike => ⟨alike, .returned rfl⟩, fun _ => .refl _⟩
  calls := by
    rintro s os declared o mem
    cases declared
    rcases List.mem_cons.mp mem with rfl | mem
    · exact aloof_step _ _
    rcases List.mem_cons.mp mem with rfl | mem
    · exact aloof_step _ _
    · rw [List.mem_singleton.mp mem]
      exact aloof_step _ _
  determineRuns _ := CodeWith.aloof_pure _
  runStarts _ := CodeWith.aloof_pure ()
  repetitionStarts _ _ := CodeWith.aloof_pure ()
  runEnds run := Recorded.aloof_row [run.name]
  groupEnds group := by
    refine (Recorded.aloof_row [group]).bind fun _ _ s t alike => ?_
    by_cases steep : group = "steep"
    · rw [if_pos steep]
      exact .done (.refl alike)
    · rw [if_neg steep]
      exact .done (.refl alike)
  tearDown := CodeWith.aloof_pure ()

theorem recording_transparent_stumbling :
    let recorded := (run (suite stumbling) (fun _ => 0) .full).run (settingOut.beside {})
    let plain := (run (inMemory stumbling) (fun _ => 0) .full).run (settingOut.beside {})
    plain.1 = .ok { suite := "suite", completed := ["firm"], failed := ["loose", "steep"] } ∧
      plain.2.state.1 = 5 ∧
      ∃ notices, notices.length = 24 ∧
        (run (suite stumbling.noticed) (fun _ => 0) .full).run ((settingOut.noticing []).beside {}) =
          (recorded.1, recorded.2.telling notices) ∧
        (run (inMemory stumbling.noticed) (fun _ => 0) .full).run
          ((settingOut.noticing []).beside {}) = (plain.1, plain.2.telling notices) := by
  have served : ∀ v ∈ calls (suite stumbling) (fun _ => 0) .full (settingOut.beside {}),
      Served Disk.Whatever stumbling v := by decide +kernel
  have returned : ((run (suite stumbling) (fun _ => 0) .full).run (settingOut.beside {})).1 =
      .ok { suite := "suite", completed := ["firm"], failed := ["loose", "steep"] } := by
    decide +kernel
  have counted : ((run (suite stumbling) (fun _ => 0) .full).run
      (settingOut.beside {})).2.state.1 = 5 := by decide +kernel
  have many : ((run (inMemory stumbling.noticed) (fun _ => 0) .full).run
      ((settingOut.noticing []).beside {})).2.state.1.2.length = 24 := by decide +kernel
  obtain ⟨ends, alike, notices, recorded, plain⟩ := recording_transparent stumbling (fun _ => 0) .full
    settingOut (fun _ => trivial) aloof_stumbling.overlooks (fun _ => ⟨_, rfl⟩) (fun _ => ⟨_, rfl⟩)
    served
  rw [plain] at many
  exact ⟨ends.trans returned, (state_eq alike).trans counted, notices, many, recorded, plain⟩

end Recording

end Microbench
