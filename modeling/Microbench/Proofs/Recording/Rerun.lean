import Microbench.Proofs.Recording.Overlay

/-!
# Running again where there are files

A recorded suite that runs again where it ran before begins the record file of each group anew, but
takes no file away. So the folder holds what it would hold after the same run in an empty one, laid
over what was there: a group that failed before and completes now keeps its old report.

* `rerun_lays_over`: this is so whatever files were there, and however the groups fared.
-/

namespace Microbench.Recording

open CodeWith Scene Engine

variable {ε κ σ α : Type}

/-! ## Listed calls -/

/-- A watched execution over an empty folder beside one over files of before. The reports that were
filed are those of the failures that were told of. -/
def Listed (g : Ground) (b : Backdrop (Watched κ (State σ))) (b' : Backdrop (State σ)) : Prop :=
  Home g (Reported b.state.2) ⟨b.fixed, b.state.1, b.world⟩ b'

section Calls

variable {inner : RecordedSuite κ σ} {g : Ground} {reported reported' : String → Prop}

theorem Laid.of_iff {b b' : Backdrop (State σ)} (laid : Laid g reported b b')
    (same : ∀ group, reported group ↔ reported' group) : Laid g reported' b b' := by
  have sets : reported = reported' := funext fun group => propext (same group)
  exact sets ▸ laid

theorem agree_of_mirrors {x : CodeWith ε κ (State σ) α} (h : Mirrors (Laid g reported) x x) :
    Agree (Alike (Home g reported)) (Alike (Laid g reported)) Eq x x :=
  fun s t home => h s t (laid_of_home home)

/-- A hook that files the reports that its call tells of. -/
theorem agree_listed {x : CodeWith ε κ (State σ) α} {call : Call} (stop : ε → Stop)
    (value : α → Answer) (keeps : x.KeepsContext)
    (h : ∀ reported, Agree (Alike (Home g reported))
      (Alike (Laid g fun group => reported group ∨ call.Reports group)) Eq x x) :
    Agree (Alike (Listed g)) (Alike (Listed g)) Eq (x.watched call stop value) x := by
  intro s t alike
  have home : Alike (Home g (Reported s.state.2)) s.unwatched t := ⟨alike.view, alike.backdrop⟩
  obtain ⟨reached, ends⟩ := h _ _ _ home
  have visited : ∀ group, Reported s.state.2 group ∨ call.Reports group ↔
      Reported (s.state.2 ++ [s.unwatched.visit call (.of stop value (x.run s.unwatched).1)]) group := by
    intro group
    rw [reported_append, reported_singleton]
    rfl
  have stays : (x.run s.unwatched).2.context.outputDirectory = Path.join g.root g.id :=
    (Still.kept keeps rfl).directory.trans home.backdrop.directory
  exact ⟨⟨reached.view, ⟨reached.backdrop.of_iff visited, stays⟩⟩, ends⟩

/-- A call that tells of no failure. -/
theorem agree_silent {x : CodeWith ε κ (State σ) α} {call : Call} (stop : ε → Stop)
    (value : α → Answer) (silent : ∀ group, ¬ call.Reports group) (keeps : x.KeepsContext)
    (h : ∀ reported, Agree (Alike (Home g reported)) (Alike (Laid g reported)) Eq x x) :
    Agree (Alike (Listed g)) (Alike (Listed g)) Eq (x.watched call stop value) x := by
  refine agree_listed stop value keeps fun reported => (h reported).mono ?_ fun _ _ same => same
  intro s t laid
  exact ⟨laid.view, laid.backdrop.of_iff fun group => (or_iff_left (silent group)).symm⟩

theorem mirrors_silent {x : CodeWith ε κ (State σ) α} {call : Call} (stop : ε → Stop)
    (value : α → Answer) (silent : ∀ group, ¬ call.Reports group) (keeps : x.KeepsContext)
    (h : ∀ reported, Mirrors (Laid g reported) x x) :
    Agree (Alike (Listed g)) (Alike (Listed g)) Eq (x.watched call stop value) x :=
  agree_silent stop value silent keeps fun reported => agree_of_mirrors (h reported)

/-- The hooks of a recorded suite cannot tell whether there are files of before. -/
theorem twins_suite (aloof : inner.Aloof) (keeps : (suite inner).KeepsContext) :
    Twins (Listed g) (Nameable g.root g.id) (fun _ => True) (suite inner).watched (suite inner) where
  groupStarts group nameable := by
    refine (agree_silent _ _ (fun _ => id) (keeps.groupStarts group) fun reported => ?_).mono
      (fun _ _ alike => alike) fun _ _ same => ⟨same.symm, fun _ _ => trivial⟩
    exact .andThen (agree_openGroup nameable.record) fun _ => mirrors_within (aloof.determineRuns group)
  runStarts run _ :=
    mirrors_silent _ _ (fun _ => id) (keeps.runStarts run) fun _ =>
      mirrors_within (aloof.runStarts run)
  repetitionStarts run repetition _ :=
    mirrors_silent _ _ (fun _ => id) (keeps.repetitionStarts run repetition) fun _ =>
      mirrors_within (aloof.repetitionStarts run repetition)
  runEnds run statistics _ :=
    mirrors_silent _ _ (fun _ => id) (keeps.runEnds _) fun _ => mirrors_dictated (aloof.runEnds _)
  groupEnds group _ :=
    mirrors_silent _ _ (fun _ => id) (keeps.groupEnds group) fun _ =>
      mirrors_closeGroup (aloof.groupEnds group)
  groupFailed group e nameable :=
    agree_listed _ _ (keeps.groupFailed group e) fun _ => agree_keepReport nameable.report e

/-- Calls of operations are listed as well. -/
theorem twins_operation {o : Microbench.Operation σ}
    (aloof : (ofWork o.call : Code κ σ Unit).Aloof) (place : Nat) :
    Operation.Twins κ (Listed g) ((operation o).watched (κ := κ) place) (operation o) where
  name := rfl
  call := by
    intro s t alike
    have home : Alike (Home g (Reported s.state.2)) s.unwatched t := ⟨alike.view, alike.backdrop⟩
    obtain ⟨reached, ends⟩ := agree_of_mirrors (mirrors_within aloof) _ _ home
    let answer := ((within (ofWork o.call : Code κ σ Unit)).run s.unwatched).1
    have invoked : ∀ group, Reported s.state.2 group ↔ Reported (s.state.2 ++
        [s.unwatched.invocation (.operation place) (.of id (fun _ => .returned) answer)]) group :=
      fun _ => (reported_concat_of_silent id).symm
    exact ⟨⟨reached.view, ⟨reached.backdrop.of_iff invoked, home.backdrop.directory⟩⟩, ends⟩

end Calls

/-! ## The life of a suite -/

/-- The scene on another disk. -/
def onDisk (s : Scene κ σ) (d : Disk) : Scene κ σ := { s with world := { s.world with disk := d } }

/-- The rest of setting a suite up once its folder is there. -/
def prepare (suite : Suite κ σ) : Code κ σ Unit := do
  match ← Code.contain suite.setUp with
  | .error e => throw (.failure (.setUp (← context).suite e.error))
  | .ok () => pure ()

theorem run_setUp_of_made {suite : Suite κ σ} {s : Scene κ σ} {w : World}
    (made : s.world.access (Access.makeDirectories s.context.outputDirectory) = (.ok (), w)) :
    (setUp suite).run s = (prepare suite).run { s with world := w } := by
  unfold setUp
  rw [run_bind_of_ok run_context]
  exact run_bind_of_ok (Code.run_access made)

/-- Where two executions start: one where the folder is to be made, the other where it holds files of
before. -/
inductive Outset (g : Ground) : Scene κ (Watched κ (State σ)) → Scene κ (State σ) → Prop
  | intro {s : Scene κ (State σ)} {before : Disk} :
    s.world.disk = g.start → s.context.outputDirectory = Path.join g.root g.id → s.state.2 = {} →
    Folder.Holds g.start g.place g.id g.old before → Outset g (s.watching []) (onDisk s before)

section Life

variable {inner : RecordedSuite κ σ} {g : Ground}

/-- The folder is made or is there already; then the suite prepares itself. -/
theorem agree_setUp (aloof : inner.setUp.Aloof) (keeps : (suite inner).KeepsContext) :
    Agree (Outset g) (Alike (Listed g)) Eq (setUp (suite inner).watched : Code κ _ Unit)
      (setUp (suite inner)) := by
  rintro _ _ @⟨s, before, start, directory, closed, holds⟩
  have first : (s.watching []).world.access (Access.makeDirectories s.context.outputDirectory) =
      (.ok (), { s.world with disk := Folder.made g.start g.place g.id }) := by
    unfold World.access
    rw [directory, show (s.watching []).world.disk = g.start from start,
      g.folder.run_makeDirectories]
    rfl
  have second : (onDisk s before).world.access (Access.makeDirectories s.context.outputDirectory) =
      (.ok (), { s.world with disk := before.counted }) := by
    unfold World.access
    rw [directory, show (onDisk s before).world.disk = before from rfl,
      g.folder.run_makeDirectories_again holds]
    rfl
  have layers : Layers g (Reported ([] : List (Visit κ (State σ)))) (fun _ => none)
      (Folder.made g.start g.place g.id) before.counted s.state.2 :=
    { first := g.folder.holds_made
      second := holds.counted
      pointed := closed ▸ .closed
      reports := fun _ => iff_of_false (fun there => there rfl) not_reported_nil }
  rw [run_setUp_of_made (s := s.watching []) first, run_setUp_of_made (s := onDisk s before) second]
  have prepared : Mirrors (Listed g) (suite inner).watched.setUp (suite inner).setUp :=
    mirrors_silent _ _ (fun _ => id) keeps.setUp fun _ => mirrors_within aloof
  refine prepared.contain.bind (fun a b ends => ?_) _ _
    ⟨rfl, ⟨⟨⟨rfl, rfl, rfl⟩, _, layers⟩, directory⟩⟩
  cases ends with
  | returned _ => exact .pure rfl
  | stopped =>
    intro s t alike
    have named : t.context.suite = s.context.suite := congrArg (·.1) alike.backdrop.beside.fixed
    rw [run_bind_of_ok run_context, run_bind_of_ok run_context, named]
    exact ⟨alike, .stopped⟩

/-- The declared operations, watched and not, are those of the suite beside its recorder. -/
theorem agree_operations (aloof : inner.Aloof) :
    Agree (Alike (Listed g)) (Alike (Listed g))
      (fun os os' => os = os'.mapIdx (Operation.watched (κ := κ)) ∧ ∃ s os₀,
        (inner.operations.run s).1 = .ok os₀ ∧ os' = os₀.map operation)
      (ofWork (suite inner).watched.operations : CodeWith Crash κ _ _)
      (ofWork (suite inner).operations) := by
  intro s t alike
  have home : Alike (Home g (Reported s.state.2)) s.unwatched t := ⟨alike.view, alike.backdrop⟩
  obtain ⟨reached, ends⟩ := agree_of_mirrors (mirrors_within aloof.operations) _ _ home
  have step : ∀ s : Scene κ (State σ), (ofWork (suite inner).operations : CodeWith Crash κ _ _).run s =
    ((inner.operations.run (s.state.1, s.world)).1.map (·.map operation),
      ((within (ofWork inner.operations : CodeWith Crash κ σ _)).run s).2) := fun _ => rfl
  have watched : (ofWork (suite inner).watched.operations : CodeWith Crash κ _ _).run s = _ :=
    run_watched_operations (suite inner) (step s.unwatched) s.state.2
  have listed : ∀ answer group, Reported s.state.2 group ↔
      Reported (s.state.2 ++ [s.unwatched.invocation .operations answer]) group :=
    fun _ _ => (reported_concat_of_silent id).symm
  rw [watched, step t]
  refine ⟨⟨reached.view, ⟨reached.backdrop.of_iff (listed _), home.backdrop.directory⟩⟩, ?_⟩
  have same : Concur Eq (inner.operations.run (s.unwatched.state.1, s.unwatched.world)).1
    (inner.operations.run (t.state.1, t.world)).1 := ends
  generalize declared : (inner.operations.run (s.unwatched.state.1, s.unwatched.world)).1 = a at same
  generalize (inner.operations.run (t.state.1, t.world)).1 = b at same
  cases same with
  | returned equal =>
    subst equal
    exact .returned ⟨rfl, _, _, declared, rfl⟩
  | stopped => exact .stopped

theorem twins_operations {os : List (Microbench.Operation σ)}
    (aloof : ∀ o ∈ os, (ofWork o.call : Code κ σ Unit).Aloof) (place : Nat → Nat) :
    List.Forall₂ (Operation.Twins κ (Listed g))
      ((os.map operation).mapIdx fun i => Operation.watched (κ := κ) (place i))
      (os.map operation) := by
  induction os generalizing place with
  | nil => exact .nil
  | cons o os ih =>
    rw [List.map_cons, List.mapIdx_cons]
    exact .cons (twins_operation (aloof o List.mem_cons_self) _)
      (ih (fun o mem => aloof o (List.mem_cons_of_mem _ mem)) fun i => place (i + 1))

variable [Arithmetic κ]

/-- Nothing in the life of a recorded suite depends on the files of before. -/
theorem agree_run (aloof : inner.Aloof) (keeps : (suite inner).KeepsContext) (clock : Clock)
    (nameable : ∀ s os, (inner.operations.run s).1 = .ok os → ∀ o ∈ os,
      Nameable g.root g.id o.name) (window : Window κ) :
    Agree (Outset g) (Alike (Listed g)) Eq (run (suite inner).watched clock window)
      (run (suite inner) clock window) := by
  rintro _ _ @⟨s, before, start, directory, closed, holds⟩
  rw [run_eq_begun, run_eq_begun]
  refine Agree.bind (agree_setUp aloof.setUp keeps) (fun _ _ _ => ?_)
    ((Engine.begun window s).watching []) (onDisk (Engine.begun window s) before)
    ⟨start, directory, closed, holds⟩
  refine .bind (.ofCrashing (agree_operations aloof)) ?_
  rintro _ _ ⟨rfl, s₀, os, declared, rfl⟩
  have lengths : ((os.map operation).mapIdx (Operation.watched (κ := κ))).length =
      (os.map operation).length := List.length_mapIdx
  have twin := forall₂_zip (twins_operations (g := g) (aloof.calls _ _ declared) id)
    (window.split (os.map operation).length)
  unfold scheduled onwards
  rw [lengths]
  refine .bind (agree_groups_between (fun _ _ alike => alike.parted) (fun _ _ alike => alike)
    (twins_suite aloof keeps) (fun _ _ => rfl) twin ?_ _ _) ?_
  · intro o scheduled
    obtain ⟨i, inside, same⟩ := List.mem_mapIdx.mp (List.of_mem_zip scheduled).1
    have name : o.1.name = (os.map operation)[i].name := congrArg (·.name) same.symm
    obtain ⟨o', mem, same'⟩ := List.mem_map.mp (List.getElem_mem inside)
    rw [name, ← same']
    exact nameable _ _ declared o' mem
  · rintro final final' ⟨fates, _, rfl, rfl⟩
    have torn : Mirrors (Listed g) (suite inner).watched.tearDown (suite inner).tearDown :=
      mirrors_silent _ _ (fun _ => id) keeps.tearDown fun _ => mirrors_closeAll aloof.tearDown
    exact .andThen (mirrors_tearDown torn _ _) fun _ => .note (.pure rfl)

end Life

/-- A recorded suite that keeps its context and whose code has nothing to do with the disk does the
same whatever files its folder holds already. Afterwards the folder holds the files of the same run in
an empty one laid over those of before. A run in an empty folder leaves reports of the groups that
failed and of no others; but a report of before stays, whether or not its group has failed again. -/
theorem rerun_lays_over [Arithmetic κ] (inner : RecordedSuite κ σ) (clock : Clock)
    (window : Window κ) (s : Scene κ (State σ)) {root id : String} {place : List String}
    {before : Disk} {old : Files} (aloof : inner.Aloof) (keeps : inner.KeepsContext)
    (folder : Folder s.world.disk root place id)
    (directory : s.context.outputDirectory = Path.join root id) (closed : s.state.2 = {})
    (named : NamesFiles inner root id)
    (holds : Folder.Holds s.world.disk place id old before) :
    ((run (suite inner) clock window).run (onDisk s before)).1 =
        ((run (suite inner) clock window).run s).1 ∧
      ∃ new,
        Folder.Holds s.world.disk place id new ((run (suite inner) clock window).run s).2.world.disk ∧
        Folder.Holds s.world.disk place id (new.above old)
          ((run (suite inner) clock window).run (onDisk s before)).2.world.disk ∧
        ∀ summary, ((run (suite inner) clock window).run s).1 = .ok summary → ∀ group,
          (new (reportName group) ≠ none ↔ group ∈ summary.failed) ∧
            (new.above old (reportName group) ≠ none ↔
              group ∈ summary.failed ∨ old (reportName group) ≠ none) := by
  let g : Ground := ⟨s.world.disk, root, place, id, folder, old⟩
  obtain ⟨log, listed, failed⟩ := run_reported_iff (suite inner) clock window s
  obtain ⟨alike, ends⟩ := agree_run (g := g) aloof (keepsContext_suite keeps) clock
    (fun _ _ declared _ mem => named.nameable declared mem) window (s.watching []) (onDisk s before)
    ⟨rfl, directory, closed, holds⟩
  rw [listed] at alike ends
  obtain ⟨new, layers⟩ := alike.backdrop.layers
  refine ⟨ends.eq, new, layers.first, layers.second, fun summary returned group => ?_⟩
  have reports : new (reportName group) ≠ none ↔ group ∈ summary.failed := by
    rw [failed summary returned group]
    exact layers.reports group
  exact ⟨reports, Files.above_ne_none_iff.trans (or_congr_left reports)⟩

/-- A suite with an operation that returns and one that fails as long as the suite is ill. -/
def recovering : RecordedSuite Float Bool where
  operations := pure [⟨"steady", pure ()⟩,
    ⟨"shaky", fun s => (if s.1 then .error (.failure (.message "ill")) else .ok (), s)⟩]

/-- Where the suite starts, ill or not. -/
def convalescing (ill : Bool) : Scene Float (State Bool) where
  state := (ill, {})
  context := begun.context
  world := {}

theorem aloof_recovering : recovering.Aloof where
  setUp := aloof_pure ()
  operations := ⟨fun _ _ alike => ⟨alike, .returned rfl⟩, fun _ => .refl _⟩
  calls := by
    rintro s os declared o mem
    cases declared
    rcases List.mem_cons.mp mem with rfl | mem
    · exact ⟨fun _ _ alike => ⟨alike, .returned rfl⟩, fun _ => .refl _⟩
    · rw [List.mem_singleton.mp mem]
      refine ⟨fun s t alike => ⟨alike, ?_⟩, fun _ => .refl _⟩
      have state : t.state = s.state := alike.backdrop.state
      rw [run_ofWork, run_ofWork, state]
      cases s.state with
      | false => exact .returned rfl
      | true => exact .stopped
  determineRuns := fun _ => aloof_pure _
  runStarts := fun _ => aloof_pure ()
  repetitionStarts := fun _ _ => aloof_pure ()
  runEnds := fun _ => Recorded.aloof_pure ()
  groupEnds := fun _ => aloof_standardRows
  tearDown := aloof_pure ()

theorem keepsContext_recovering : recovering.KeepsContext := keepsContext_default _ _

theorem namesFiles_recovering : NamesFiles recovering "/" "suite" := by
  have names : ∀ (P : String → Prop), P "steady" → P "shaky" → ∀ (s : Bool × World) os,
      (recovering.operations.run s).1 = .ok os → ∀ o ∈ os, P o.name := by
    intro P steady shaky s os declared o mem
    cases declared
    rcases List.mem_cons.mp mem with rfl | mem
    · exact steady
    · rw [List.mem_singleton.mp mem]
      exact shaky
  exact
    { distinct := by
        intro s os declared
        cases declared
        decide
      no_slash := names (fun n => '/' ∉ n.toList) (by decide) (by decide)
      no_nul := names (fun n => '\x00' ∉ n.toList) (by decide) (by decide)
      record :=
        names (fun n => Within _ _ (recordName n)) ⟨by decide, by decide⟩ ⟨by decide, by decide⟩
      report :=
        names (fun n => Within _ _ (reportName n)) ⟨by decide, by decide⟩ ⟨by decide, by decide⟩ }

/-- The disk after a run of the suite while it is ill. -/
def ailed : Disk :=
  ((run (suite recovering) (fun _ => 0) .full).run (convalescing true)).2.world.disk

/-- No group fails in the second run, and the report of the first run is still there after it. -/
theorem rerun_lays_over_recovering : ∃ old new : Files,
    Folder.Holds {} [] "suite" old ailed ∧
    ((run (suite recovering) (fun _ => 0) .full).run (onDisk (convalescing false) ailed)).1 =
      .ok { suite := "suite", completed := ["steady", "shaky"] } ∧
    Folder.Holds {} [] "suite" new
      ((run (suite recovering) (fun _ => 0) .full).run (convalescing false)).2.world.disk ∧
    new (reportName "shaky") = none ∧
    Folder.Holds {} [] "suite" (new.above old)
      ((run (suite recovering) (fun _ => 0) .full).run
        (onDisk (convalescing false) ailed)).2.world.disk ∧
    new.above old (reportName "shaky") ≠ none := by
  have failed : ((run (suite recovering) (fun _ => 0) .full).run (convalescing true)).1 =
      .ok { suite := "suite", completed := ["steady"], failed := ["shaky"] } := by decide +kernel
  have recovered : ((run (suite recovering) (fun _ => 0) .full).run (convalescing false)).1 =
      .ok { suite := "suite", completed := ["steady", "shaky"] } := by decide +kernel
  obtain ⟨-, old, left, -, reports⟩ := rerun_lays_over recovering (fun _ => 0) .full
    (convalescing true) aloof_recovering keepsContext_recovering folder_begun (by decide) rfl
    namesFiles_recovering folder_begun.holds_made
  have reported := (reports _ failed "shaky").1.mpr List.mem_cons_self
  have ailing : Folder.Holds (convalescing false).world.disk [] "suite" old ailed := left
  obtain ⟨same, new, fresh, again, reports'⟩ := rerun_lays_over recovering (fun _ => 0) .full
    (convalescing false) aloof_recovering keepsContext_recovering folder_begun (by decide) rfl
    namesFiles_recovering ailing
  obtain ⟨unreported, stays⟩ := reports' _ recovered "shaky"
  have none_left : new (reportName "shaky") = none := not_not.mp (mt unreported.mp List.not_mem_nil)
  exact ⟨old, new, ailing, same.trans recovered, fresh, none_left, again, stays.mpr (.inr reported)⟩

end Microbench.Recording
