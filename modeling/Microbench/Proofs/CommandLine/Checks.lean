import Microbench.Proofs.CommandLine.Endings
import Microbench.Proofs.Duration.Reading
import Microbench.Proofs.Registry

/-!
# What is checked before a batch

A batch starts when all of it was checked: the identifiers, the settings, the properties of every
suite, the grace of the relays. What fails first is the error, and then nothing was done.

* `Ready`, `Idle`, `Refuses`: what a batch is prepared to, that there is nothing to run, and which
  error it is refused with. It is always one of the three (`refused_or_idle_or_ready`).
* `planned_before_run`: what becomes of the batch in each of the cases.
-/

namespace Microbench

namespace Launch

variable {κ : Type} [Arithmetic κ] {registry : Registry κ} {env : Environment} {clock : Clock}
  {clocks : Clocks} {suite : String} {window : Window κ} {w : World} {place : Nat}
  {list : List (String × Window κ)} {results : List (LaunchResult κ)}

/-- A suite that is registered is not unknown, whatever becomes of it. -/
theorem Tells.ne_unknownSuite {r : LaunchResult κ} {d : Definition κ}
    (tells : Tells registry env clock suite window w r) (known : registry.get? suite = some d)
    (id : String) : r.outcome ≠ .error (.unknownSuite id) := by
  intro failed
  have fatal := tells.failed_iff.mp failed
  cases fatal with
  | unknown unknown => cases known.symm.trans unknown
  | unready _ _ unready => cases unready

theorem ne_unknownSuite_of_runFrom
    (known : ∀ share ∈ list, ∃ d, registry.get? share.1 = some d)
    (returned : (runFrom registry env clocks place list w).1 = .ok results) :
    ∀ r ∈ results, ∀ id, r.outcome ≠ .error (.unknownSuite id) := by
  obtain ⟨length, tells⟩ := tells_of_runFrom returned
  intro r mem id
  obtain ⟨i, h', rfl⟩ := List.getElem_of_mem mem
  have h : i < list.length := length ▸ h'
  obtain ⟨d, found⟩ := known list[i] (List.getElem_mem h)
  exact (tells i h h').ne_unknownSuite found id

end Launch

namespace Orchestrator

variable {o : Orchestrator} {outputRoot : String} {times : BatchTimes} {suites : List String}
  {s : Stage} {report : BatchReport}

/-- A report has the suites of its batch, in order. -/
theorem suites_of_report (reported : ((o.runBatch suites outputRoot times).run s).1 = .ok report) :
    report.suites.map (·.suite) = suites := by
  have same : report.suites.length = suites.length ∧
      ∀ i (h : i < suites.length) (h' : i < report.suites.length),
        report.suites[i].suite = suites[i] := by
    cases isolated : o.dispatch.isolated with
    | false =>
      have told : Answers o outputRoot times suites s := answers isolated
      exact ⟨told.length_eq report reported, fun i h h' => (told.launched report reported i h h').suite_eq⟩
    | true =>
      obtain ⟨report', reported', tells⟩ := exists_report isolated outputRoot times suites s
      cases reported.symm.trans reported'
      have fates : (o.fates outputRoot suites s).length = suites.length :=
        (length_attempts _ _).trans length_shares
      exact ⟨tells.length_eq, fun i h h' => (tells.recorded i h h' (fates ▸ h)).suite_eq⟩
  refine List.ext_getElem (by rw [List.length_map, same.1]) fun i h h' => ?_
  rw [List.getElem_map]
  exact same.2 i h' _

theorem ne_unknownSuite_of_launch {results : List (LaunchResult Float)}
    (known : ∀ id ∈ suites, ∃ d, o.registry.get? id = some d)
    (returned : (o.launch outputRoot times suites s).1 = .ok results) :
    ∀ r ∈ results, ∀ id, r.outcome ≠ .error (.unknownSuite id) := by
  refine Launch.ne_unknownSuite_of_runFrom (fun share mem => ?_) returned
  obtain ⟨⟨id, window⟩, inside, rfl⟩ := List.mem_map.mp mem
  exact known id (List.of_mem_zip inside).1

end Orchestrator

namespace CommandLine

/-! ## The checks -/

variable {registry : Registry Float} {c : CommandLine} {f : SettingsFile} {selects : String → Bool}

/-- All that is requested is registered. -/
def Registered (registry : Registry Float) (c : CommandLine) : Prop :=
  ∀ id ∈ c.suites, id ∈ registry.ids

/-- The suites to run. -/
def planned (registry : Registry Float) (c : CommandLine) (selects : String → Bool) : List String :=
  Plan.planned registry c.suites selects

/-- The suites to run that lack properties, with what they lack. -/
def lacking (registry : Registry Float) (c : CommandLine) (f : SettingsFile)
    (selects : String → Bool) (settings : EngineSettings) : List (String × List String) :=
  Plan.lacking registry (suiteProperties c f settings) (planned registry c selects)

/-- The text of the warm-up delay. -/
def delayText (c : CommandLine) (f : SettingsFile) : String :=
  c.warmupDelay.getD f.engine.warmupDelay

theorem engineSettings_of_bad {e : DurationError} (bad : Duration.read (delayText c f) = .error e) :
    engineSettings c f = .error (.badDelay (delayText c f) e) := by
  unfold delayText at bad
  unfold engineSettings
  dsimp only
  rw [bad]
  rfl

theorem engineSettings_of_uneven {delay : Nat} (read : Duration.read (delayText c f) = .ok delay)
    (uneven : delay % 1000000 ≠ 0) : engineSettings c f = .error (.unevenDelay (delayText c f)) := by
  unfold delayText at read
  unfold engineSettings
  dsimp only
  rw [read]
  exact if_neg uneven

/-- All of a batch is as it has to be, and this is what it is prepared to. -/
structure Ready (registry : Registry Float) (c : CommandLine) (f : SettingsFile)
    (selects : String → Bool) (p : Prepared) : Prop where
  registered : Registered registry c
  suites_eq : p.suites = planned registry c selects
  some : p.suites ≠ []
  settings : engineSettings c f = .ok p.settings
  delay : Duration.read (delayText c f) = .ok p.settings.delay
  /-- The delay is one of whole milliseconds. -/
  even : p.settings.delay % 1000000 = 0
  properties_eq : p.properties = suiteProperties c f p.settings
  present : ∀ id ∈ p.suites, ∃ d, registry.get? id = .some d ∧
    ∀ key ∈ d.requires, p.properties.contains key = true
  relayGrace : Duration.read f.runner.relayGrace = .ok p.relayGrace

/-- There is nothing to run. -/
structure Idle (registry : Registry Float) (c : CommandLine) (selects : String → Bool) : Prop where
  registered : Registered registry c
  none : planned registry c selects = []

/-- The error of the first check that fails. -/
inductive Refuses (registry : Registry Float) (c : CommandLine) (f : SettingsFile)
    (selects : String → Bool) : RunError → Prop
  | unknown :
    ¬ Registered registry c →
    Refuses registry c f selects (.badPlan (.unknownSuites (c.suites.filter (· ∉ registry.ids))))
  | delay {e : DurationError} :
    Registered registry c → planned registry c selects ≠ [] →
    Duration.read (delayText c f) = .error e →
    Refuses registry c f selects (.badDelay (delayText c f) e)
  | unevenDelay {delay : Nat} :
    Registered registry c → planned registry c selects ≠ [] →
    Duration.read (delayText c f) = .ok delay → delay % 1000000 ≠ 0 →
    Refuses registry c f selects (.unevenDelay (delayText c f))
  | properties {settings : EngineSettings} :
    Registered registry c → planned registry c selects ≠ [] →
    engineSettings c f = .ok settings → lacking registry c f selects settings ≠ [] →
    Refuses registry c f selects
      (.badPlan (.missingProperties (lacking registry c f selects settings)))
  | grace {settings : EngineSettings} {e : DurationError} :
    Registered registry c → planned registry c selects ≠ [] →
    engineSettings c f = .ok settings → lacking registry c f selects settings = [] →
    Duration.read f.runner.relayGrace = .error e → Refuses registry c f selects (.badGrace e)

/-! ## Preparing -/

section Prepare

theorem check_planned (registered : Registered registry c) (settings : EngineSettings) :
    (Plan.ofIds registry (planned registry c selects)).check (suiteProperties c f settings) =
      if lacking registry c f selects settings = [] then .ok ()
      else .error (.missingProperties (lacking registry c f selects settings)) := by
  have missing : (Plan.ofIds registry (planned registry c selects)).missing
      (suiteProperties c f settings) = lacking registry c f selects settings :=
    Plan.missing_ofIds (Plan.planned_registered registered) _
  rw [Plan.check, missing]
  cases lacking registry c f selects settings <;> rfl

variable (ascending : registry.Ascending)

include ascending

theorem make_planned (registered : Registered registry c) : Plan.make registry c.suites selects =
    .ok (Plan.ofIds registry (planned registry c selects)) :=
  Plan.make_of_registered ascending registered

/-- The checks behind that of the identifiers, if there is a suite to run. -/
theorem prepare_of_some (registered : Registered registry c) (some : planned registry c selects ≠ []) :
    prepare registry c f selects = (engineSettings c f).bind fun settings =>
      if lacking registry c f selects settings = [] then
        ((Duration.read f.runner.relayGrace).mapError RunError.badGrace).map fun relayGrace =>
          .some { suites := planned registry c selects, settings
                  properties := suiteProperties c f settings, relayGrace }
      else .error (.badPlan (.missingProperties (lacking registry c f selects settings))) := by
  have known : ∀ id ∈ planned registry c selects, id ∈ registry.ids :=
    Plan.planned_registered registered
  have filled : ¬ (Plan.ofIds registry (planned registry c selects)).suites.isEmpty = true := by
    rw [Plan.isEmpty_ofIds known]
    exact fun none => some (List.isEmpty_iff.mp none)
  have ids : (Plan.ofIds registry (planned registry c selects)).ids = planned registry c selects :=
    Plan.ids_ofIds known
  unfold prepare
  rw [make_planned ascending registered]
  dsimp only
  rw [if_neg filled, ids]
  cases engineSettings c f with
  | error e => rfl
  | ok settings =>
    dsimp only [bind, Except.bind]
    rw [check_planned registered]
    by_cases complete : lacking registry c f selects settings = []
    · rw [if_pos complete, if_pos complete]
      cases Duration.read f.runner.relayGrace <;> rfl
    · rw [if_neg complete, if_neg complete]
      rfl

theorem prepare_of_idle (idle : Idle registry c selects) :
    prepare registry c f selects = .ok none := by
  unfold prepare
  rw [make_planned ascending idle.registered, idle.none]
  rfl

theorem prepare_of_refuses {e : RunError} (refuses : Refuses registry c f selects e) :
    prepare registry c f selects = .error e := by
  cases refuses with
  | unknown unknown =>
    unfold prepare
    rw [Plan.make_of_unregistered unknown]
    rfl
  | delay registered some bad =>
    rw [prepare_of_some ascending registered some, engineSettings_of_bad bad]
    rfl
  | unevenDelay registered some read uneven =>
    rw [prepare_of_some ascending registered some, engineSettings_of_uneven read uneven]
    rfl
  | properties registered some settled lacks =>
    rw [prepare_of_some ascending registered some, settled]
    exact if_neg lacks
  | grace registered some settled complete failed =>
    rw [prepare_of_some ascending registered some, settled, failed]
    exact if_pos complete

theorem prepare_of_ready {p : Prepared} (ready : Ready registry c f selects p) :
    prepare registry c f selects = .ok (some p) := by
  obtain ⟨registered, suites_eq, some, settings, -, -, properties_eq, present, relayGrace⟩ := ready
  obtain ⟨suites, settled, properties, grace⟩ := p
  dsimp only at *
  subst suites_eq properties_eq
  rw [prepare_of_some ascending registered some, settings, relayGrace]
  exact if_pos ((Plan.lacking_eq_nil_iff (Plan.planned_registered registered)).mpr present)

end Prepare

/-- A batch is refused, or there is nothing to run, or it is ready. -/
theorem refused_or_idle_or_ready (registry : Registry Float) (c : CommandLine) (f : SettingsFile)
    (selects : String → Bool) : (∃ e, Refuses registry c f selects e) ∨ Idle registry c selects ∨
      ∃ p, Ready registry c f selects p := by
  by_cases registered : Registered registry c
  swap
  · exact .inl ⟨_, .unknown registered⟩
  by_cases some : planned registry c selects = []
  · exact .inr (.inl ⟨registered, some⟩)
  cases read : Duration.read (delayText c f) with
  | error e => exact .inl ⟨_, .delay registered some read⟩
  | ok delay =>
    by_cases even : delay % 1000000 = 0
    swap
    · exact .inl ⟨_, .unevenDelay registered some read even⟩
    obtain ⟨settings, settled⟩ : ∃ settings, engineSettings c f = .ok settings :=
      ⟨⟨_, _, delay⟩, Duration.engineSettings_eq_ok_iff.mpr ⟨read, even, rfl, rfl⟩⟩
    obtain ⟨delayed, whole, -⟩ := Duration.engineSettings_eq_ok_iff.mp settled
    by_cases complete : lacking registry c f selects settings = []
    swap
    · exact .inl ⟨_, .properties registered some settled complete⟩
    cases waits : Duration.read f.runner.relayGrace with
    | error e => exact .inl ⟨_, .grace registered some settled complete waits⟩
    | ok relayGrace =>
      have present := (Plan.lacking_eq_nil_iff (Plan.planned_registered registered)).mp complete
      exact .inr (.inr ⟨⟨planned registry c selects, settings, _, relayGrace⟩,
        ⟨registered, rfl, some, settled, delayed, whole, rfl, present, waits⟩⟩)

/-! ## Running what was prepared -/

/-- What a command line asks for is done with the settings that are found. -/
theorem runSuites_eq (s : Surroundings) (registry : Registry Float) (c : CommandLine)
    (selects : String → Bool) : runSuites s registry c selects =
      (findSettings >>= fun f => runPlanned s registry c f selects) := rfl

theorem runPlanned_of_ready (s : Surroundings) (ascending : registry.Ascending) {p : Prepared}
    (ready : Ready registry c f selects p) :
    runPlanned s registry c f selects = runPrepared s registry c f p := by
  unfold runPlanned
  rw [prepare_of_ready ascending ready]

/-- The path of the directory for the results of a batch. -/
def rootPath (s : Surroundings) (c : CommandLine) (f : SettingsFile) : String :=
  OutputRoot.resolve c.output f.output s.temporary s.clock

/-- What is dispatched of a batch that is ready. -/
structure Dispatched (ds : List (Definition Float)) (s : Surroundings) (c : CommandLine)
    (f : SettingsFile) (selects : String → Bool) (p : Prepared) : Prop where
  /-- If the directory for the results cannot be made, that is all that was tried. -/
  unplaced : ∀ w w' stop, (makeOutputRoot (rootPath s c f)).run w = (.error stop, w') →
    (runPlanned s (Registry.ofDefinitions ds).1 c f selects).run w = (.error stop, w') ∧
      ∃ e, stop = .failure (.cannotCreate (rootPath s c f) e)
  /-- In the directory a batch of these suites is run, and with it the command line ends. -/
  runs : ∀ w w' root answer stage, (makeOutputRoot (rootPath s c f)).run w = (.ok root, w') →
    ((orchestrator s (Registry.ofDefinitions ds).1 c f p).runBatch p.suites root s.times).run
      (stageOf c f p w') = (answer, stage) →
    (runPlanned s (Registry.ofDefinitions ds).1 c f selects).run w = (batchEnd answer, stage.world)
  requested : c.suites ≠ [] → p.suites = c.suites
  ascending : c.suites = [] → p.suites.Pairwise (· < ·)
  selected : c.suites = [] → ∀ id, id ∈ p.suites ↔ (∃ d ∈ ds, d.id = id) ∧ selects id = true
  /-- A batch that comes to a report has these suites in it. -/
  reported : ∀ root stage stage' report,
    ((orchestrator s (Registry.ofDefinitions ds).1 c f p).runBatch p.suites root s.times).run stage =
      (.ok report, stage') → report.suites.map (·.suite) = p.suites
  /-- Within one process the report is on a launch of these suites. -/
  launched : (dispatchOf c f p).isolated = false → ∀ root stage stage' report,
    ((orchestrator s (Registry.ofDefinitions ds).1 c f p).runBatch p.suites root s.times).run stage =
      (.ok report, stage') →
    ∃ results, ((orchestrator s (Registry.ofDefinitions ds).1 c f p).launch root s.times p.suites
        stage).1 = .ok results ∧
      report.suites = Orchestrator.entriesFrom s.times Orchestrator.resultEntry 0
        (Orchestrator.shares p.suites) results
  /-- None of these suites is unknown when it is launched. -/
  known : ∀ root stage results, ((orchestrator s (Registry.ofDefinitions ds).1 c f p).launch
    root s.times p.suites stage).1 = .ok results →
      ∀ r ∈ results, ∀ id, r.outcome ≠ .error (.unknownSuite id)

theorem dispatched_of_ready {ds : List (Definition Float)} (s : Surroundings) {p : Prepared}
    (ready : Ready (Registry.ofDefinitions ds).1 c f selects p) :
    Dispatched ds s c f selects p where
  unplaced w w' stop refused := by
    rw [runPlanned_of_ready s (Registry.ascending_ofDefinitions ds) ready]
    exact ⟨run_runPrepared_of_refused refused, eq_cannotCreate_of_makeOutputRoot refused⟩
  runs w w' root answer stage made ran := by
    rw [runPlanned_of_ready s (Registry.ascending_ofDefinitions ds) ready]
    exact run_runPrepared made ran
  requested some := ready.suites_eq.trans (if_neg some)
  ascending none := by
    have all : p.suites = (Registry.ofDefinitions ds).1.ids.filter selects :=
      ready.suites_eq.trans (if_pos none)
    rw [all]
    exact (Registry.ids_ascending (Registry.ascending_ofDefinitions ds)).filter _
  selected none id := by
    have all : p.suites = (Registry.ofDefinitions ds).1.ids.filter selects :=
      ready.suites_eq.trans (if_pos none)
    rw [all, List.mem_filter, Registry.mem_ids_ofDefinitions]
  reported _ _ _ _ ran := Orchestrator.suites_of_report (by rw [ran])
  launched here root stage stage' report ran := by
    obtain ⟨results, launched, rfl⟩ := Orchestrator.exists_launch_of_report here (by rw [ran])
    exact ⟨results, launched, rfl⟩
  known _ _ _ returned := by
    refine Orchestrator.ne_unknownSuite_of_launch (fun id mem => ?_) returned
    obtain ⟨d, found, -⟩ := ready.present id mem
    exact ⟨d, found⟩

/-- Nothing is done before all was checked. Either a batch is refused with the first thing that is
wrong, and the world is as it was; or there is nothing to run; or it is ready, and then the directory
for the results is made and a batch of all that is planned is run in it. -/
theorem planned_before_run (ds : List (Definition Float)) (s : Surroundings) (c : CommandLine)
    (selects : String → Bool) :
    let registry := (Registry.ofDefinitions ds).1
    runSuites s registry c selects =
        (findSettings >>= fun f => runPlanned s registry c f selects) ∧
      ∀ (f : SettingsFile) (w : World),
        ((∃ e, Refuses registry c f selects e) ∨ Idle registry c selects ∨
          ∃ p, Ready registry c f selects p) ∧
        (∀ e, Refuses registry c f selects e →
          (runPlanned s registry c f selects).run w = (.error (.failure e), w)) ∧
        (Idle registry c selects → (runPlanned s registry c f selects).run w =
          (.ok (), w.print "No suites found.\n")) ∧
        ∀ p, Ready registry c f selects p → Dispatched ds s c f selects p := by
  intro registry
  have ascending : registry.Ascending := Registry.ascending_ofDefinitions ds
  refine ⟨runSuites_eq s registry c selects, fun f w => ⟨refused_or_idle_or_ready registry c f selects,
    fun e refuses => ?_, fun idle => ?_, fun p ready => dispatched_of_ready s ready⟩⟩
  · unfold runPlanned
    rw [prepare_of_refuses ascending refuses]
    rfl
  · unfold runPlanned
    rw [prepare_of_idle ascending idle]
    rfl

/-- Two suites, of which one will be asked for twice. -/
def twoSuites : List (Definition Float) :=
  [Orchestrator.stateless "b" Engine.refusing, Orchestrator.stateless "a" Engine.refusing]

theorem ids_twoSuites : (Registry.ofDefinitions twoSuites).1.ids = ["a", "b"] := by decide

/-- A line that asks for suites by their names, to be run in this process. -/
def asking (suites : List String) : CommandLine := { suites, inProcess := true }

/-- What is prepared for a line that asks for one of them twice. -/
def twice : Prepared where
  suites := ["b", "a", "b"]
  settings := ⟨100000, 10, 1000000000⟩
  properties := suiteProperties (asking ["b", "a", "b"]) {} ⟨100000, 10, 1000000000⟩
  relayGrace := 2000000000

theorem ready_twice : Ready (Registry.ofDefinitions twoSuites).1 (asking ["b", "a", "b"]) {}
    (fun _ => false) twice := by
  have known : ∀ id ∈ ["b", "a", "b"], id ∈ (Registry.ofDefinitions twoSuites).1.ids := by
    rw [ids_twoSuites]
    decide
  refine ⟨known, rfl, List.cons_ne_nil _ _, rfl, rfl, rfl, rfl, fun id mem => ?_, rfl⟩
  obtain ⟨d, found⟩ := Registry.mem_ids_iff.mp (known id mem)
  refine ⟨d, found, fun key required => ?_⟩
  have given : d ∈ twoSuites :=
    List.mem_of_find?_eq_some ((Registry.get?_ofDefinitions twoSuites id).symm.trans found)
  have none : ∀ d ∈ twoSuites, d.requires = [] :=
    List.forall_mem_cons.mpr ⟨rfl, List.forall_mem_singleton.mpr rfl⟩
  rw [none d given] at required
  cases required

theorem refuses_strangers : Refuses (Registry.ofDefinitions twoSuites).1 (asking ["x", "b", "y"]) {}
    (fun _ => true) (.badPlan (.unknownSuites ["x", "y"])) := by
  have unknown :
      ["x", "b", "y"].filter (· ∉ (Registry.ofDefinitions twoSuites).1.ids) = ["x", "y"] := by
    rw [ids_twoSuites]
    decide
  rw [← unknown]
  exact .unknown fun all => absurd (all "x" List.mem_cons_self) (by rw [ids_twoSuites]; decide)

/-- What is left when the directory for the batch was made. -/
def twiceMade : Except RunStop String × World :=
  (makeOutputRoot (rootPath hapless (asking ["b", "a", "b"]) {})).run {}

theorem twiceMade_eq : twiceMade = (.ok "/tmp/isobench/20240309-140507", twiceMade.2) :=
  Prod.ext (eq_ok_of_toOption (by decide +kernel)) rfl

/-- The run of the batch. -/
def twiceRun : Except Crash BatchReport × Stage :=
  ((orchestrator hapless (Registry.ofDefinitions twoSuites).1 (asking ["b", "a", "b"]) {} twice).runBatch
    ["b", "a", "b"] "/tmp/isobench/20240309-140507" hapless.times).run
      (stageOf (asking ["b", "a", "b"]) {} twice twiceMade.2)

/-- Repeated requests stay, in their order; of unknown ones all are told. -/
theorem planned_before_run_repeated :
    (∃ report, twiceRun.1 = .ok report ∧ report.suites.map (·.suite) = ["b", "a", "b"] ∧
      (runPlanned hapless (Registry.ofDefinitions twoSuites).1 (asking ["b", "a", "b"]) {}
        fun _ => false).run {} = (.ok (), twiceRun.2.world)) ∧
    (runPlanned hapless (Registry.ofDefinitions twoSuites).1 (asking ["x", "b", "y"]) {}
      fun _ => true).run {} = (.error (.failure (.badPlan (.unknownSuites ["x", "y"]))), {}) := by
  obtain ⟨-, run⟩ := planned_before_run twoSuites hapless (asking ["b", "a", "b"]) fun _ => false
  obtain ⟨-, run'⟩ := planned_before_run twoSuites hapless (asking ["x", "b", "y"]) fun _ => true
  obtain ⟨-, -, -, starts⟩ := run {} {}
  obtain ⟨-, refuses, -⟩ := run' {} {}
  have dispatched := starts _ ready_twice
  refine ⟨?_, refuses _ refuses_strangers⟩
  have count : twiceRun.1.toOption.map (·.failedCount) = some 0 := by decide +kernel
  rcases ran : twiceRun with ⟨answer, stage⟩
  rw [ran] at count
  obtain ⟨report, rfl, none⟩ := exists_ok_of_map count
  have ends := dispatched.runs {} twiceMade.2 _ _ _ twiceMade_eq ran
  have well : batchVerdict report = .ok () := batchVerdict_eq_ok_iff.mpr none
  rw [batchEnd, well] at ends
  exact ⟨report, rfl, dispatched.reported _ _ _ _ ran, ends⟩

end CommandLine

end Microbench
