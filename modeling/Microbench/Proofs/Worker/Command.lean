import Microbench.CommandLine.Run
import Microbench.Proofs.Code
import Microbench.Proofs.CommandLine.Steps
import Microbench.Proofs.Properties
import Microbench.Proofs.Settings.File
import Microbench.Proofs.Worker.Assignment

/-!
# What a worker is told

A worker is to run its suite with what the batch would give the suite in its own process: the output
root, the window and the properties. It does exactly if every name in the table of properties of the
settings file is a key: `takes_command_iff`. The command line checks the names that it is given, and
the engine's own are keys, but those of the file are not looked at before a worker refuses them or
takes them for others.
-/

namespace Microbench

open CommandLine

/-- What a worker makes of its arguments: what it has to do, and the properties of its suites. -/
def Takes (arguments : List String) (a : Assignment) (properties : Properties) : Prop :=
  ∃ line own, CommandLine.ofArguments arguments = .ok line ∧ line.worker = some own ∧
    Assignment.ofArguments own = .ok a ∧ Properties.ofList line.properties = properties

/-- A program that takes such arguments launches the suites of the assignment with the properties. -/
theorem run_of_takes {arguments : List String} {a : Assignment} {properties : Properties}
    (h : Takes arguments a properties) :
    ∃ line, CommandLine.ofArguments arguments = .ok line ∧ ∀ s : Surroundings,
      CommandLine.run s line = (do
        modify (·.noteAll (Registry.ofDefinitions s.definitions).2)
        let results ← launch (Registry.ofDefinitions s.definitions).1 s.times.clocks properties a
        match abortedOf results with
        | [] => pure ()
        | suites => fail (.aborted suites)) := by
  rcases h with ⟨line, own, read, worker, assigned, rfl⟩
  refine ⟨line, read, fun s => ?_⟩
  unfold CommandLine.run
  rw [worker]
  simp only [runWorker, assigned]
  rfl

/-! ## Options -/

theorem readFrom_optionArguments {d : Dispatch}
    (valid : ∀ e ∈ d.properties.entries, PropertyPair.isKey e.1.toList = true)
    (word : d.memoryLimit ≤ greatestWord) (rest : List String) :
    ∃ t given, readFrom {} (WorkerCommand.optionArguments d ++ rest) = readFrom t rest ∧
      Between t { properties := d.properties.entries, verbose := d.verbose
                  memoryLimit := some d.memoryLimit } given := by
  obtain ⟨t, given, read, between, flags⟩ := readFrom_properties valid
    ((if d.verbose then ["--verbose"] else []) ++
      "--memory-limit-mb" :: Decimal.text d.memoryLimit :: rest) between_start
  have only : ∀ f ∈ given, f = .value .property := by
    intro f mem
    rcases flags f mem with none | property
    · cases none
    · exact property
  have arguments : WorkerCommand.optionArguments d ++ rest =
      (d.properties.entries.flatMap fun e => ["-D", PropertyPair.write e.1 e.2]) ++
        ((if d.verbose then ["--verbose"] else []) ++
          "--memory-limit-mb" :: Decimal.text d.memoryLimit :: rest) := by
    unfold WorkerCommand.optionArguments WorkerCommand.propertyArguments
    simp only [List.append_assoc, List.cons_append, List.nil_append]
  rw [arguments, read]
  cases verbose : d.verbose with
  | false =>
    obtain ⟨u, limited, last⟩ := readFrom_memoryLimit between
      (fun mem => by cases only _ mem) word rest
    exact ⟨u, _, limited, last⟩
  | true =>
    obtain ⟨u, shown, next⟩ := readFrom_verbose between (fun mem => by cases only _ mem)
      ("--memory-limit-mb" :: Decimal.text d.memoryLimit :: rest)
    have first : Flag.value .memoryLimit ∉ given ++ [.switch .verbose] := by
      intro mem
      rcases List.mem_append.mp mem with before | last
      · cases only _ before
      · cases List.mem_singleton.mp last
    obtain ⟨v, limited, last⟩ := readFrom_memoryLimit next first word rest
    exact ⟨v, _, shown.trans limited, last⟩

/-- A worker takes its command if every property has a key for its name. -/
theorem takes_command {d : Dispatch}
    (valid : ∀ e ∈ d.properties.entries, PropertyPair.isKey e.1.toList = true)
    (word : d.memoryLimit ≤ greatestWord) {suite root : String} (program : String)
    (plain_suite : Plain suite) (plain_root : Plain root) {w : Window Float}
    (start : Unsigned w.start) (size : Unsigned w.size) :
    Takes (WorkerCommand.new d program suite w root).arguments ⟨root, w, [suite]⟩ d.properties := by
  obtain ⟨t, given, options, between⟩ := readFrom_optionArguments valid word
    [WorkerCommand.workerFlag, root, Decimal.plain w.start, Decimal.plain w.size, suite]
  have plain_number {x : Float} (h : Unsigned x) : Plain (Decimal.plain x) := by
    obtain ⟨c, first, digit⟩ := head_plain h
    unfold Plain
    rw [first]
    intro sign
    cases sign
    revert digit
    decide
  have worker := readFrom_worker between rfl (a := root) (b := Decimal.plain w.start)
    (c := Decimal.plain w.size) (d := suite) (by
      intro argument mem
      simp only [List.mem_cons, List.not_mem_nil, or_false] at mem
      rcases mem with rfl | rfl | rfl | rfl
      · exact plain_root
      · exact plain_number start
      · exact plain_number size
      · exact plain_suite)
  rcases start with ⟨m, e, decoded⟩
  rcases size with ⟨m', e', decoded'⟩
  refine ⟨_, _, options.trans worker, rfl, ?_, Properties.ofList_entries d.properties⟩
  exact Assignment.ofArguments_toArguments (a := ⟨root, w, [suite]⟩) decoded decoded' (by simp)

/-- Whatever properties a worker gets have keys for their names. -/
theorem keys_of_takes {arguments : List String} {a : Assignment} {properties : Properties}
    (h : Takes arguments a properties) {k : String} (contained : properties.contains k = true) :
    PropertyPair.isKey k.toList = true := by
  rcases h with ⟨line, -, read, -, -, rfl⟩
  rcases Properties.contains_ofList.mp contained with ⟨e, mem, rfl⟩
  exact (checked_ofArguments read).keys e mem

/-! ## The properties of a batch -/

theorem keys_of_engine (s : EngineSettings) :
    ∀ e ∈ s.entries, PropertyPair.isKey e.1.toList = true := by
  have calls : PropertyPair.isKey callsKey.toList = true := by decide +kernel
  have repetitions : PropertyPair.isKey repetitionsKey.toList = true := by decide +kernel
  have delay : PropertyPair.isKey delayKey.toList = true := by decide +kernel
  intro e mem
  simp only [EngineSettings.entries, List.mem_cons, List.not_mem_nil, or_false] at mem
  rcases mem with rfl | rfl | rfl
  · exact calls
  · exact repetitions
  · exact delay

theorem contains_suiteProperties {c : CommandLine} {f : SettingsFile} {s : EngineSettings}
    {k : String} :
    (suiteProperties c f s).contains k = true ↔ (∃ e ∈ c.properties, e.1 = k) ∨
      (∃ e ∈ s.entries, e.1 = k) ∨ ∃ e ∈ f.properties, e.1 = k := by
  unfold suiteProperties SettingsFile.propertyMap
  rw [Properties.contains_insertAll, Properties.contains_insertAll, Properties.contains_ofList]
  simp only [List.mem_map, exists_exists_and_eq_and]

/-- What a prepared batch passes on is made of the file, the engine and the line. -/
theorem properties_of_prepare {registry : Registry Float} {c : CommandLine} {f : SettingsFile}
    {selects : String → Bool} {p : Prepared} (h : prepare registry c f selects = .ok (some p)) :
    p.properties = suiteProperties c f p.settings := by
  unfold prepare at h
  split at h
  · cases h
  · split at h
    · cases h
    · rcases exists_of_bind_ok h with ⟨settings, -, h⟩
      rcases exists_of_bind_ok h with ⟨-, -, h⟩
      rcases exists_of_bind_ok h with ⟨relayGrace, -, h⟩
      cases h
      rfl

/-! ## Keys of the settings file -/

/-- A worker takes the output root, the window, the suite and the properties of its batch exactly if
the settings file has keys for all names in its table of properties. -/
theorem takes_command_iff {argv : List String} {c : CommandLine} {text : String} {f : SettingsFile}
    {p : Prepared} (line : CommandLine.ofArguments argv = .ok c)
    (file : SettingsFile.ofText text = .ok f)
    (properties : p.properties = suiteProperties c f p.settings) {n : Nat}
    (word : n ≤ greatestWord) {w : Window Float} (share : w ∈ Window.full.split n)
    {suite root : String} (plain_suite : Plain suite) (plain_root : Plain root)
    (program : String) :
    Takes (WorkerCommand.new (dispatchOf c f p) program suite w root).arguments
        ⟨root, w, [suite]⟩ (dispatchOf c f p).properties ↔
      ∀ e ∈ f.properties, PropertyPair.isKey e.1.toList = true := by
  have passed : (dispatchOf c f p).properties = suiteProperties c f p.settings := properties
  have checked := checked_ofArguments line
  constructor
  · intro takes e mem
    apply keys_of_takes takes
    rw [passed, contains_suiteProperties]
    exact .inr (.inr ⟨e, mem, rfl⟩)
  · intro keys
    rcases unsigned_of_mem_split word share with ⟨start, size⟩
    refine takes_command ?_ ?_ program plain_suite plain_root start size
    · intro e mem
      rw [passed] at mem
      have contained := Properties.contains_iff.mpr ⟨e, mem, rfl⟩
      rcases contains_suiteProperties.mp contained with ⟨e', mem', same⟩ | ⟨e', mem', same⟩ |
        ⟨e', mem', same⟩
      · exact same ▸ checked.keys e' mem'
      · exact same ▸ keys_of_engine p.settings e' mem'
      · exact same ▸ keys e' mem'
    · have limit : (dispatchOf c f p).memoryLimit = c.memoryLimit.getD f.runner.memoryLimit := rfl
      rw [limit]
      cases given : c.memoryLimit with
      | none => exact SettingsFile.memoryLimit_le file
      | some n => exact checked.memory n given

/-- A name with a blank in it is no key, so a worker does not take what its batch would hand it. -/
theorem takes_command_iff_blank :
    ∃ f, SettingsFile.ofText "[properties]\n\"my key\" = \"x\"\n" = .ok f ∧
      CommandLine.ofArguments ["beta"] = .ok { suites := ["beta"] } ∧
      ¬Takes (WorkerCommand.new (dispatchOf { suites := ["beta"] } f
            ⟨["beta"], ⟨3, 2, 0⟩, suiteProperties { suites := ["beta"] } f ⟨3, 2, 0⟩, 0⟩)
          "isobench" "beta" (Window.full.slice 0 1) "/tmp/out").arguments
        ⟨"/tmp/out", Window.full.slice 0 1, ["beta"]⟩
        (suiteProperties { suites := ["beta"] } f ⟨3, 2, 0⟩) := by
  have blank : ((SettingsFile.ofText "[properties]\n\"my key\" = \"x\"\n").toOption.any fun f =>
      f.properties.any fun e => !PropertyPair.isKey e.1.toList) = true := by
    decide +kernel
  have line : CommandLine.ofArguments ["beta"] = .ok { suites := ["beta"] } := rfl
  have share : (Window.full : Window Float).slice 0 1 ∈ Window.full.split 1 :=
    List.mem_map.mpr ⟨0, by decide, rfl⟩
  obtain ⟨f, file, strange⟩ := exists_ok_of_any blank
  obtain ⟨e, mem, spaced⟩ := List.any_eq_true.mp strange
  refine ⟨f, file, line, fun takes => ?_⟩
  have key := (takes_command_iff line file rfl (by decide) share (by decide +kernel)
    (by decide +kernel) "isobench").mp takes e mem
  rw [key] at spaced
  cases spaced

end Microbench
