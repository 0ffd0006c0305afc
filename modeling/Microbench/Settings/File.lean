import Microbench.Arithmetic
import Microbench.Disk
import Microbench.Knobs
import Microbench.Properties
import Microbench.Toml.Reader

/-!
# The settings file

A batch takes its settings from a file. Every setting has a default, so that a file may leave out
what it does not care about; what it does not know it passes over. A section may be given as a list
of its settings in order.
-/

namespace Microbench

/-- Where suites run. -/
inductive Isolation where
  /-- Each in a process of its own. -/
  | process
  | inProcess
  deriving DecidableEq, Repr

/-- How suites are run. -/
structure RunnerSettings where
  isolation : Isolation := .process
  /-- The address space of a suite in MiB; zero for no limit. -/
  memoryLimit : Nat := 1024
  /-- How long to go on passing a suite's output after its end. -/
  relayGrace : String := "2s"

/-- How often operations are called. -/
structure EngineDefaults where
  calls : Nat := 100000
  repetitions : Nat := 10
  warmupDelay : String := "1s"

/-- Where results go. -/
structure OutputSettings where
  directory : Option String := none
  /-- Whether every batch has a directory named for its start. -/
  timestamped : Bool := true

/-- The settings of a file. -/
structure SettingsFile where
  runner : RunnerSettings := {}
  engine : EngineDefaults := {}
  output : OutputSettings := {}
  /-- Named values for the suites. -/
  properties : List (String × Toml) := []

/-- Why there are no settings in a file. -/
inductive SettingsError where
  | io (failure : IoFailure)
  /-- The text is none of a settings file. -/
  | malformed
  deriving DecidableEq, Repr

namespace SettingsFile

/-- The name of the file. -/
def fileName : String := "isobench.toml"

/-! ## Reading -/

/-- The key that stands for a date where a table is expected. -/
def dateKey : String := "$__toml_private_datetime"

/-- The named values of a section, as far as they are given. A date stands for a section without
any of them. -/
def fields? (names : List String) : Toml → Option (List (Option Toml))
  | .table entries => some (names.map fun n => entries.lookup n)
  | .array items => some ((List.range names.length).map (items[·]?))
  | .datetime _ => some (names.map fun _ => none)
  | _ => none

/-- Reads a value that may be absent. -/
def orDefault {α : Type} (default : α) (read : Toml → Option α) : Option Toml → Option α
  | none => some default
  | some v => read v

/-- A text. -/
def text? : Toml → Option String
  | .text s => some s
  | _ => none

/-- A whole number of 64 bits. -/
def nat? : Toml → Option Nat
  | .integer i => if 0 ≤ i ∧ i.toNat ≤ greatestWord then some i.toNat else none
  | _ => none

/-- A truth value. -/
def bool? : Toml → Option Bool
  | .bool b => some b
  | _ => none

/-- The place that a word stands for. -/
def isolationOfWord? (s : String) : Option Isolation :=
  if s = "process" then some .process
  else if s = "in-process" then some .inProcess
  else none

/-- A place to run suites: a word, or a table of the word and something empty. -/
def isolation? : Toml → Option Isolation
  | .text s => isolationOfWord? s
  | .table [(s, .table [])] => isolationOfWord? s
  | .table [(s, .array [])] => isolationOfWord? s
  | _ => none

/-- Reads the section on running. -/
def runner? (v : Toml) : Option RunnerSettings := do
  match ← fields? ["isolation", "memory_limit_mb", "relay_grace"] v with
  | [isolation, memoryLimit, relayGrace] =>
    let base : RunnerSettings := {}
    return {
      isolation := ← orDefault base.isolation isolation? isolation
      memoryLimit := ← orDefault base.memoryLimit nat? memoryLimit
      relayGrace := ← orDefault base.relayGrace text? relayGrace }
  | _ => none

/-- Reads the section on the engine. -/
def engine? (v : Toml) : Option EngineDefaults := do
  match ← fields? ["calls_per_repetition", "repetitions_per_run", "warmup_delay"] v with
  | [calls, repetitions, warmupDelay] =>
    let base : EngineDefaults := {}
    return {
      calls := ← orDefault base.calls nat? calls
      repetitions := ← orDefault base.repetitions nat? repetitions
      warmupDelay := ← orDefault base.warmupDelay text? warmupDelay }
  | _ => none

/-- Reads the section on output. -/
def output? (v : Toml) : Option OutputSettings := do
  match ← fields? ["directory", "timestamped"] v with
  | [directory, timestamped] =>
    let base : OutputSettings := {}
    return {
      directory := ← orDefault base.directory (fun v => (text? v).map some) directory
      timestamped := ← orDefault base.timestamped bool? timestamped }
  | _ => none

/-- Reads the section of properties. -/
def properties? : Toml → Option (List (String × Toml))
  | .table entries => some entries
  | .datetime d => some [(dateKey, .text d.text)]
  | _ => none

/-- Reads the settings of a file. -/
def ofToml? (v : Toml) : Option SettingsFile := do
  match ← fields? ["runner", "engine", "output", "properties"] v with
  | [runner, engine, output, properties] =>
    return {
      runner := ← orDefault {} runner? runner
      engine := ← orDefault {} engine? engine
      output := ← orDefault {} output? output
      properties := ← orDefault [] properties? properties }
  | _ => none

/-- Reads the text of a settings file. -/
def ofText (s : String) : Except SettingsError SettingsFile :=
  match (Toml.read? s).bind ofToml? with
  | some c => .ok c
  | none => .error .malformed

/-! ## Properties -/

/-- A value as suites see it: a text is itself, anything else is written the way the file would. -/
def propertyText : Toml → String
  | .text s => s
  | .datetime d => (Toml.table [(dateKey, .text d.text)]).render
  | v => v.render

/-- The properties that the file gives to all suites. -/
def propertyMap (c : SettingsFile) : Properties :=
  .ofList (c.properties.map fun (k, v) => (k, propertyText v))

/-! ## A file to start from -/

/-- The text of a file that says what every setting does and leaves each at its default. -/
def template : String := "\n".intercalate
  ["# isobench configuration",
   "",
   "[runner]",
   "# Isolation mode: \"process\" or \"in-process\"",
   "isolation = \"process\"",
   "# Address space limit of each suite process in MiB (0 = unlimited)",
   "memory_limit_mb = 1024",
   "# Time relays keep draining child output after it exits",
   "relay_grace = \"2s\"",
   "",
   "[engine]",
   "# Invocations timed as one batch",
   "calls_per_repetition = 100000",
   "# Timed batches per run",
   "repetitions_per_run = 10",
   "# Pause before every repetition",
   "warmup_delay = \"1s\"",
   "",
   "[output]",
   "# Output root (defaults to $TEMP/isobench, $TMP/isobench or the platform temp dir)",
   "# directory = \"target/isobench\"",
   "# One yyyyMMdd-HHmmss subdirectory per batch",
   "timestamped = true",
   "",
   "[properties]",
   "# Forwarded to every suite, e.g.",
   "# \"net.host\" = \"localhost\"",
   ""]

end SettingsFile

namespace Access

/-- Reads the settings in a file. -/
def loadSettings (path : String) : ExceptT SettingsError (StateM Disk) SettingsFile := fun disk =>
  match (readText path).run disk with
  | (.ok text, disk) => (SettingsFile.ofText text, disk)
  | (.error e, disk) => (.error (.io e), disk)

end Access

end Microbench
