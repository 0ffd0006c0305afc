import Microbench.CommandLine.Run
import Microbench.Proofs.CommandLine.Checked
import Microbench.Proofs.Duration.Reading
import Microbench.Proofs.Settings.File
import Microbench.Proofs.Text.Parts

/-!
# Knobs from the command line and the settings file

The engine's settings reach a suite as texts among its properties. They stand behind those of the
settings file and in front of those of the command line, and the suite reads them back:
`started_of_settings` says which knobs that gives it. From there on a suite turns them itself, and
`knobs_of_settings` follows them through whatever it does.
-/

namespace Microbench

/-! ## Properties read as numbers -/

/-- A property read as a word, blanks around it being allowed. -/
def wordOf? (raw : String) : Option Nat := Decimal.readUnsigned greatestWord (Text.trim raw)

theorem wordOf?_text {n : Nat} (word : n ≤ greatestWord) : wordOf? (Decimal.text n) = some n := by
  have ink : ∀ c ∈ (Decimal.text n).toList, Text.isBlank c = false := by
    intro c mem
    rw [Decimal.toList_text] at mem
    exact Decimal.isBlank_of_isDigit (Decimal.isDigit_of_mem_digits mem)
  unfold wordOf?
  rw [Text.trim_of_ink ink]
  exact Decimal.readUnsigned_text word

theorem reservedNumber_fst (p : Properties) (key : String) :
    (reservedNumber p key).1 = (p.get? key).bind wordOf? := by
  unfold reservedNumber wordOf?
  cases p.get? key with
  | none => rfl
  | some raw =>
    simp only [Option.bind_some]
    cases Decimal.readUnsigned greatestWord (Text.trim raw) <;> rfl

/-- The last value that the command line gives to a name. -/
def CommandLine.lastProperty? (c : CommandLine) (key : String) : Option String :=
  (c.properties.filter (·.1 == key)).getLast?.map (·.2)

theorem CommandLine.get?_suiteProperties (c : CommandLine) (f : SettingsFile) (s : EngineSettings)
    (key : String) : (suiteProperties c f s).get? key =
      (c.lastProperty? key).or ((f.propertyMap.insertAll s.entries).get? key) := by
  have last : c.properties.reverse.find? (·.1 == key) =
      (c.properties.filter (·.1 == key)).getLast? := by
    rw [← List.head?_filter, List.filter_reverse, List.head?_reverse]
  unfold suiteProperties lastProperty?
  rw [Properties.get?_insertAll, last]

/-- The engine's settings stand behind whatever the file has under their names. -/
theorem EngineSettings.get?_insertAll_entries (s : EngineSettings) (p : Properties) :
    (p.insertAll s.entries).get? callsKey = some (Decimal.text s.calls) ∧
      (p.insertAll s.entries).get? repetitionsKey = some (Decimal.text s.repetitions) ∧
      (p.insertAll s.entries).get? delayKey = some (Decimal.text (s.delay / 1000000)) := by
  have inserted : p.insertAll s.entries = ((p.insert callsKey (Decimal.text s.calls)).insert
      repetitionsKey (Decimal.text s.repetitions)).insert delayKey
        (Decimal.text (s.delay / 1000000)) := rfl
  have different : callsKey ≠ repetitionsKey ∧ callsKey ≠ delayKey ∧ repetitionsKey ≠ delayKey := by
    decide
  rw [inserted]
  simp only [Properties.get?_insert, if_true, different.1, different.2.1, different.2.2, if_false,
    and_self]

/-! ## Knobs turned -/

namespace Knobs

/-- The number of an offer that is positive, and otherwise the count that it would replace. -/
def positiveOr (count : Nat) : Option Nat → Nat
  | some n => if 0 < n then n else count
  | none => count

theorem kept_withCalls (k : Knobs) (n : Nat) :
    (k.withCalls n).repetitions = k.repetitions ∧ (k.withCalls n).delay = k.delay := by
  unfold withCalls
  split <;> exact ⟨rfl, rfl⟩

theorem kept_withRepetitions (k : Knobs) (n : Nat) :
    (k.withRepetitions n).calls = k.calls ∧ (k.withRepetitions n).delay = k.delay := by
  unfold withRepetitions
  split <;> exact ⟨rfl, rfl⟩

theorem offered_calls (suite : String) (k : Knobs) (offer : Option Nat) :
    (offered (offerCalls suite) k offer).1.calls = positiveOr k.calls offer ∧
      (offered (offerCalls suite) k offer).1.repetitions = k.repetitions ∧
      (offered (offerCalls suite) k offer).1.delay = k.delay := by
  cases offer with
  | none => exact ⟨rfl, rfl, rfl⟩
  | some n => exact ⟨calls_withCalls k n, kept_withCalls k n⟩

theorem offered_repetitions (suite : String) (k : Knobs) (offer : Option Nat) :
    (offered (offerRepetitions suite) k offer).1.repetitions = positiveOr k.repetitions offer ∧
      (offered (offerRepetitions suite) k offer).1.calls = k.calls ∧
      (offered (offerRepetitions suite) k offer).1.delay = k.delay := by
  cases offer with
  | none => exact ⟨rfl, rfl, rfl⟩
  | some n => exact ⟨repetitions_withRepetitions k n, kept_withRepetitions k n⟩

/-- The knobs that a suite starts with, number by number. -/
theorem ofProperties_fst (suite : String) (p : Properties) :
    (ofProperties suite p).1.calls =
        positiveOr (default : Knobs).calls ((p.get? callsKey).bind wordOf?) ∧
      (ofProperties suite p).1.repetitions =
        positiveOr (default : Knobs).repetitions ((p.get? repetitionsKey).bind wordOf?) ∧
      (ofProperties suite p).1.delay =
        (((p.get? delayKey).bind wordOf?).map (· * 1000000)).getD (default : Knobs).delay := by
  simp only [← reservedNumber_fst]
  obtain ⟨calls, same, still⟩ := offered_calls suite default (reservedNumber p callsKey).1
  obtain ⟨repetitions, same', still'⟩ := offered_repetitions suite
    (offered (offerCalls suite) default (reservedNumber p callsKey).1).1
    (reservedNumber p repetitionsKey).1
  obtain ⟨k, counted⟩ : ∃ k, k = (offered (offerRepetitions suite)
      (offered (offerCalls suite) default (reservedNumber p callsKey).1).1
      (reservedNumber p repetitionsKey).1).1 := ⟨_, rfl⟩
  have last : (ofProperties suite p).1 =
      ((reservedNumber p delayKey).1.map fun ms => k.withDelay (ms * 1000000)).getD k := by
    rw [counted]
    rfl
  rw [← counted] at repetitions same' still'
  rw [same] at repetitions
  rw [last]
  cases (reservedNumber p delayKey).1 with
  | none => exact ⟨same'.trans calls, repetitions, still'.trans still⟩
  | some ms => exact ⟨same'.trans calls, repetitions, rfl⟩

end Knobs

/-! ## The start of a suite -/

/-- The number that a count starts from: the last property that the line has under its name, and
without one the option of the line or the number of the file. Whatever is not positive leaves the
default. -/
def startCount (default : Nat) (property : Option String) (option : Option Nat) (file : Nat) : Nat :=
  Knobs.positiveOr default (match property with
    | some raw => wordOf? raw
    | none => some (option.getD file))

/-- What a command line and a settings file ask of the knobs that a suite starts with. -/
structure Started (c : CommandLine) (f : SettingsFile) (k : Knobs) : Prop where
  calls : k.calls = startCount (default : Knobs).calls (c.lastProperty? callsKey) c.calls
    f.engine.calls
  repetitions : k.repetitions = startCount (default : Knobs).repetitions
    (c.lastProperty? repetitionsKey) c.repetitions f.engine.repetitions
  /-- Milliseconds; a text that is no number leaves the default. -/
  delay_of_property : ∀ raw, c.lastProperty? delayKey = some raw →
    k.delay = ((wordOf? raw).map (· * 1000000)).getD (default : Knobs).delay
  /-- Nothing of the duration is lost. -/
  delay_of_text : c.lastProperty? delayKey = none →
    Duration.read (c.warmupDelay.getD f.engine.warmupDelay) = .ok k.delay

theorem words_of_engineSettings {argv : List String} {c : CommandLine} {f : SettingsFile}
    {s : EngineSettings} (line : CommandLine.ofArguments argv = .ok c) (file : f.engine.Words)
    (h : CommandLine.engineSettings c f = .ok s) :
    s.calls ≤ greatestWord ∧ s.repetitions ≤ greatestWord ∧ s.delay / 1000000 ≤ greatestWord := by
  obtain ⟨read, -, calls, repetitions⟩ := Duration.engineSettings_eq_ok_iff.mp h
  have checked := CommandLine.checked_ofArguments line
  refine ⟨?_, ?_, (Nat.div_le_self _ _).trans (Duration.le_of_read read)⟩
  · rw [calls]
    cases given : c.calls with
    | none => exact file.calls
    | some n => exact checked.calls n given
  · rw [repetitions]
    cases given : c.repetitions with
    | none => exact file.repetitions
    | some n => exact checked.repetitions n given

/-- The number that is read back under a name: of the last property of the line, or of what the
engine has put there. -/
theorem wordOf?_suiteProperties {c : CommandLine} {f : SettingsFile} {s : EngineSettings}
    {key : String} {n : Nat} (word : n ≤ greatestWord)
    (engine : (f.propertyMap.insertAll s.entries).get? key = some (Decimal.text n)) :
    ((CommandLine.suiteProperties c f s).get? key).bind wordOf? =
      match c.lastProperty? key with
      | some raw => wordOf? raw
      | none => some n := by
  rw [CommandLine.get?_suiteProperties, engine]
  cases c.lastProperty? key with
  | none =>
    simp only [Option.none_or, Option.bind_some]
    exact wordOf?_text word
  | some raw => simp only [Option.some_or, Option.bind_some]

/-- A suite starts with the knobs that the command line and the settings file ask for. -/
theorem started_of_settings {argv : List String} {c : CommandLine} {f : SettingsFile}
    {s : EngineSettings} (line : CommandLine.ofArguments argv = .ok c) (file : f.engine.Words)
    (h : CommandLine.engineSettings c f = .ok s) (suite : String) :
    Started c f (Knobs.ofProperties suite (CommandLine.suiteProperties c f s)).1 := by
  obtain ⟨read, even, calls_eq, repetitions_eq⟩ := Duration.engineSettings_eq_ok_iff.mp h
  obtain ⟨calls_word, repetitions_word, delay_word⟩ := words_of_engineSettings line file h
  obtain ⟨calls, repetitions, delay⟩ := s.get?_insertAll_entries f.propertyMap
  obtain ⟨knob_calls, knob_repetitions, knob_delay⟩ :=
    Knobs.ofProperties_fst suite (CommandLine.suiteProperties c f s)
  rw [wordOf?_suiteProperties calls_word calls, calls_eq] at knob_calls
  rw [wordOf?_suiteProperties repetitions_word repetitions, repetitions_eq] at knob_repetitions
  rw [wordOf?_suiteProperties delay_word delay] at knob_delay
  refine ⟨knob_calls, knob_repetitions, fun raw own => ?_, fun none => ?_⟩
  · rwa [own] at knob_delay
  · rw [none] at knob_delay
    have exact_delay : s.delay / 1000000 * 1000000 = s.delay := by omega
    rw [knob_delay, Option.map_some, Option.getD_some, exact_delay]
    exact read

/-! ## Knobs turned by a suite -/

/-- A knob that a suite sets. -/
inductive Tuning where
  | calls (n : Nat)
  | repetitions (n : Nat)
  /-- Nanoseconds. -/
  | delay (n : Nat)

namespace Tuning

def calls? : Tuning → Option Nat
  | calls n => some n
  | _ => none

def repetitions? : Tuning → Option Nat
  | repetitions n => some n
  | _ => none

def delay? : Tuning → Option Nat
  | delay n => some n
  | _ => none

end Tuning

namespace Knobs

/-- The knobs after one of them was set. -/
def tuned (suite : String) (k : Knobs) : Tuning → Knobs
  | .calls n => (k.offerCalls suite n).1
  | .repetitions n => (k.offerRepetitions suite n).1
  | .delay n => k.withDelay n

theorem tuned_spec (suite : String) (k : Knobs) (t : Tuning) :
    (k.tuned suite t).calls = positiveOr k.calls t.calls? ∧
      (k.tuned suite t).repetitions = positiveOr k.repetitions t.repetitions? ∧
      (k.tuned suite t).delay = t.delay?.getD k.delay := by
  cases t with
  | calls n => exact ⟨calls_withCalls k n, kept_withCalls k n⟩
  | repetitions n =>
    obtain ⟨calls, delay⟩ := kept_withRepetitions k n
    exact ⟨calls, repetitions_withRepetitions k n, delay⟩
  | delay n => exact ⟨rfl, rfl, rfl⟩

/-- The last positive number, and a count to start from if there is none. -/
def lastPositive (start : Nat) (ns : List Nat) : Nat := ((ns.filter (0 < ·)).getLast?).getD start

theorem lastPositive_positiveOr (start : Nat) (offer : Option Nat) (ns : List Nat) :
    lastPositive (positiveOr start offer) ns = lastPositive start (offer.toList ++ ns) := by
  cases offer with
  | none => rfl
  | some n =>
    unfold lastPositive positiveOr
    simp only [Option.toList_some, List.singleton_append, List.filter_cons, decide_eq_true_eq]
    split
    · rw [List.getLast?_cons, Option.getD_some]
    · rfl

/-- What has become of knobs that were set in order. -/
structure Followed (k : Knobs) (ts : List Tuning) (after : Knobs) : Prop where
  calls : after.calls = lastPositive k.calls (ts.filterMap Tuning.calls?)
  repetitions : after.repetitions = lastPositive k.repetitions (ts.filterMap Tuning.repetitions?)
  delay : after.delay = ((ts.filterMap Tuning.delay?).getLast?).getD k.delay
  positive : 0 < after.calls ∧ 0 < after.repetitions

theorem filterMap_cons_toList {α β : Type} (f : α → Option β) (a : α) (as : List α) :
    (a :: as).filterMap f = (f a).toList ++ as.filterMap f := by
  rw [List.filterMap_cons]
  cases f a <;> rfl

theorem followed (suite : String) (k : Knobs) (ts : List Tuning) :
    Followed k ts (ts.foldl (tuned suite) k) := by
  induction ts generalizing k with
  | nil => exact ⟨rfl, rfl, rfl, k.calls_pos, k.repetitions_pos⟩
  | cons t ts ih =>
    obtain ⟨calls, repetitions, delay⟩ := tuned_spec suite k t
    have later := ih (k.tuned suite t)
    refine ⟨?_, ?_, ?_, later.positive⟩
    · rw [filterMap_cons_toList, ← lastPositive_positiveOr, ← calls]
      exact later.calls
    · rw [filterMap_cons_toList, ← lastPositive_positiveOr, ← repetitions]
      exact later.repetitions
    · have last : t.delay?.toList.getLast? = t.delay? := by cases t.delay? <;> rfl
      rw [filterMap_cons_toList, List.getLast?_append, Option.getD_or, last, ← delay]
      exact later.delay

end Knobs

/-- The context after its suite has set knobs in order. -/
def Context.tuned {κ : Type} (c : Context κ) (ts : List Tuning) : Context κ :=
  { c with knobs := ts.foldl (Knobs.tuned c.suite) c.knobs }

/-- A suite starts with the knobs that the command line and the settings file ask for, and what it
sets from then on is what it gets, but for zeros. -/
theorem knobs_of_settings {κ : Type} [Arithmetic κ] {argv : List String} {c : CommandLine}
    {f : SettingsFile} {s : EngineSettings} (line : CommandLine.ofArguments argv = .ok c)
    (file : f.engine.Words) (h : CommandLine.engineSettings c f = .ok s) (suite root : String) :
    ∃ context : Context κ,
      (Context.start suite ⟨root, CommandLine.suiteProperties c f s⟩).1 = context ∧
      Started c f context.knobs ∧
      ∀ ts, Knobs.Followed context.knobs ts (context.tuned ts).knobs :=
  ⟨_, rfl, started_of_settings line file h suite, Knobs.followed suite _⟩

/-- An option counts for more than the table of properties, and a property of zero for nothing. -/
theorem knobs_of_settings_overridden : ∃ context : Context Float,
    (Context.start "beta" ⟨"/tmp/out", CommandLine.suiteProperties
      { suites := ["beta"], calls := some 50, properties := [(repetitionsKey, "0")] }
      { properties := [(callsKey, .text "9")] } ⟨50, 10, 1000000000⟩⟩).1 = context ∧
    context.knobs.calls = 50 ∧ context.knobs.repetitions = 10 ∧
    Duration.read "1s" = .ok context.knobs.delay ∧
    (context.tuned [.calls 0, .calls 7, .repetitions 0, .calls 0]).knobs.calls = 7 ∧
    (context.tuned [.calls 0, .calls 7, .repetitions 0, .calls 0]).knobs.repetitions = 10 := by
  have line : CommandLine.ofArguments
      ["--calls", "50", "-D", "isobench.repetitions_per_run=0", "beta"] = .ok
        { suites := ["beta"], calls := some 50, properties := [(repetitionsKey, "0")] } := rfl
  have settings : CommandLine.engineSettings
      { suites := ["beta"], calls := some 50, properties := [(repetitionsKey, "0")] }
      { properties := [(callsKey, .text "9")] } = .ok ⟨50, 10, 1000000000⟩ := rfl
  obtain ⟨context, start, asked, followed⟩ : ∃ context : Context Float, _ ∧ _ ∧ _ :=
    knobs_of_settings line SettingsFile.words_default settings "beta" "/tmp/out"
  have repetitions : context.knobs.repetitions = 10 := asked.repetitions
  have turned := followed [.calls 0, .calls 7, .repetitions 0, .calls 0]
  exact ⟨context, start, asked.calls, repetitions, asked.delay_of_text rfl, turned.calls,
    turned.repetitions.trans repetitions⟩

end Microbench
