import Microbench.Proofs.Batch.Orchestrator
import Microbench.Proofs.Json.RoundTrip

/-!
# Batch reports read back

A report is read back from its document, its text and its file as it was, whatever the texts in it
are and whichever of its optional fields are there. `Fits` says what the words of the fields can
hold, and that the document format reads each float, and the calendar each moment, as it was
written.
-/

namespace Microbench

namespace BatchReport

/-! ## Reports that fit -/

/-- The float is finite, and is read back from its numeral as it was. -/
structure Survives (x : Float) : Prop where
  finite : Binary64.isFinite x = true
  reads : float? (.number (.ofFloat x)) = some x

/-- The moment is read back from its text as it was. -/
def Told (m : Moment) : Prop := Moment.read? m.text = some m

instance (m : Moment) : Decidable (Told m) := inferInstanceAs (Decidable (_ = _))

/-- The fields of an outcome are within their ranges. -/
structure OutcomeFits (s : SuiteOutcome) : Prop where
  start : Survives s.window.start
  size : Survives s.window.size
  exitCode : ∀ c ∈ s.exitCode, -(2 ^ 31) ≤ c ∧ c < 2 ^ 31
  elapsed : s.elapsed ≤ greatestWord

/-- The fields of a report are within their ranges. -/
structure Fits (r : BatchReport) : Prop where
  schemaVersion : r.schemaVersion < 2 ^ 32
  started : Told r.started
  finished : ∀ m ∈ r.finished, Told m
  processors : r.host.processors ≤ greatestWord
  load : Survives r.host.load
  suites : ∀ s ∈ r.suites, OutcomeFits s

instance (x : Float) : Decidable (Survives x) :=
  decidable_of_iff (_ ∧ _) ⟨fun h => ⟨h.1, h.2⟩, fun h => ⟨h.finite, h.reads⟩⟩

instance (s : SuiteOutcome) : Decidable (OutcomeFits s) :=
  decidable_of_iff (_ ∧ _ ∧ _ ∧ _)
    ⟨fun h => ⟨h.1, h.2.1, h.2.2.1, h.2.2.2⟩, fun h => ⟨h.start, h.size, h.exitCode, h.elapsed⟩⟩

instance (r : BatchReport) : Decidable r.Fits :=
  decidable_of_iff (_ ∧ _ ∧ _ ∧ _ ∧ _ ∧ _)
    ⟨fun h => ⟨h.1, h.2.1, h.2.2.1, h.2.2.2.1, h.2.2.2.2.1, h.2.2.2.2.2⟩,
      fun h => ⟨h.schemaVersion, h.started, h.finished, h.processors, h.load, h.suites⟩⟩

/-! ## Values -/

theorem Survives.ofFloat {x : Float} (kept : Survives x) :
    Json.ofFloat x = .number (.ofFloat x) := if_pos kept.finite

theorem Survives.float? {x : Float} (kept : Survives x) : float? (Json.ofFloat x) = some x := by
  rw [kept.ofFloat, kept.reads]

theorem nat?_ofNat {limit n : Nat} (bound : limit ≤ greatestWord) (fits : n ≤ limit) :
    nat? limit (Json.ofNat n) = some n := by
  unfold nat? Json.ofNat
  simp only [Json.Numeral.value?_ofNat (fits.trans bound), if_pos fits]

theorem exitCode?_ofInt {c : Int} (fits : -(2 ^ 31) ≤ c ∧ c < 2 ^ 31) :
    exitCode? (Json.ofInt c) = some c := by
  have power : Nat.pow 2 31 = 2147483648 := rfl
  have word : c.natAbs ≤ Nat.pow 2 63 := by
    have : Nat.pow 2 63 = 9223372036854775808 := rfl
    omega
  unfold exitCode? Json.ofInt
  simp only [Json.Numeral.value?_ofInt word]
  by_cases negative : c < 0
  · have small : c.natAbs - 1 < Nat.pow 2 31 := by omega
    simp only [negative, if_true, small, Option.some.injEq]
    omega
  · have small : c.natAbs < Nat.pow 2 31 := by omega
    simp only [negative, if_false, small, if_true, Option.some.injEq]
    omega

theorem optional?_some {α : Type} (read : Json → Option α) {v : Json} (filled : v ≠ .null) :
    optional? read (some v) = (read v).map some :=
  optional?.eq_3 read v filled

/-- A value that is there is read back, and so is none, where the field of none is left out. -/
theorem optional?_map {α : Type} {read : Json → Option α} {show' : α → Json} {value : Option α}
    (present : ∀ a ∈ value, show' a ≠ .null ∧ read (show' a) = some a) :
    optional? read (value.map show') = some value := by
  cases value with
  | none => rfl
  | some a =>
    obtain ⟨filled, reads⟩ := present a rfl
    rw [Option.map_some, optional?_some read filled, reads]
    rfl

/-! ## Records -/

/-- The fields of an outcome, a missing one standing for an absent value. -/
theorem fields?_outcomeJson (s : SuiteOutcome) :
    fields? ["suite", "progress_start", "progress_size", "status", "exit_code", "message",
        "elapsed_ms"] (outcomeJson s) =
      some [some (.text s.suite), some (.ofFloat s.window.start), some (.ofFloat s.window.size),
        some (.text s.status.word), s.exitCode.map Json.ofInt, s.message.map Json.text,
        some (.ofNat s.elapsed)] := by
  cases exitCode : s.exitCode <;> cases message : s.message <;>
    simp [outcomeJson, exitCode, message, fields?, field?]

theorem outcome?_outcomeJson {s : SuiteOutcome} (fits : OutcomeFits s) :
    outcome? (outcomeJson s) = some s := by
  have exitCode : optional? exitCode? (s.exitCode.map Json.ofInt) = some s.exitCode :=
    optional?_map fun c mem => ⟨nofun, exitCode?_ofInt (fits.exitCode c mem)⟩
  have message : optional? text? (s.message.map Json.text) = some s.message :=
    optional?_map fun _ _ => ⟨nofun, rfl⟩
  unfold outcome?
  simp only [fields?_outcomeJson, text?, status?, fits.start.float?, fits.size.float?, exitCode,
    message, nat?_ofNat (le_refl _) fits.elapsed, SuiteStatus.ofWord?_word, Option.bind_eq_bind,
    Option.bind_some, Option.pure_def]

theorem host?_hostJson {h : Host} (processors : h.processors ≤ greatestWord)
    (load : Survives h.load) : host? (hostJson h) = some h := by
  simp [host?, hostJson, fields?, field?, nat?_ofNat (le_refl _) processors, load.float?]

theorem list?_outcomes {outcomes : List SuiteOutcome} (fits : ∀ s ∈ outcomes, OutcomeFits s) :
    list? outcome? (.array (outcomes.map outcomeJson)) = some outcomes := by
  rw [list?]
  induction outcomes with
  | nil => rfl
  | cons s outcomes ih =>
    rw [List.map_cons, List.mapM_cons, outcome?_outcomeJson (fits s List.mem_cons_self),
      ih fun s mem => fits s (List.mem_cons_of_mem _ mem)]
    rfl

theorem moment?_text {m : Moment} (told : Told m) : moment? (.text m.text) = some m := by
  rw [moment?, text?, Option.bind_some]
  exact told

theorem optional?_finished {m : Option Moment} (told : ∀ t ∈ m, Told t) :
    optional? moment? (some (.ofText? (m.map (·.text)))) = some m := by
  cases m with
  | none => rfl
  | some m =>
    have filled : Json.text m.text ≠ .null := nofun
    rw [Option.map_some, Json.ofText?, optional?_some _ filled, moment?_text (told m rfl)]
    rfl

theorem fields?_toJson (r : BatchReport) :
    fields? ["schema_version", "version", "started", "finished", "output_root", "isolated",
        "host", "suites"] r.toJson =
      some [some (.ofNat r.schemaVersion), some (.text r.version), some (.text r.started.text),
        some (.ofText? (r.finished.map (·.text))), some (.text r.outputRoot),
        some (.bool r.isolated), some (hostJson r.host),
        some (.array (r.suites.map outcomeJson))] := by
  simp [toJson, fields?, field?]

/-- A report is read back from its document. -/
theorem ofJson?_toJson {r : BatchReport} (fits : r.Fits) : ofJson? r.toJson = some r := by
  have schemaVersion : r.schemaVersion ≤ Nat.pow 2 32 - 1 := by
    have : Nat.pow 2 32 = 2 ^ 32 := rfl
    have := fits.schemaVersion
    omega
  unfold ofJson?
  simp only [fields?_toJson, nat?_ofNat (by decide) schemaVersion, text?, bool?,
    moment?_text fits.started, optional?_finished fits.finished,
    host?_hostJson fits.processors fits.load, list?_outcomes fits.suites, Option.bind_eq_bind,
    Option.bind_some, Option.pure_def]

/-! ## The text of a report -/

theorem formed_ofFloat (x : Float) : (Json.ofFloat x).Formed := by
  unfold Json.ofFloat
  split
  · rw [Json.Formed]
    exact Json.Numeral.formed_ofFloat x
  · trivial

theorem formed_ofNat (n : Nat) : (Json.ofNat n).Formed := by
  rw [Json.ofNat, Json.Formed]
  exact Json.Numeral.formed_ofNat n

theorem formed_ofInt (i : Int) : (Json.ofInt i).Formed := by
  rw [Json.ofInt, Json.Formed]
  exact Json.Numeral.formed_ofInt i

theorem formed_outcomeJson (s : SuiteOutcome) : (outcomeJson s).Formed := by
  unfold outcomeJson
  cases s.exitCode <;> cases s.message <;>
    simp [Json.Formed, Json.FormedFields, formed_ofFloat, formed_ofNat, formed_ofInt]

theorem formed_outcomes (outcomes : List SuiteOutcome) :
    Json.FormedItems (outcomes.map outcomeJson) := by
  induction outcomes with
  | nil => trivial
  | cons s outcomes ih => exact ⟨formed_outcomeJson s, ih⟩

theorem formed_toJson (r : BatchReport) : r.toJson.Formed := by
  have finished : (Json.ofText? (r.finished.map (·.text))).Formed := by
    cases r.finished <;> trivial
  simp [toJson, hostJson, Json.Formed, Json.FormedFields, formed_ofFloat, formed_ofNat, finished,
    formed_outcomes]

/-- A report is read back from its text. -/
theorem ofText_render {r : BatchReport} (fits : r.Fits) : ofText r.render = .ok r := by
  unfold ofText render
  rw [Json.read?_render (formed_toJson r), Option.bind_some, ofJson?_toJson fits]

/-! ## The file of a report -/

/-- A report is read back from a file of its text. -/
theorem run_loadReport {r : BatchReport} (fits : r.Fits) {path : String} {d : Disk}
    (filed : d.find? path = some (.file (Bytes.ofText r.render)))
    (served : d.faults d.accesses = none) :
    (Access.loadReport path).run d = (.ok r, d.counted) := by
  have read := Access.run_readText filed served
  unfold Access.loadReport
  simp only [ExceptT.run] at read ⊢
  simp only [read, ofText_render fits]

/-- A report that ends within its ranges still does. -/
theorem Fits.finished' {r : BatchReport} (fits : r.Fits) {now : Moment} (told : Told now) :
    { r with finished := some now }.Fits :=
  { fits with finished := fun _ ended => Option.some.inj ended ▸ told }

/-- What is left of a report when it was written: its text is read back as it, finishing sets its
end and nothing else, and where the file could be written it is read back as the finished report. -/
structure Lasting (r : BatchReport) : Prop where
  text : ofText r.render = .ok r
  finished (now : Moment) : (Access.finishReport r now).1 = { r with finished := some now }
  failedCount (now : Moment) : (Access.finishReport r now).1.failedCount = r.failedCount
  file {now : Moment} (told : Told now) {path : String} {d d' : Disk}
    (written : (Access.finishReport r now).2.run d = (.ok path, d'))
    (served : d'.faults d'.accesses = none) :
    (Access.loadReport path).run d' = (.ok (Access.finishReport r now).1, d'.counted)

/-- A report within the ranges of its fields outlasts its batch. -/
theorem lasting_of_fits {r : BatchReport} (fits : r.Fits) : r.Lasting where
  text := ofText_render fits
  finished _ := rfl
  failedCount _ := rfl
  file told _ _ _ written served :=
    run_loadReport (fits.finished' told) (Orchestrator.find?_of_saveReport written).2 served

/-- A batch of three suites: one completed, one that ended with a code and an empty message, and one
that was killed, with a message of quotes, backslashes and control characters. -/
def harsh : BatchReport where
  started := ⟨20000, 86399, 1000000007⟩
  outputRoot := "out"
  isolated := true
  host := ⟨8, 0.5⟩
  suites :=
    [⟨"codec", ⟨0, 50⟩, .completed, some 0, none, 12⟩,
      ⟨"a\"b\\c", ⟨50, 25⟩, .failed, some (-2147483648), some "", 0⟩,
      ⟨"", ⟨75, 25⟩, .launchFailed, none, some "\x00\x1f\n\t\\u0041 \"no\" λ", greatestWord⟩]

/-- The end of the batch, in a year of five digits. -/
def later : Moment := ⟨3000000, 0, 120000⟩

theorem lasting_of_fits_harsh :
    ofText harsh.render = .ok harsh ∧
      ((Access.finishReport harsh later).2.run {}).1 = .ok "out/batch.json" ∧
      ((Access.loadReport "out/batch.json").run ((Access.finishReport harsh later).2.run {}).2).1 =
        .ok { harsh with finished := some later } := by
  have lasting : harsh.Lasting := lasting_of_fits (by decide +kernel)
  generalize ran : (Access.finishReport harsh later).2.run {} = outcome
  have written : outcome.1 = .ok "out/batch.json" := by
    rw [← ran]
    decide +kernel
  have served : outcome.2.faults outcome.2.accesses = none := by
    rw [← ran]
    decide +kernel
  have read := lasting.file (by decide +kernel) (ran.trans (Prod.ext written rfl)) served
  exact ⟨lasting.text, written, congrArg Prod.fst read⟩

end BatchReport

end Microbench
