import Mathlib.Logic.Basic
import Microbench.Settings.File

/-!
# Numbers of a settings file

Every number that is read from a settings file is a word, and so is the default of one that the file
leaves out: `memoryLimit_le`, `words_ofText`.
-/

namespace Microbench

/-- The counts of the engine are words. -/
structure EngineDefaults.Words (e : EngineDefaults) : Prop where
  calls : e.calls ≤ greatestWord
  repetitions : e.repetitions ≤ greatestWord

namespace SettingsFile

theorem le_of_nat {v : Toml} {n : Nat} (h : nat? v = some n) : n ≤ greatestWord := by
  unfold nat? at h
  split at h
  · simp only [Option.ite_none_right_eq_some, Option.some.injEq] at h
    rcases h with ⟨⟨-, fits⟩, rfl⟩
    exact fits
  · cases h

theorem le_of_orDefault {default n : Nat} {v : Option Toml} (word : default ≤ greatestWord)
    (h : orDefault default nat? v = some n) : n ≤ greatestWord := by
  cases v with
  | none =>
    cases h
    exact word
  | some v => exact le_of_nat h

theorem le_of_runner {v : Toml} {r : RunnerSettings} (h : runner? v = some r) :
    r.memoryLimit ≤ greatestWord := by
  unfold runner? at h
  rcases Option.bind_eq_some_iff.mp h with ⟨fields, -, h⟩
  split at h
  · rcases Option.bind_eq_some_iff.mp h with ⟨isolation, -, h⟩
    rcases Option.bind_eq_some_iff.mp h with ⟨memoryLimit, read, h⟩
    rcases Option.bind_eq_some_iff.mp h with ⟨relayGrace, -, h⟩
    cases h
    exact le_of_orDefault (by decide) read
  · cases h

theorem words_of_engine {v : Toml} {e : EngineDefaults} (h : engine? v = some e) : e.Words := by
  unfold engine? at h
  rcases Option.bind_eq_some_iff.mp h with ⟨fields, -, h⟩
  split at h
  · rcases Option.bind_eq_some_iff.mp h with ⟨calls, calls_read, h⟩
    rcases Option.bind_eq_some_iff.mp h with ⟨repetitions, repetitions_read, h⟩
    rcases Option.bind_eq_some_iff.mp h with ⟨warmupDelay, -, h⟩
    cases h
    exact ⟨le_of_orDefault (by decide) calls_read, le_of_orDefault (by decide) repetitions_read⟩
  · cases h

/-- The sections that the settings of a file were read from. -/
theorem sections_of_ofText {text : String} {f : SettingsFile} (h : ofText text = .ok f) :
    ∃ runner engine, orDefault {} runner? runner = some f.runner ∧
      orDefault {} engine? engine = some f.engine := by
  unfold ofText at h
  split at h
  · rename_i read
    cases h
    rcases Option.bind_eq_some_iff.mp read with ⟨v, -, read⟩
    unfold ofToml? at read
    rcases Option.bind_eq_some_iff.mp read with ⟨fields, -, read⟩
    split at read
    · rcases Option.bind_eq_some_iff.mp read with ⟨runner, runner_read, read⟩
      rcases Option.bind_eq_some_iff.mp read with ⟨engine, engine_read, read⟩
      rcases Option.bind_eq_some_iff.mp read with ⟨output, -, read⟩
      rcases Option.bind_eq_some_iff.mp read with ⟨properties, -, read⟩
      cases read
      exact ⟨_, _, runner_read, engine_read⟩
    · cases read
  · cases h

/-- The memory limit of a settings file is a word. -/
theorem memoryLimit_le {text : String} {f : SettingsFile} (h : ofText text = .ok f) :
    f.runner.memoryLimit ≤ greatestWord := by
  obtain ⟨runner, -, read, -⟩ := sections_of_ofText h
  cases runner with
  | none => exact Option.some.inj read ▸ (by decide : 1024 ≤ greatestWord)
  | some v => exact le_of_runner read

theorem words_default : ({} : EngineDefaults).Words := ⟨by decide, by decide⟩

/-- The counts of a settings file are words. -/
theorem words_ofText {text : String} {f : SettingsFile} (h : ofText text = .ok f) :
    f.engine.Words := by
  obtain ⟨-, engine, -, read⟩ := sections_of_ofText h
  cases engine with
  | none => exact Option.some.inj read ▸ words_default
  | some v => exact words_of_engine read

end SettingsFile

end Microbench
