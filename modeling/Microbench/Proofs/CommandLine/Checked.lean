import Microbench.CommandLine.Reader

/-!
# What is checked of command lines

Every command line that is read has only properties whose names are keys, and numbers of 64 bits:
`checked_ofArguments`. Each step of the reader keeps that of the line read so far; values that
are pending are not part of it yet.
-/

namespace Microbench

theorem exists_of_bind_ok {ε α β : Type} {x : Except ε α} {f : α → Except ε β} {b : β}
    (h : (x >>= f) = .ok b) : ∃ a, x = .ok a ∧ f a = .ok b := by
  cases x with
  | error e => cases h
  | ok a => exact ⟨a, rfl, h⟩

theorem PropertyPair.isKey_of_read {text key value : String}
    (h : PropertyPair.read text = .ok (key, value)) : PropertyPair.isKey key.toList = true := by
  unfold PropertyPair.read at h
  split at h
  · cases h
  · split at h
    · rename_i valid
      cases h
      rwa [String.toList_ofList]
    · cases h

theorem Decimal.le_of_readUnsigned {limit n : Nat} {s : String}
    (h : Decimal.readUnsigned limit s = some n) : n ≤ limit := by
  unfold Decimal.readUnsigned at h
  simp only [Option.ite_none_left_eq_some, Option.ite_none_right_eq_some, Option.some.injEq] at h
  rcases h with ⟨-, fits, rfl⟩
  exact fits

namespace CommandLine

/-- A line whose properties have keys for names and whose numbers are words. -/
structure Checked (line : CommandLine) : Prop where
  keys : ∀ p ∈ line.properties, PropertyPair.isKey p.1.toList = true
  memory : ∀ n, line.memoryLimit = some n → n ≤ greatestWord
  calls : ∀ n, line.calls = some n → n ≤ greatestWord
  repetitions : ∀ n, line.repetitions = some n → n ≤ greatestWord

theorem checked_empty : Checked {} where
  keys p mem := by cases mem
  memory n some := by cases some
  calls n some := by cases some
  repetitions n some := by cases some

theorem le_of_readCount {o : ValueOption} {text : String} {n : Nat}
    (h : readCount o text = .ok n) : n ≤ greatestWord := by
  unfold readCount at h
  split at h
  · rename_i read
    cases h
    exact Decimal.le_of_readUnsigned read
  · cases h

/-! ## Values -/

theorem checked_takeValue {line line' : CommandLine} {o : ValueOption} {text : String}
    (checked : Checked line) (h : takeValue line o text = .ok line') : Checked line' := by
  rcases checked with ⟨keys, memory, calls, repetitions⟩
  cases o with
  | property =>
    unfold takeValue at h
    simp only at h
    split at h
    · rename_i p read
      cases h
      refine ⟨?_, memory, calls, repetitions⟩
      intro q mem
      rcases List.mem_append.mp mem with before | last
      · exact keys q before
      · rcases List.mem_singleton.mp last with rfl
        exact PropertyPair.isKey_of_read read
    · cases h
  | memoryLimit =>
    rcases exists_of_bind_ok h with ⟨n, read, taken⟩
    cases taken
    refine ⟨keys, ?_, calls, repetitions⟩
    intro k some
    cases some
    exact le_of_readCount read
  | calls =>
    rcases exists_of_bind_ok h with ⟨n, read, taken⟩
    cases taken
    refine ⟨keys, memory, ?_, repetitions⟩
    intro k some
    cases some
    exact le_of_readCount read
  | repetitions =>
    rcases exists_of_bind_ok h with ⟨n, read, taken⟩
    cases taken
    refine ⟨keys, memory, calls, ?_⟩
    intro k some
    cases some
    exact le_of_readCount read
  | output =>
    unfold takeValue at h
    simp only at h
    split at h
    · cases h
    · cases h
      exact ⟨keys, memory, calls, repetitions⟩
  | warmupDelay =>
    cases h
    exact ⟨keys, memory, calls, repetitions⟩
  | filter =>
    cases h
    exact ⟨keys, memory, calls, repetitions⟩
  | worker =>
    cases h
    exact ⟨keys, memory, calls, repetitions⟩

theorem checked_foldlM {o : ValueOption} (values : List String) {line line' : CommandLine}
    (checked : Checked line) (h : values.foldlM (takeValue · o ·) line = .ok line') :
    Checked line' := by
  induction values generalizing line with
  | nil =>
    cases h
    exact checked
  | cons value values ih =>
    rw [List.foldlM_cons] at h
    rcases exists_of_bind_ok h with ⟨next, taken, rest⟩
    exact ih (checked_takeValue checked taken) rest

/-- What values of an option lead to, if they can be taken up. -/
theorem takeValues_eq_ok {s t : State} {o : ValueOption} {values : List String} :
    takeValues s o values = .ok t ↔
      values ≠ [] ∧ ¬(o = .worker ∧ values.length < fewestWorkerArguments) ∧
        ¬(o.isSingle = true ∧ Flag.value o ∈ s.given) ∧
        ∃ line, values.foldlM (takeValue · o ·) s.line = .ok line ∧
          t = { s with
            line
            given := if s.given.contains (.value o) then s.given else s.given ++ [.value o] } := by
  unfold takeValues
  by_cases none : values = []
  · rw [if_pos (by simp [none])]
    refine ⟨fun h => ?_, fun h => absurd none h.1⟩
    cases h
  rw [if_neg (by simp [none])]
  by_cases short : o = .worker ∧ values.length < fewestWorkerArguments
  · rw [if_pos (by simpa using short)]
    refine ⟨fun h => ?_, fun h => absurd short h.2.1⟩
    cases h
  rw [if_neg (by simpa using short)]
  by_cases again : o.isSingle = true ∧ Flag.value o ∈ s.given
  · rw [if_pos (by simpa using again)]
    refine ⟨fun h => ?_, fun h => absurd again h.2.2.1⟩
    cases h
  rw [if_neg (by simpa using again)]
  constructor
  · intro h
    rcases exists_of_bind_ok h with ⟨line, folded, taken⟩
    cases taken
    exact ⟨none, short, again, line, folded, rfl⟩
  · rintro ⟨-, -, -, line, folded, rfl⟩
    rw [folded]
    rfl

theorem checked_takeValues {s t : State} {o : ValueOption} {values : List String}
    (checked : Checked s.line) (h : takeValues s o values = .ok t) : Checked t.line := by
  rcases takeValues_eq_ok.mp h with ⟨-, -, -, line, folded, rfl⟩
  exact checked_foldlM values checked folded

theorem checked_settle {s t : State} (checked : Checked s.line) (h : settle s = .ok t) :
    Checked t.line := by
  unfold settle at h
  split at h
  · cases h
    exact checked
  · cases h
    exact ⟨checked.keys, checked.memory, checked.calls, checked.repetitions⟩
  · exact checked_takeValues (s := { s with pending := none }) checked h

/-! ## Arguments -/

theorem checked_turnOn {s t : State} {w : Switch} (checked : Checked s.line)
    (h : turnOn s w = .ok t) : Checked t.line := by
  unfold turnOn at h
  rcases exists_of_bind_ok h with ⟨u, settled, turned⟩
  have kept := checked_settle checked settled
  cases w with
  | help => cases turned
  | version => cases turned
  | inProcess =>
    rcases exists_of_bind_ok turned with ⟨-, -, on⟩
    cases on
    exact ⟨kept.keys, kept.memory, kept.calls, kept.repetitions⟩
  | verbose =>
    rcases exists_of_bind_ok turned with ⟨-, -, on⟩
    cases on
    exact ⟨kept.keys, kept.memory, kept.calls, kept.repetitions⟩

theorem checked_takeOption {s t : State} {o : ValueOption} {attached : Option String}
    (checked : Checked s.line) (h : takeOption s o attached = .ok t) : Checked t.line := by
  unfold takeOption at h
  rcases exists_of_bind_ok h with ⟨u, settled, taken⟩
  have kept := checked_settle checked settled
  cases attached with
  | none =>
    cases taken
    exact kept
  | some text => exact checked_takeValues (s := { u with expecting := none }) kept taken

theorem checked_takeLong {s t : State} {name : String} {attached : Option String}
    (checked : Checked s.line) (h : takeLong s name attached = .ok t) : Checked t.line := by
  unfold takeLong at h
  split at h
  · exact checked_takeOption checked h
  · exact checked_turnOn checked h
  · cases h
  · cases h

theorem checked_takeShorts (cs : List Char) {s t : State} (checked : Checked s.line)
    (h : takeShorts s cs = .ok t) : Checked t.line := by
  induction cs generalizing s with
  | nil =>
    cases h
    exact checked
  | cons c rest ih =>
    unfold takeShorts at h
    split at h
    · rcases exists_of_bind_ok h with ⟨u, turned, others⟩
      exact ih (checked_turnOn checked turned) others
    · exact checked_takeOption checked h
    · cases h

theorem checked_takeArgument {s t : State} {argument : String} (checked : Checked s.line)
    (h : takeArgument s argument = .ok t) : Checked t.line := by
  unfold takeArgument at h
  split at h
  · cases h
    exact checked
  · cases h
    exact checked
  · rcases exists_of_bind_ok h with ⟨u, settled, taken⟩
    have kept : Checked u.line := checked_settle checked settled
    cases taken
    exact kept

/-! ## Lines -/

theorem checked_finish {s : State} {line : CommandLine} (checked : Checked s.line)
    (h : finish s = .ok line) : Checked line := by
  rcases exists_of_bind_ok h with ⟨t, settled, done⟩
  cases done
  exact checked_settle checked settled

theorem checked_takeCommand {s : State} {name : String} {rest : List String} {line : CommandLine}
    (checked : Checked s.line) (h : takeCommand s name rest = .ok line) : Checked line := by
  have last {command : Command} (taken : (do
      let s ← settle s
      return { s.line with command := some command }) = Except.ok line) : Checked line := by
    rcases exists_of_bind_ok taken with ⟨t, settled, done⟩
    have kept := checked_settle checked settled
    cases done
    exact ⟨kept.keys, kept.memory, kept.calls, kept.repetitions⟩
  unfold takeCommand at h
  split at h
  · cases h
  · split at h
    · rcases exists_of_bind_ok h with ⟨force, -, taken⟩
      exact last taken
    · rcases exists_of_bind_ok h with ⟨-, -, taken⟩
      exact last taken

theorem checked_readTrailing (arguments : List String) {s : State} {line : CommandLine}
    (checked : Checked s.line) (h : readTrailing s arguments = .ok line) : Checked line := by
  induction arguments generalizing s with
  | nil => exact checked_finish checked h
  | cons argument rest ih =>
    unfold readTrailing at h
    rcases exists_of_bind_ok h with ⟨t, taken, others⟩
    exact ih (checked_takeArgument (s := { s with expecting := none }) checked taken) others

theorem checked_readFrom (arguments : List String) {s : State} {line : CommandLine}
    (checked : Checked s.line) (h : readFrom s arguments = .ok line) : Checked line := by
  induction arguments generalizing s with
  | nil => exact checked_finish checked h
  | cons argument rest ih =>
    unfold readFrom at h
    split at h
    · exact checked_takeCommand checked h
    · split at h
      · exact checked_readTrailing rest checked h
      · rcases exists_of_bind_ok h with ⟨t, taken, others⟩
        exact ih (checked_takeLong checked taken) others
      · rcases exists_of_bind_ok h with ⟨t, taken, others⟩
        exact ih (checked_takeShorts _ checked taken) others
      · rcases exists_of_bind_ok h with ⟨t, taken, others⟩
        exact ih (checked_takeArgument checked taken) others

/-- Every command line that is read has keys for the names of its properties and numbers of 64
bits. -/
theorem checked_ofArguments {arguments : List String} {line : CommandLine}
    (h : ofArguments arguments = .ok line) : Checked line :=
  checked_readFrom arguments checked_empty h

end CommandLine

end Microbench
