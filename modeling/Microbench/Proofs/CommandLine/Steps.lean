import Microbench.Proofs.CommandLine.Checked
import Microbench.Proofs.Decimal.Digits
import Microbench.Worker.Command

/-!
# Options read one by one

What reading an option adds to the line read so far. `Between` describes the reader where an option
may come next: what it has read is a line, as soon as the values that are pending are taken up.
-/

namespace Microbench

/-! ## Properties as arguments -/

namespace PropertyPair

theorem startsKey_ne {c : Char} (h : startsKey c = true) : c ≠ '=' ∧ c ≠ '-' := by
  constructor <;> rintro rfl <;> revert h <;> decide

theorem continuesKey_ne {c : Char} (h : continuesKey c = true) : c ≠ '=' := by
  rintro rfl
  revert h
  decide

theorem mem_key_ne {cs : List Char} (h : isKey cs = true) {c : Char} (mem : c ∈ cs) : c ≠ '=' := by
  cases cs with
  | nil => cases mem
  | cons d ds =>
    simp only [isKey, Bool.and_eq_true, List.all_eq_true] at h
    rcases List.mem_cons.mp mem with rfl | rest
    · exact (startsKey_ne h.1).1
    · exact continuesKey_ne (h.2 c rest)

theorem cutAtSign_append {key : List Char} (clean : ∀ c ∈ key, c ≠ '=') (value : List Char) :
    cutAtSign (key ++ '=' :: value) = some (key, value) := by
  induction key with
  | nil => rfl
  | cons c cs ih =>
    rw [List.cons_append, cutAtSign, if_neg (clean c List.mem_cons_self),
      ih fun d mem => clean d (List.mem_cons_of_mem c mem)]
    rfl

theorem toList_write (key value : String) :
    (write key value).toList = key.toList ++ '=' :: value.toList := by
  unfold write
  rw [String.toList_append, String.toList_append, List.append_assoc]
  rfl

/-- A property with a key for its name is read as it was written. -/
theorem read_write {key : String} (h : isKey key.toList = true) (value : String) :
    read (write key value) = .ok (key, value) := by
  unfold read
  rw [toList_write, cutAtSign_append fun _ => mem_key_ne h]
  simp only [h, if_true, String.ofList_toList]

end PropertyPair

namespace CommandLine

/-! ## Between options -/

/-- An option may come next, and what was read so far is a line with options. -/
structure Between (s : State) (line : CommandLine) (given : List Flag) : Prop where
  expecting : s.expecting = none
  settled : settle s = .ok { line, given }

theorem between_start : Between {} {} [] := ⟨rfl, rfl⟩

/-- Options with one more. -/
def withFlag (given : List Flag) (f : Flag) : List Flag :=
  if given.contains f then given else given ++ [f]

theorem mem_withFlag {given : List Flag} {f g : Flag} (h : g ∈ withFlag given f) :
    g ∈ given ∨ g = f := by
  unfold withFlag at h
  split at h
  · exact .inl h
  · rcases List.mem_append.mp h with before | last
    · exact .inl before
    · exact .inr (List.mem_singleton.mp last)

/-- The reader after an option that waits for a value. -/
def waiting (line : CommandLine) (given : List Flag) (o : ValueOption) : State :=
  { line, given, pending := some (.option o, []), expecting := some (.option o) }

/-- The reader after an option and its values. -/
def held (line : CommandLine) (given : List Flag) (o : ValueOption) (values : List String) : State :=
  { line, given, pending := some (.option o, values) }

theorem between_held {line line' : CommandLine} {given : List Flag} {o : ValueOption}
    {values : List String} (some : values ≠ [])
    (enough : ¬(o = .worker ∧ values.length < fewestWorkerArguments))
    (once : ¬(o.isSingle = true ∧ Flag.value o ∈ given))
    (taken : values.foldlM (takeValue · o ·) line = .ok line') :
    Between (held line given o values) line' (withFlag given (.value o)) := by
  refine ⟨rfl, ?_⟩
  have settled : settle (held line given o values) =
      takeValues { line, given } o values := rfl
  rw [settled]
  exact takeValues_eq_ok.mpr ⟨some, enough, once, line', taken, rfl⟩

theorem takeOption_of_between {s : State} {line : CommandLine} {given : List Flag}
    (between : Between s line given) (o : ValueOption) :
    takeOption s o none = .ok (waiting line given o) := by
  unfold takeOption
  rw [between.settled]
  rfl

/-- A text that is not taken for an option. -/
def Plain (argument : String) : Prop := argument.toList.head? ≠ some '-'

instance (argument : String) : Decidable (Plain argument) := inferInstanceAs (Decidable (_ ≠ _))

/-- An argument that an option waits for goes to it, unless it looks like an option itself. -/
theorem readFrom_value {s : State} {o : ValueOption} {values : List String} {argument : String}
    (taker : s.expecting = some (.option o)) (pending : s.pending = some (.option o, values))
    (plain : Plain argument) (rest : List String) :
    readFrom s (argument :: rest) = readFrom { s with
      pending := some (.option o, values ++ [argument])
      expecting := if takesMore o then s.expecting else none } rest := by
  have taken : takeArgument s argument = .ok { s with
      pending := some (.option o, values ++ [argument])
      expecting := if takesMore o then s.expecting else none } := by
    unfold takeArgument
    rw [taker, pending]
  rw [readFrom]
  rw [if_neg (by simp [taker])]
  unfold Plain at plain
  split
  · rename_i eq
    rw [eq] at plain
    exact absurd rfl plain
  · rename_i eq
    rw [eq] at plain
    exact absurd rfl plain
  · rename_i eq
    rw [eq] at plain
    exact absurd rfl plain
  · rw [taken]
    rfl

/-- A long option by its name alone. -/
theorem readFrom_long {s : State} {argument : String} (name : String) {c : Char} {cs : List Char}
    (spelled : argument.toList = '-' :: '-' :: c :: cs) (cut : cutLong (c :: cs) = (name, none))
    (ordinary : commandNames.contains argument = false) (rest : List String) :
    readFrom s (argument :: rest) = (takeLong s name none >>= fun t => readFrom t rest) := by
  rw [readFrom, if_neg (by rw [ordinary, Bool.and_false]; decide), spelled]
  simp only [cut]

/-- Short options. -/
theorem readFrom_short {s : State} {argument : String} (c : Char) (cs : List Char)
    (spelled : argument.toList = '-' :: c :: cs) (short : c ≠ '-')
    (ordinary : commandNames.contains argument = false) (rest : List String) :
    readFrom s (argument :: rest) = (takeShorts s (c :: cs) >>= fun t => readFrom t rest) := by
  rw [readFrom, if_neg (by rw [ordinary, Bool.and_false]; decide), spelled]
  split
  · rename_i eq
    simp only [List.cons.injEq, true_and] at eq
    exact absurd eq.1 short
  · rename_i eq
    simp only [List.cons.injEq, true_and] at eq
    exact absurd eq.1 short
  · rename_i eq
    simp only [List.cons.injEq, true_and] at eq
    rcases eq with ⟨rfl, rfl⟩
    rfl
  · rename_i other
    exact absurd rfl (other c cs)

/-! ## The options of a worker -/

theorem plain_write {key : String} (h : PropertyPair.isKey key.toList = true) (value : String) :
    Plain (PropertyPair.write key value) := by
  unfold Plain
  rw [PropertyPair.toList_write]
  generalize key.toList = cs at h
  cases cs with
  | nil => cases h
  | cons c cs =>
    simp only [PropertyPair.isKey, Bool.and_eq_true] at h
    intro first
    cases first
    exact (PropertyPair.startsKey_ne h.1).2 rfl

/-- A property whose name is a key is added to the line. -/
theorem readFrom_property {s : State} {line : CommandLine} {given : List Flag}
    (between : Between s line given) {key : String} (h : PropertyPair.isKey key.toList = true)
    (value : String) (rest : List String) :
    ∃ t, readFrom s ("-D" :: PropertyPair.write key value :: rest) = readFrom t rest ∧
      Between t { line with properties := line.properties ++ [(key, value)] }
        (withFlag given (.value .property)) := by
  refine ⟨held line given .property [PropertyPair.write key value], ?_, ?_⟩
  · have waits : takeShorts s ['D'] = .ok (waiting line given .property) :=
      takeOption_of_between between .property
    rw [readFrom_short 'D' [] rfl (by decide) (by decide), waits]
    exact readFrom_value (s := waiting line given .property) rfl rfl (plain_write h value) rest
  · apply between_held (by simp) (by simp) (by simp [ValueOption.isSingle])
    rw [List.foldlM_cons]
    unfold takeValue
    simp only [PropertyPair.read_write h value]
    rfl

theorem readFrom_properties {es : List (String × String)}
    (valid : ∀ e ∈ es, PropertyPair.isKey e.1.toList = true) (rest : List String) {s : State}
    {line : CommandLine} {given : List Flag} (between : Between s line given) :
    ∃ t given', readFrom s
        ((es.flatMap fun e => ["-D", PropertyPair.write e.1 e.2]) ++ rest) =
          readFrom t rest ∧
      Between t { line with properties := line.properties ++ es } given' ∧
      ∀ f ∈ given', f ∈ given ∨ f = .value .property := by
  induction es generalizing s line given with
  | nil =>
    refine ⟨s, given, rfl, ?_, fun f mem => .inl mem⟩
    rw [List.append_nil]
    exact between
  | cons e es ih =>
    rcases e with ⟨key, value⟩
    obtain ⟨t, read, next⟩ := readFrom_property between (valid (key, value) List.mem_cons_self) value
      ((es.flatMap fun e => ["-D", PropertyPair.write e.1 e.2]) ++ rest)
    obtain ⟨u, given', others, last, flags⟩ :=
      ih (fun e mem => valid e (List.mem_cons_of_mem _ mem)) next
    refine ⟨u, given', ?_, ?_, ?_⟩
    · rw [← others, ← read]
      rfl
    · have all : line.properties ++ (key, value) :: es = line.properties ++ [(key, value)] ++ es := by
        rw [List.append_assoc]
        rfl
      rw [all]
      exact last
    · intro f mem
      rcases flags f mem with before | property
      · exact mem_withFlag before
      · exact .inr property

theorem readFrom_verbose {s : State} {line : CommandLine} {given : List Flag}
    (between : Between s line given) (first : Flag.switch .verbose ∉ given) (rest : List String) :
    ∃ t, readFrom s ("--verbose" :: rest) = readFrom t rest ∧
      Between t { line with verbose := true } (given ++ [.switch .verbose]) := by
  refine ⟨{ line := { line with verbose := true }, given := given ++ [.switch .verbose] }, ?_,
    rfl, rfl⟩
  have on : takeLong s "verbose" none =
      .ok { line := { line with verbose := true }, given := given ++ [.switch .verbose] } := by
    have once : given.contains (Flag.switch .verbose) = false := by simpa using first
    show turnOn s .verbose = _
    unfold turnOn
    rw [between.settled]
    simp only [bind, Except.bind, once]
    rfl
  rw [readFrom_long "verbose" rfl rfl (by decide), on]
  rfl

theorem readFrom_memoryLimit {s : State} {line : CommandLine} {given : List Flag}
    (between : Between s line given) (first : Flag.value .memoryLimit ∉ given) {n : Nat}
    (word : n ≤ greatestWord) (rest : List String) :
    ∃ t, readFrom s ("--memory-limit-mb" :: Decimal.text n :: rest) = readFrom t rest ∧
      Between t { line with memoryLimit := some n } (withFlag given (.value .memoryLimit)) := by
  refine ⟨held line given .memoryLimit [Decimal.text n], ?_, ?_⟩
  · have waits : takeLong s "memory-limit-mb" none = .ok (waiting line given .memoryLimit) :=
      takeOption_of_between between .memoryLimit
    have plain : Plain (Decimal.text n) := by
      unfold Plain
      rw [Decimal.toList_text]
      intro first
      have digit := Decimal.isDigit_of_mem_digits (List.mem_of_mem_head? first)
      revert digit
      decide
    rw [readFrom_long "memory-limit-mb" rfl rfl (by decide), waits]
    exact readFrom_value (s := waiting line given .memoryLimit) rfl rfl plain rest
  · refine between_held (by simp) (by simp) (fun again => first again.2) ?_
    have read : readCount .memoryLimit (Decimal.text n) = .ok n := by
      unfold readCount
      rw [Decimal.readUnsigned_text word]
    rw [List.foldlM_cons]
    unfold takeValue
    simp only [read]
    rfl

/-- The four values of a worker end its line. -/
theorem readFrom_worker {s : State} {line : CommandLine} {given : List Flag}
    (between : Between s line given) (fresh : line.worker = none) {a b c d : String}
    (plain : ∀ argument ∈ [a, b, c, d], Plain argument) :
    readFrom s [WorkerCommand.workerFlag, a, b, c, d] =
      .ok { line with worker := some [a, b, c, d] } := by
  have waits : takeLong s "suite-worker" none = .ok (waiting line given .worker) :=
    takeOption_of_between between .worker
  have taken : [a, b, c, d].foldlM (takeValue · .worker ·) line =
      .ok { line with worker := some [a, b, c, d] } := by
    show Except.ok _ = Except.ok _
    rw [fresh]
    rfl
  have fewest : ¬([a, b, c, d].length < fewestWorkerArguments) := Nat.lt_irrefl 4
  have settled : takeValues { waiting line given .worker with pending := none } .worker [a, b, c, d] =
      .ok { waiting line given .worker with
        pending := none
        line := { line with worker := some [a, b, c, d] }
        given := withFlag given (.value .worker) } :=
    takeValues_eq_ok.mpr ⟨by simp, fun short => fewest short.2, by simp [ValueOption.isSingle], _,
      taken, rfl⟩
  have plain_of {argument : String} (mem : argument ∈ [a, b, c, d]) := plain argument mem
  rw [WorkerCommand.workerFlag, readFrom_long "suite-worker" rfl rfl (by decide), waits]
  show readFrom (waiting line given .worker) [a, b, c, d] = _
  rw [readFrom_value (s := waiting line given .worker) rfl rfl (plain_of (by simp)),
    readFrom_value rfl rfl (plain_of (by simp)), readFrom_value rfl rfl (plain_of (by simp)),
    readFrom_value rfl rfl (plain_of (by simp))]
  show (takeValues { waiting line given .worker with pending := none } .worker [a, b, c, d] >>=
    fun t => .ok t.line) = _
  rw [settled]
  rfl

end CommandLine

end Microbench
