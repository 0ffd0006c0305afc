import Microbench.CommandLine.Run
import Microbench.Proofs.Binary64.Products
import Microbench.Proofs.Decimal.RoundTrip
import Microbench.Proofs.Text.Parts

/-!
# What durations are read as

A decimal number goes to the nearest float, the product with the nanoseconds of the unit to the nearest
float again, and the part of a nanosecond in that is dropped. A text that stands for whole nanoseconds
is read as one of the three numbers around them, and so `4.1s` is a nanosecond short:
`read_near` says how far off a text may be and when it is not.
-/

namespace Microbench.Duration

open Binary64 Decimal

/-! ## Texts of durations -/

/-- A decimal number with its value: digits, and maybe a point with more digits behind it. -/
inductive Number : List Char → ℚ → Prop where
  | whole {ds : List Char} (digital : ds.all isDigit = true) (some : ds ≠ []) : Number ds (value ds)
  | point {ws ps : List Char} (whole : ws.all isDigit = true) (part : ps.all isDigit = true)
    (some : ws ≠ []) (more : ps ≠ []) : Number (ws ++ '.' :: ps) (value (ws ++ ps) / 10 ^ ps.length)

/-- The units that have a name of their own, with their nanoseconds. -/
def units : List (String × Nat) :=
  [("ns", 1), ("us", 1000), ("ms", 1000000), ("s", 1000000000), ("m", 60000000000)]

section Texts

variable {cs : List Char} {q : ℚ}

theorem Number.spells (number : Number cs q) : Spells cs q := by
  cases number with
  | whole digital some => exact spells_digits digital some
  | point whole part some more =>
    have spelled := spells_point whole part some
    rwa [zpow_neg, zpow_natCast, ← div_eq_mul_inv] at spelled

theorem Number.of_mem (number : Number cs q) {c : Char} (mem : c ∈ cs) :
    isDigit c = true ∨ c = '.' := by
  cases number with
  | whole digital some => exact .inl (List.all_eq_true.mp digital c mem)
  | point whole part some more =>
    rcases List.mem_append.mp mem with front | back
    · exact .inl (List.all_eq_true.mp whole c front)
    · rcases List.mem_cons.mp back with rfl | back
      · exact .inr rfl
      · exact .inl (List.all_eq_true.mp part c back)

theorem isAlphabetic_of_isDigit {c : Char} (h : isDigit c = true) : Text.isAlphabetic c = false := by
  unfold isDigit digit? at h
  split at h
  · rename_i digit
    have ascii : c.toNat < 128 := lt_of_le_of_lt (show c.toNat ≤ 57 from digit.2) (by decide)
    have lower : ¬ 'a' ≤ c := fun letter => absurd (le_trans letter digit.2) (by decide)
    have upper : ¬ 'A' ≤ c := fun letter => absurd (le_trans letter digit.2) (by decide)
    unfold Text.isAlphabetic Text.isAsciiLetter
    simp only [ascii, if_true, lower, upper, decide_false, Bool.false_and, Bool.or_self]
  · cases h

theorem Number.not_alphabetic (number : Number cs q) {c : Char} (mem : c ∈ cs) :
    Text.isAlphabetic c = false := by
  rcases number.of_mem mem with digit | rfl
  · exact isAlphabetic_of_isDigit digit
  · decide

theorem Number.ink (number : Number cs q) {c : Char} (mem : c ∈ cs) : Text.isBlank c = false := by
  rcases number.of_mem mem with digit | rfl
  · exact isBlank_of_isDigit digit
  · decide

/-- What is asked of a unit for a number in front of it to be told from it. -/
structure Named (unit : String) (u : Nat) : Prop where
  letter : ∃ c rest, unit.toList = c :: rest ∧ Text.isAlphabetic c = true
  ink : unit.toList.all (!Text.isBlank ·) = true
  known : unit? unit = some u

theorem named_of_mem {unit : String} {u : Nat} (mem : (unit, u) ∈ units) : Named unit u := by
  simp only [units, List.mem_cons, List.not_mem_nil, or_false, Prod.mk.injEq] at mem
  rcases mem with ⟨rfl, rfl⟩ | ⟨rfl, rfl⟩ | ⟨rfl, rfl⟩ | ⟨rfl, rfl⟩ | ⟨rfl, rfl⟩
  all_goals exact ⟨⟨_, _, rfl, by decide⟩, by decide, rfl⟩

/-- The number and the unit of a text are told apart. -/
theorem split_append (number : Number cs q) {unit : String} {u : Nat} (known : Named unit u) :
    split (cs ++ unit.toList) = (String.ofList cs, unit) := by
  obtain ⟨c, rest, letters, letter⟩ := known.letter
  have taken : (cs ++ unit.toList).takeWhile (!Text.isAlphabetic ·) = cs := by
    rw [List.takeWhile_append_of_pos fun c mem => by rw [number.not_alphabetic mem]; rfl, letters,
      List.takeWhile_cons_of_neg (by rw [letter]; decide), List.append_nil]
  have some : unit.toList.isEmpty = false := by rw [letters]; rfl
  unfold split
  simp only [taken, List.drop_left, some, Bool.false_eq_true, if_false, String.ofList_toList]

/-- A text is read as the float nearest to its number times the nanoseconds of its unit. -/
theorem read_append (number : Number cs q) {unit : String} {u : Nat} (known : Named unit u) :
    ∃ l : Literal, l.negative = false ∧ l.ratio = q ∧ (¬l.toFloat < 0.0 →
      read (String.ofList cs ++ unit) = .ok (nanoseconds l.toFloat u)) := by
  obtain ⟨⟨c, rest, shape, digit⟩, reads⟩ := number.spells
  obtain ⟨l, literal, plus, ratio⟩ := reads false
  refine ⟨l, plus, ratio, fun sign => ?_⟩
  have characters : (String.ofList cs ++ unit).toList = cs ++ unit.toList := by
    rw [String.toList_append, String.toList_ofList]
  have trimmed : Text.trim (String.ofList cs ++ unit) = String.ofList cs ++ unit := by
    refine Text.trim_of_ink fun d mem => ?_
    rw [characters] at mem
    rcases List.mem_append.mp mem with front | back
    · exact number.ink front
    · simpa using List.all_eq_true.mp known.ink d back
  have trimmed_number : Text.trim (String.ofList cs) = String.ofList cs :=
    Text.trim_of_ink fun d mem => number.ink (by rwa [String.toList_ofList] at mem)
  have nonempty : (String.ofList cs ++ unit).isEmpty = false := by
    rw [Bool.eq_false_iff, ne_eq, String.isEmpty_iff, ← String.toList_eq_nil_iff, characters, shape]
    exact List.cons_ne_nil _ _
  have float : readFloat (String.ofList cs) = some l.toFloat := by
    have signed : readFloat (if false then "-" ++ String.ofList (c :: rest)
        else String.ofList (c :: rest)) = (literal? false (c :: rest)).map (·.toFloat) :=
      readFloat_signed digit false
    rw [if_neg Bool.false_ne_true, ← shape, literal] at signed
    exact signed
  unfold read
  simp only [trimmed, nonempty, characters, split_append number known, trimmed_number, float, known.known,
    sign, Bool.false_eq_true, if_false]

end Texts

/-! ## Nanoseconds -/

/-- What is read of a number `q` of units that comes to `n` nanoseconds. -/
structure Near (q : ℚ) (u n read : Nat) : Prop where
  /-- It is the whole part of what has been rounded twice, and rounding the number away from zero or
  towards it says to which side it can be off. -/
  rounded : ∃ v w, NearestValue q v ∧ NearestValue (v * u) w ∧ read = ⌊w⌋₊ ∧
    (q ≤ v → n ≤ read) ∧ (v ≤ q → read ≤ n)
  within : n ≤ read + 1 ∧ read ≤ n + 1
  not_late : n < 2 ^ 52 → read ≤ n
  /-- Of numbers that are floats nothing is lost. -/
  faithful : ∀ (a : Nat) (f : Int), a ≤ 2 ^ 53 → leastExponent ≤ f → q = a * 2 ^ f → read = n

section Nanoseconds

variable {q v w : ℚ} {u n : Nat}

theorem near_of_rounded (value : q * u = n) (small : n < 2 ^ 53) (first : NearestValue q v)
    (second : NearestValue (v * u) w) (error : |v - q| ≤ q / 2 ^ 53) : Near q u n ⌊w⌋₊ := by
  have size : (n : ℚ) + 1 ≤ 2 ^ 53 := by exact_mod_cast small
  have product : |v * u - n| ≤ n / 2 ^ 53 := calc
    |v * u - n| = |v - q| * u := by rw [← value, ← sub_mul, abs_mul, Nat.abs_cast]
    _ ≤ q / 2 ^ 53 * u := by gcongr
    _ = n / 2 ^ 53 := by rw [← value]; ring
  obtain ⟨low, high⟩ := abs_le.mp product
  have nonneg := second.nonneg
  -- whole numbers are floats, so that rounding the product does not pass them
  have at_least {k : Nat} (few : k ≤ 2 ^ 53) (le : (k : ℚ) ≤ v * u) : k ≤ ⌊w⌋₊ := by
    have grid := second.le_of_grid (f := 0) few (by decide) (by rwa [zpow_zero, mul_one])
    rw [zpow_zero, mul_one] at grid
    exact Nat.le_floor grid
  have at_most {k : Nat} (few : k ≤ 2 ^ 53) (le : v * u ≤ k) : ⌊w⌋₊ ≤ k := by
    have grid := second.grid_le (f := 0) few (by decide) (by rwa [zpow_zero, mul_one])
    rw [zpow_zero, mul_one] at grid
    exact Nat.floor_le_of_le grid
  have up (away : q ≤ v) : n ≤ ⌊w⌋₊ := at_least (by omega) (by rw [← value]; gcongr)
  have down (towards : v ≤ q) : ⌊w⌋₊ ≤ n := at_most (by omega) (by rw [← value]; gcongr)
  refine ⟨⟨v, w, first, second, rfl, up, down⟩, ⟨?_, ?_⟩, fun short => ?_, fun a f few least float => ?_⟩
  · rcases Nat.eq_zero_or_pos n with rfl | some
    · exact Nat.zero_le _
    · have before : n - 1 ≤ ⌊w⌋₊ := by
        refine at_least (by omega) ?_
        rw [Nat.cast_pred some]
        linarith
      omega
  · refine at_most (by omega) ?_
    push_cast
    linarith
  · -- half a nanosecond more would still be a float
    have size' : (n : ℚ) + 1 ≤ 2 ^ 52 := by exact_mod_cast short
    have half : ((2 * n + 1 : Nat) : ℚ) * 2 ^ (-1 : Int) = n + 1 / 2 := by
      push_cast
      rw [zpow_neg_one]
      ring
    have grid := second.grid_le (a := 2 * n + 1) (f := -1) (by omega) (by decide)
      (by rw [half]; linarith)
    rw [half] at grid
    exact Nat.lt_succ_iff.mp ((Nat.floor_lt nonneg).mpr (by push_cast; linarith))
  · have low := first.le_of_grid few least float.ge
    have high := first.grid_le few least float.le
    rw [← float] at low high
    exact le_antisymm (down high) (up low)

theorem nearestValue_zero : NearestValue 0 0 :=
  ⟨0, leastExponent, ⟨by decide, le_refl _, by decide, .inr rfl⟩,
    ⟨by
      have reach := reachBelow_pos 0 leastExponent
      have scale := two_zpow_pos leastExponent
      rw [Nat.cast_zero, zero_sub]
      nlinarith, by positivity, fun odd => by omega, fun odd => by omega⟩,
    by rw [Nat.cast_zero, zero_mul]⟩

theorem near_zero (u : Nat) : Near 0 u 0 0 := by
  have near : Near 0 u 0 ⌊(0 : ℚ)⌋₊ :=
    near_of_rounded (by rw [zero_mul, Nat.cast_zero]) (by decide) nearestValue_zero
      (by rw [zero_mul]; exact nearestValue_zero) (by simp)
  rwa [Nat.floor_zero] at near

/-- The nanoseconds of a unit are a float that fills its mantissa. -/
theorem decode_unit {unit : String} (mem : (unit, u) ∈ units) :
    0 < u ∧ u ≤ 2 ^ 36 ∧ nanoseconds 0.0 u = 0 ∧
      ∃ m e, decode (Float.ofNat u) = .finite false m e ∧ (m : ℚ) * 2 ^ e = u ∧ 2 ^ 52 ≤ m ∧
        -52 ≤ e ∧ e ≤ 0 := by
  simp only [units, List.mem_cons, List.not_mem_nil, or_false, Prod.mk.injEq] at mem
  rcases mem with ⟨-, rfl⟩ | ⟨-, rfl⟩ | ⟨-, rfl⟩ | ⟨-, rfl⟩ | ⟨-, rfl⟩
  · exact ⟨by decide, by decide, by decide +kernel, 1 * 2 ^ 52, -52, rfl, by norm_num, by decide,
      by decide, by decide⟩
  · exact ⟨by decide, by decide, by decide +kernel, 1000 * 2 ^ 43, -43, rfl, by norm_num, by decide,
      by decide, by decide⟩
  · exact ⟨by decide, by decide, by decide +kernel, 1000000 * 2 ^ 33, -33, rfl, by norm_num,
      by decide, by decide, by decide⟩
  · exact ⟨by decide, by decide, by decide +kernel, 1000000000 * 2 ^ 23, -23, rfl, by norm_num,
      by decide, by decide, by decide⟩
  · exact ⟨by decide, by decide, by decide +kernel, 60000000000 * 2 ^ 17, -17, rfl, by norm_num,
      by decide, by decide, by decide⟩

/-- A number of units that are some nanoseconds, but not none, is neither tiny nor large. -/
theorem number_bounds (value : q * u = n) (some : 0 < n) (small : n < 2 ^ 53) (unit : 0 < u)
    (word : u ≤ 2 ^ 36) : (2 : ℚ) ^ (-36 : Int) ≤ q ∧ q < 2 ^ (53 : Int) := by
  have u_one : (1 : ℚ) ≤ u := by exact_mod_cast unit
  have u_word : (u : ℚ) ≤ 2 ^ 36 := by exact_mod_cast word
  have n_one : (1 : ℚ) ≤ n := by exact_mod_cast some
  have n_small : (n : ℚ) < 2 ^ 53 := by exact_mod_cast small
  have number : q = n / u := eq_div_of_mul_eq (by positivity) value
  rw [number]
  constructor
  · calc (2 : ℚ) ^ (-36 : Int) = 1 / 2 ^ 36 := by rw [zpow_neg, one_div]; rfl
      _ ≤ n / u := by gcongr
  · calc (n : ℚ) / u ≤ n := div_le_self (by positivity) u_one
      _ < 2 ^ (53 : Int) := n_small

/-- A number that is neither tiny nor large goes to the nearest float. -/
theorem decode_literal {l : Literal} (plus : l.negative = false) (some : 0 < l.coefficient)
    (low : (2 : ℚ) ^ (-36 : Int) ≤ l.ratio) (high : l.ratio < 2 ^ (53 : Int)) :
    ∃ m e, decode l.toFloat = .finite false m e ∧ NearestValue l.ratio (m * 2 ^ e) ∧ 2 ^ 52 ≤ m ∧
      -88 ≤ e ∧ e ≤ 1 := by
  obtain ⟨num, den, positive, read, ratio⟩ := toFloat_eq_nearest some
    ((le_two_zpow (by decide)).trans low) (high.trans_le (two_pow_le (by decide)))
  rw [← ratio] at low high ⊢
  rw [read, plus]
  exact decode_nearest positive low high (by decide) (by decide)

theorem near_of_literal {l : Literal} (plus : l.negative = false) {unit : String}
    (known : (unit, u) ∈ units) (value : l.ratio * u = n) (small : n < 2 ^ 53) :
    ¬l.toFloat < 0.0 ∧ Near l.ratio u n (nanoseconds l.toFloat u) := by
  obtain ⟨unit_pos, unit_word, nothing, m', e', decoded', value', full', low', high'⟩ :=
    decode_unit known
  rcases Nat.eq_zero_or_pos l.coefficient with none | some
  · have zero : l.ratio = 0 := by
      unfold Literal.ratio
      rw [none, Nat.cast_zero, zero_mul]
    have float : l.toFloat = 0.0 := by
      refine toFloat_zero (e := leastExponent) ?_ none
      rw [plus]
      rfl
    obtain rfl : n = 0 := by
      rw [zero, zero_mul] at value
      exact_mod_cast value.symm
    rw [float, zero, nothing]
    exact ⟨by decide +kernel, near_zero u⟩
  · have positive : 0 < l.ratio := by
      unfold Literal.ratio
      positivity
    have some_n : 0 < n := by
      have : (0 : ℚ) < n := value ▸ mul_pos positive (by exact_mod_cast unit_pos)
      exact_mod_cast this
    obtain ⟨low, high⟩ := number_bounds value some_n small unit_pos unit_word
    obtain ⟨m, e, decoded, first, full, least, greatest⟩ := decode_literal plus some low high
    obtain ⟨r, f, decoded'', second⟩ := decode_mul decoded decoded' full full'
      (by unfold leastExponent; omega) (by omega)
    rw [value'] at second
    have error := first.error_le (le_trans (two_zpow_le (by decide)) low)
    have near := near_of_rounded value small first second error
    have fits : ⌊(r : ℚ) * 2 ^ f⌋₊ ≤ greatestWord := by
      have limit : 2 ^ 53 ≤ greatestWord := by decide
      have := near.within.2
      omega
    refine ⟨not_lt_zero decoded (by omega), ?_⟩
    have whole : nanoseconds l.toFloat u = ⌊(r : ℚ) * 2 ^ f⌋₊ :=
      clampWhole_of_decode decoded'' fits
    rw [whole]
    exact near

end Nanoseconds

/-- Durations are at most as many nanoseconds as a word holds. -/
theorem le_of_read {text : String} {n : Nat} (h : read text = .ok n) : n ≤ greatestWord := by
  have clamped (x : Float) (unit : Nat) : nanoseconds x unit ≤ greatestWord :=
    Int.toNat_le.mpr (clampWhole_le (Int.natCast_nonneg _) _)
  unfold read at h
  simp only at h
  split at h
  · cases h
  · split at h
    · cases h
    · split at h
      · cases h
      · split at h
        · cases h
        · cases h
          exact clamped _ _

/-! ## Warm-up delays -/

/-- There are engine settings exactly for a delay of whole milliseconds, which they keep. -/
theorem engineSettings_eq_ok_iff {c : CommandLine} {f : SettingsFile} {s : EngineSettings} :
    CommandLine.engineSettings c f = .ok s ↔
      read (c.warmupDelay.getD f.engine.warmupDelay) = .ok s.delay ∧ s.delay % 1000000 = 0 ∧
        s.calls = c.calls.getD f.engine.calls ∧
        s.repetitions = c.repetitions.getD f.engine.repetitions := by
  unfold CommandLine.engineSettings
  simp only
  constructor
  · intro h
    split at h
    · cases h
    · rename_i delay known
      split at h
      · rename_i even
        cases h
        exact ⟨known, even, rfl, rfl⟩
      · cases h
  · rintro ⟨known, even, calls, repetitions⟩
    rw [known]
    simp only [even, if_true, ← calls, ← repetitions]

/-- A text of whole nanoseconds is read as them or a neighbour of theirs. As a warm-up delay it is
accepted if what was read is whole milliseconds, and the suites get those. -/
theorem read_near {cs : List Char} {q : ℚ} {unit : String} {u n : Nat} (number : Number cs q)
    (known : (unit, u) ∈ units) (value : q * u = n) (small : n < 2 ^ 53) :
    ∃ k, read (String.ofList cs ++ unit) = .ok k ∧ Near q u n k ∧
      ∀ (c : CommandLine) (f : SettingsFile),
        c.warmupDelay.getD f.engine.warmupDelay = String.ofList cs ++ unit →
        ((∃ s, CommandLine.engineSettings c f = .ok s) ↔ 1000000 ∣ k) ∧
          ∀ s, CommandLine.engineSettings c f = .ok s →
            (delayKey, Decimal.text (k / 1000000)) ∈ s.entries := by
  obtain ⟨l, plus, rfl, reads⟩ := read_append number (named_of_mem known)
  obtain ⟨sign, near⟩ := near_of_literal plus known value small
  refine ⟨_, reads sign, near, fun c f delay => ⟨⟨?_, fun even => ?_⟩, fun s settled => ?_⟩⟩
  · rintro ⟨s, settled⟩
    obtain ⟨same, even, -⟩ := engineSettings_eq_ok_iff.mp settled
    rw [delay, reads sign] at same
    rw [Except.ok.inj same]
    exact Nat.dvd_of_mod_eq_zero even
  · refine ⟨⟨_, _, _⟩, engineSettings_eq_ok_iff.mpr ⟨?_, Nat.mod_eq_zero_of_dvd even, rfl, rfl⟩⟩
    rw [delay]
    exact reads sign
  · obtain ⟨same, -⟩ := engineSettings_eq_ok_iff.mp settled
    rw [delay, reads sign] at same
    rw [Except.ok.inj same]
    exact List.mem_cons_of_mem _ (List.mem_cons_of_mem _ List.mem_cons_self)

/-- A delay of 4.1 seconds is read as a nanosecond less, and rejected for that. -/
theorem read_near_short : Near (41 / 10) 1000000000 4100000000 4099999999 ∧
    ¬∃ s, CommandLine.engineSettings { warmupDelay := some "4.1s" } {} = .ok s := by
  have number : Number ['4', '.', '1'] (41 / 10) := by
    have point : Number (['4'] ++ '.' :: ['1']) (value (['4'] ++ ['1']) / 10 ^ ['1'].length) :=
      .point (by decide) (by decide) (by decide) (by decide)
    have parts : value (['4'] ++ ['1']) = 41 := by decide
    rw [parts] at point
    norm_num at point
    exact point
  have text : String.ofList ['4', '.', '1'] ++ "s" = "4.1s" := rfl
  have found : read "4.1s" = .ok 4099999999 := rfl
  obtain ⟨k, known, near, delay⟩ :=
    read_near number (show ("s", 1000000000) ∈ units by decide) (n := 4100000000) (by norm_num)
      (by decide)
  rw [text, found] at known
  cases known
  have rejected := (delay { warmupDelay := some "4.1s" } {} text.symm).1
  exact ⟨near, fun accepted => absurd (rejected.mp accepted) (by decide)⟩

end Microbench.Duration
