import Mathlib
import Microbench.Proofs.Rational
import Microbench.Statistics

/-!
# Statistics in exact fractions

What is made of the raw times of a run, with fractions for numbers. Times are cut to the range of a
signed word at every step from the raw time to the record; taken together the steps cut only the
results, which are those of unbounded numbers where these fit.

* `Corrects`: what a corrected time is.
* `Summarizes`: what the statistics of a run are.
* `statistics_of_raw_times`: they are that for all raw times, in whatever order the batches ran, and
  longer raw times give no smaller duration and no smaller average.
-/

namespace Microbench

open Rational

/-! ## Corrected times -/

namespace TimeScaling

variable {s : TimeScaling ℚ} {raw raw' : Nat}

/-- The whole part of the product is cut to the range of a signed word before the increment is
added, and so is the sum. -/
theorem apply_eq (s : TimeScaling ℚ) (raw : Nat) :
    (s.apply raw : Int) = max 0 (min greatestSigned
      (max leastSigned (min greatestSigned (truncated ((raw : ℚ) * s.factor))) + s.increment)) := by
  have range : leastSigned ≤ 0 ∧ 0 ≤ greatestSigned := by decide
  have step : s.apply raw = (clampSigned (Arithmetic.clampWhole leastSigned greatestSigned
    ((raw : ℚ) * s.factor) + s.increment)).toNat := rfl
  rw [step, clampWhole_eq, clampSigned]
  omega

theorem apply_le (s : TimeScaling ℚ) (raw : Nat) : (s.apply raw : Int) ≤ greatestSigned := by
  have range : 0 ≤ greatestSigned := by decide
  rw [apply_eq]
  omega

theorem apply_mono (nonneg : 0 ≤ s.factor) (le : raw ≤ raw') : s.apply raw ≤ s.apply raw' := by
  have products : (raw : ℚ) * s.factor ≤ (raw' : ℚ) * s.factor :=
    mul_le_mul_of_nonneg_right (Nat.cast_le.mpr le) nonneg
  have wholes := truncated_mono products
  have times : (s.apply raw : Int) ≤ s.apply raw' := by
    rw [apply_eq, apply_eq]
    omega
  exact Int.ofNat_le.mp times

/-- The time that a correction makes of a raw time. -/
structure Corrects (s : TimeScaling ℚ) (raw time : Nat) : Prop where
  nonneg : 0 ≤ (time : Int)
  le : (time : Int) ≤ greatestSigned
  /-- If the whole part of the product is a signed word, only the result is cut. -/
  eq_of_fits : leastSigned ≤ truncated ((raw : ℚ) * s.factor) →
    truncated ((raw : ℚ) * s.factor) ≤ greatestSigned →
    (time : Int) = max 0 (min greatestSigned (truncated ((raw : ℚ) * s.factor) + s.increment))

theorem corrects_apply (s : TimeScaling ℚ) (raw : Nat) : s.Corrects raw (s.apply raw) where
  nonneg := Int.natCast_nonneg _
  le := s.apply_le raw
  eq_of_fits low high := by rw [apply_eq, min_eq_right high, max_eq_right low]

end TimeScaling

/-! ## Sums and means -/

theorem total_eq_sum (xs : List ℚ) : total xs = xs.sum := by
  have folded : ∀ (ys : List ℚ) (y : ℚ), ys.foldl (· + ·) y = y + ys.sum := by
    intro ys
    induction ys with
    | nil => intro y; exact (add_zero y).symm
    | cons z ys ih => intro y; rw [List.foldl_cons, ih, List.sum_cons, add_assoc]
  cases xs with
  | nil => rfl
  | cons x xs => exact folded xs x

theorem mean_eq (xs : List ℚ) : mean xs = xs.sum / (xs.length : ℚ) := by
  cases xs with
  | nil => exact (zero_div _).symm
  | cons x xs =>
    rw [← total_eq_sum]
    rfl

theorem variance_eq (xs : List ℚ) (centre : ℚ) :
    variance xs centre = (xs.map fun x => (x - centre) * (x - centre)).sum / (xs.length : ℚ) := by
  have step : variance xs centre = mean (xs.map fun x => (x - centre) * (x - centre)) := rfl
  rw [step, mean_eq, List.length_map]

/-- Squares add up to nothing exactly if each of them is nothing. -/
theorem variance_eq_zero_iff {xs : List ℚ} (some : xs ≠ []) (centre : ℚ) :
    variance xs centre = 0 ↔ ∀ x ∈ xs, x = centre := by
  have length : (xs.length : ℚ) ≠ 0 := by simpa using some
  rw [variance_eq, div_eq_zero_iff, or_iff_left length]
  constructor
  · intro none x mem
    have squares : ∀ y ∈ xs.map fun x => (x - centre) * (x - centre), 0 ≤ y := by
      intro y mem
      obtain ⟨x, -, rfl⟩ := List.mem_map.mp mem
      exact mul_self_nonneg _
    have square := List.all_zero_of_le_zero_le_of_sum_eq_zero squares none (List.mem_map_of_mem mem)
    exact sub_eq_zero.mp (mul_self_eq_zero.mp square)
  · intro same
    refine List.sum_eq_zero fun y mem => ?_
    obtain ⟨x, inside, rfl⟩ := List.mem_map.mp mem
    rw [same x inside, sub_self, zero_mul]

/-- Values are all their mean exactly if they are all the same. -/
theorem eq_mean_iff {xs : List ℚ} (some : xs ≠ []) :
    (∀ x ∈ xs, x = mean xs) ↔ ∀ x ∈ xs, ∀ y ∈ xs, x = y := by
  constructor
  · intro same x mem y mem'
    rw [same x mem, same y mem']
  · intro same x mem
    have length : (xs.length : ℚ) ≠ 0 := by simpa using some
    have all : xs = List.replicate xs.length x :=
      List.eq_replicate_iff.mpr ⟨rfl, fun y mem' => same y mem' x mem⟩
    have sum : xs.sum = xs.length * x := by
      conv_lhs => rw [all]
      rw [List.sum_replicate, nsmul_eq_mul]
    rw [mean_eq, sum, mul_div_cancel_left₀ _ length]

theorem mean_perm {xs ys : List ℚ} (perm : xs.Perm ys) : mean xs = mean ys := by
  rw [mean_eq, mean_eq, perm.sum_eq, perm.length_eq]

theorem variance_perm {xs ys : List ℚ} (perm : xs.Perm ys) (centre : ℚ) :
    variance xs centre = variance ys centre := mean_perm (perm.map _)

/-- The whole part of a mean of whole numbers. -/
theorem truncated_mean (ns : List Nat) :
    truncated (mean (ns.map fun n => ((n : Nat) : ℚ))) = ((ns.sum / ns.length : Nat) : Int) := by
  have sum : (ns.map fun n => ((n : Nat) : ℚ)).sum = ((ns.sum : Nat) : ℚ) :=
    (map_list_sum (Nat.castRingHom ℚ) ns).symm
  rw [mean_eq, sum, List.length_map, truncated_div]

/-- A mean of whole numbers is no greater than what they are no greater than. -/
theorem sum_div_length_le {ns : List Nat} {high : Nat} (le : ∀ n ∈ ns, n ≤ high) :
    ns.sum / ns.length ≤ high := by
  have sum := List.sum_le_card_nsmul ns high le
  exact Nat.div_le_of_le_mul (by simpa using sum)

theorem le_sum_div_length {ns : List Nat} (some : ns ≠ []) {low : Nat} (le : ∀ n ∈ ns, low ≤ n) :
    low ≤ ns.sum / ns.length := by
  have sum := List.card_nsmul_le_sum ns low le
  rw [Nat.le_div_iff_mul_le (List.length_pos_iff.mpr some), Nat.mul_comm]
  simpa using sum

/-! ## Statistics of measurements -/

namespace RunStatistics

variable {ms : List Measurement}

theorem sumTotals_eq (ms : List Measurement) :
    sumTotals ms = min greatestWord (ms.map (·.total)).sum := by
  have folded : ∀ (ms : List Measurement) (sum : Nat), sum ≤ greatestWord →
      ms.foldl (fun sum m => min greatestWord (sum + m.total)) sum =
        min greatestWord (sum + (ms.map (·.total)).sum) := by
    intro ms
    induction ms with
    | nil =>
      intro sum le
      exact (min_eq_right le).symm
    | cons m rest ih =>
      intro sum le
      rw [List.foldl_cons, ih _ (min_le_left _ _), List.map_cons, List.sum_cons]
      omega
  have all := folded ms 0 (Nat.zero_le _)
  rwa [Nat.zero_add] at all

/-- The two limits that a sum of times comes up against are as one. -/
theorem duration_eq (some : ms ≠ []) :
    (ofMeasurements ms : RunStatistics ℚ).duration =
      min greatestSigned (((ms.map (·.total)).sum : Nat) : Int) := by
  match ms with
  | [] => exact absurd rfl some
  | [m] =>
    rw [List.map_singleton, List.sum_singleton]
    rfl
  | m :: m' :: rest =>
    have limits : greatestSigned ≤ greatestWord := by decide
    have step : (ofMeasurements (m :: m' :: rest) : RunStatistics ℚ).duration =
      min greatestSigned (sumTotals (m :: m' :: rest) : Nat) := rfl
    rw [step, sumTotals_eq]
    omega

/-- A single repetition is no exception: its own estimate is the mean of the estimates. -/
theorem average_eq (some : ms ≠ []) : (ofMeasurements ms : RunStatistics ℚ).average =
    min greatestSigned (((ms.map (·.perCall)).sum / ms.length : Nat) : Int) := by
  match ms with
  | [] => exact absurd rfl some
  | [m] =>
    rw [List.map_singleton, List.sum_singleton, List.length_singleton, Nat.div_one]
    rfl
  | m :: m' :: rest =>
    have range : leastSigned ≤ 0 ∧ 0 ≤ greatestSigned := by decide
    have step : (ofMeasurements (m :: m' :: rest) : RunStatistics ℚ).average =
      Arithmetic.clampWhole leastSigned greatestSigned
        (mean (((m :: m' :: rest).map (·.perCall)).map fun n => ((n : Nat) : ℚ))) := by
      rw [List.map_map]
      rfl
    rw [step, clampWhole_eq, truncated_mean, List.length_map]
    exact max_eq_right (range.1.trans (le_min range.2 (Int.natCast_nonneg _)))

theorem variance_eq_variance (some : ms ≠ []) : (ofMeasurements ms : RunStatistics ℚ).variance =
    Microbench.variance (estimates ms) (mean (estimates ms)) := by
  match ms with
  | [] => exact absurd rfl some
  | [m] =>
    have single : ∀ x ∈ (estimates [m] : List ℚ), x = mean (estimates [m]) :=
      (eq_mean_iff (List.cons_ne_nil _ _)).mpr fun x mem y mem' => by
        rw [List.mem_singleton.mp mem, List.mem_singleton.mp mem']
    exact ((variance_eq_zero_iff (List.cons_ne_nil _ _) _).mpr single).symm
  | m :: m' :: rest => rfl

theorem ofMeasurements_eq (some : ms ≠ []) : (ofMeasurements ms : RunStatistics ℚ) =
    { duration := min greatestSigned (((ms.map (·.total)).sum : Nat) : Int)
      average := min greatestSigned (((ms.map (·.perCall)).sum / ms.length : Nat) : Int)
      variance := Microbench.variance (estimates ms) (mean (estimates ms))
      repetitions := ms.length } := by
  rw [← duration_eq some, ← average_eq some, ← variance_eq_variance some,
    ← (repetitions_ofMeasurements ms : (_ : RunStatistics ℚ).repetitions = _)]

theorem ofMeasurements_perm {ms' : List Measurement} (perm : ms.Perm ms') :
    (ofMeasurements ms : RunStatistics ℚ) = ofMeasurements ms' := by
  by_cases none : ms = []
  · subst none
    rw [perm.nil_eq]
  have none' : ms' ≠ [] := fun none' => none (by rw [none'] at perm; exact perm.eq_nil)
  have estimates : (estimates ms : List ℚ).Perm (estimates ms') := perm.map _
  rw [ofMeasurements_eq none, ofMeasurements_eq none', (perm.map _).sum_eq, (perm.map _).sum_eq,
    perm.length_eq, mean_perm estimates, variance_perm estimates]

end RunStatistics

/-! ## Statistics of a run -/

namespace RunStatistics

/-- The statistics of a run from the corrected times of its batches, each of a number of calls. -/
def ofTimes (calls : Nat) (times : List Nat) : RunStatistics ℚ :=
  ofMeasurements (times.map fun time => ⟨time, calls⟩)

/-- What the statistics of a run are, said of the corrected times of its batches. -/
structure Summarizes (calls : Nat) (times : List Nat) (st : RunStatistics ℚ) : Prop where
  duration_eq : st.duration = min greatestSigned ((times.sum : Nat) : Int)
  average_eq : st.average = (((times.map (· / calls)).sum / times.length : Nat) : Int)
  average_nonneg : 0 ≤ st.average
  average_le_duration : st.average ≤ st.duration
  /-- The average lies between the least and the greatest estimate. -/
  average_between : ∃ low ∈ times.map (· / calls), ∃ high ∈ times.map (· / calls),
    (∀ estimate ∈ times.map (· / calls), low ≤ estimate ∧ estimate ≤ high) ∧
      (low : Int) ≤ st.average ∧ st.average ≤ (high : Int)
  variance_eq_zero_iff : st.variance = 0 ↔
    ∀ estimate ∈ times.map (· / calls), ∀ estimate' ∈ times.map (· / calls), estimate = estimate'

section Times

variable {calls : Nat} {times times' : List Nat}

theorem ofTimes_duration (some : times ≠ []) :
    (ofTimes calls times).duration = min greatestSigned ((times.sum : Nat) : Int) := by
  have totals : (times.map fun time => (⟨time, calls⟩ : Measurement)).map (·.total) = times := by
    rw [List.map_map]
    exact List.map_id times
  rw [ofTimes, duration_eq (by simpa using some), totals]

theorem map_perCall (positive : 1 ≤ calls) (times : List Nat) :
    (times.map fun time => (⟨time, calls⟩ : Measurement)).map (·.perCall) = times.map (· / calls) := by
  rw [List.map_map]
  refine List.map_congr_left fun time _ => ?_
  change time / max calls 1 = time / calls
  rw [max_eq_left positive]

theorem le_of_mem_estimates {limit : Nat} (le : ∀ time ∈ times, time ≤ limit) :
    ∀ estimate ∈ times.map (· / calls), estimate ≤ limit := by
  intro estimate mem
  obtain ⟨time, inside, rfl⟩ := List.mem_map.mp mem
  exact (Nat.div_le_self _ _).trans (le time inside)

theorem ofTimes_average_eq_min (positive : 1 ≤ calls) (some : times ≠ []) :
    (ofTimes calls times).average =
      min greatestSigned (((times.map (· / calls)).sum / times.length : Nat) : Int) := by
  rw [ofTimes, average_eq (by simpa using some), map_perCall positive, List.length_map]

/-- The average of times that fit into a signed word is not cut. -/
theorem ofTimes_average (positive : 1 ≤ calls) (some : times ≠ [])
    (le : ∀ time ∈ times, (time : Int) ≤ greatestSigned) :
    (ofTimes calls times).average = (((times.map (· / calls)).sum / times.length : Nat) : Int) := by
  have limit : (greatestSigned.toNat : Int) = greatestSigned := by decide
  have mean : (times.map (· / calls)).sum / (times.map (· / calls)).length ≤ greatestSigned.toNat :=
    sum_div_length_le (le_of_mem_estimates fun time mem => by have := le time mem; omega)
  rw [List.length_map] at mean
  rw [ofTimes_average_eq_min positive some]
  omega

theorem ofTimes_variance_eq_zero_iff (positive : 1 ≤ calls) (some : times ≠ []) :
    (ofTimes calls times).variance = 0 ↔
      ∀ estimate ∈ times.map (· / calls), ∀ estimate' ∈ times.map (· / calls),
        estimate = estimate' := by
  let ms : List Measurement := times.map fun time => ⟨time, calls⟩
  have some' : (estimates ms : List ℚ) ≠ [] := by simpa [estimates, ms] using some
  have listed : (estimates ms : List ℚ) = (times.map (· / calls)).map fun n => ((n : Nat) : ℚ) := by
    rw [← map_perCall positive, List.map_map]
    rfl
  have step : (ofTimes calls times).variance =
      Microbench.variance (estimates ms) (mean (estimates ms)) :=
    variance_eq_variance (by simpa [ms] using some)
  rw [step, Microbench.variance_eq_zero_iff some', eq_mean_iff some', listed]
  simp only [List.forall_mem_map, Nat.cast_inj]

/-- The average of whole estimates is no greater than the sum of the times they come from. -/
theorem average_le_sum (times : List Nat) (calls : Nat) :
    (times.map (· / calls)).sum / times.length ≤ times.sum := by
  have estimates : (times.map (· / calls)).sum ≤ (times.map id).sum :=
    List.sum_le_sum fun time _ => Nat.div_le_self time calls
  rw [List.map_id] at estimates
  exact (Nat.div_le_self _ _).trans estimates

theorem summarizes_ofTimes (positive : 1 ≤ calls) (some : times ≠ [])
    (le : ∀ time ∈ times, (time : Int) ≤ greatestSigned) :
    Summarizes calls times (ofTimes calls times) := by
  have duration : (ofTimes calls times).duration = _ := ofTimes_duration some
  have average := ofTimes_average positive some le
  have limits : (((times.map (· / calls)).sum / times.length : Nat) : Int) ≤ greatestSigned := by
    rw [← average, ofTimes_average_eq_min positive some]
    exact min_le_left _ _
  have estimates : 0 < (times.map (· / calls)).length := by
    rw [List.length_map]
    exact List.length_pos_iff.mpr some
  refine ⟨duration, average, ?_, ?_, ?_, ofTimes_variance_eq_zero_iff positive some⟩
  · rw [average]
    exact Int.natCast_nonneg _
  · rw [average, duration]
    exact le_min limits (Int.ofNat_le.mpr (average_le_sum times calls))
  · have some' := List.length_pos_iff.mp estimates
    let low := List.minimum_of_length_pos estimates
    let high := List.maximum_of_length_pos estimates
    have least : ∀ estimate ∈ times.map (· / calls), low ≤ estimate := fun estimate mem =>
      List.minimum_of_length_pos_le_of_mem mem estimates
    have greatest : ∀ estimate ∈ times.map (· / calls), estimate ≤ high := fun estimate mem =>
      List.le_maximum_of_length_pos_of_mem mem estimates
    have above := le_sum_div_length some' least
    have below := sum_div_length_le greatest
    rw [List.length_map] at above below
    rw [average]
    exact ⟨low, List.minimum_of_length_pos_mem estimates, high,
      List.maximum_of_length_pos_mem estimates, fun estimate mem => ⟨least _ mem, greatest _ mem⟩,
      Int.ofNat_le.mpr above, Int.ofNat_le.mpr below⟩

/-- No time is replaced by a smaller one. -/
theorem ofTimes_mono (positive : 1 ≤ calls) (some : times ≠ [])
    (raised : List.Forall₂ (· ≤ ·) times times') :
    (ofTimes calls times).duration ≤ (ofTimes calls times').duration ∧
      (ofTimes calls times).average ≤ (ofTimes calls times').average := by
  have length := raised.length_eq
  have some' : times' ≠ [] := by
    rw [← List.length_pos_iff] at some ⊢
    omega
  have sums : times.sum ≤ times'.sum := raised.sum_le_sum
  have estimates : (times.map (· / calls)).sum ≤ (times'.map (· / calls)).sum := by
    have quotients : List.Forall₂ (· ≤ ·) (times.map (· / calls)) (times'.map (· / calls)) :=
      List.forall₂_map_left_iff.mpr (List.forall₂_map_right_iff.mpr
        (raised.imp fun _ _ le => Nat.div_le_div_right le))
    exact quotients.sum_le_sum
  have averages : _ / times.length ≤ _ / times.length := Nat.div_le_div_right estimates
  constructor
  · rw [ofTimes_duration some, ofTimes_duration some']
    omega
  · rw [ofTimes_average_eq_min positive some, ofTimes_average_eq_min positive some', ← length]
    omega

end Times

/-- The statistics of a run from the raw times of its batches. -/
def ofRaw (s : TimeScaling ℚ) (calls : Nat) (raws : List Nat) : RunStatistics ℚ :=
  ofTimes calls (raws.map s.apply)

/-- What is recorded of a run is a summary of its corrected times, and no batch counts for more by
having been run earlier or later than another. -/
theorem statistics_of_raw_times (s : TimeScaling ℚ) (calls : Nat) (positive : 1 ≤ calls)
    (raws : List Nat) (some : raws ≠ []) :
    (∀ raw ∈ raws, s.Corrects raw (s.apply raw)) ∧
    Summarizes calls (raws.map s.apply) (ofRaw s calls raws) ∧
    (∀ raws', raws.Perm raws' → ofRaw s calls raws' = ofRaw s calls raws) ∧
    (0 ≤ s.factor → ∀ raws', List.Forall₂ (· ≤ ·) raws raws' →
      (ofRaw s calls raws).duration ≤ (ofRaw s calls raws').duration ∧
      (ofRaw s calls raws).average ≤ (ofRaw s calls raws').average) := by
  have some' : raws.map s.apply ≠ [] := by simpa using some
  refine ⟨fun raw _ => s.corrects_apply raw, ?_, fun raws' perm => ?_, fun nonneg raws' raised => ?_⟩
  · refine summarizes_ofTimes positive some' fun time mem => ?_
    obtain ⟨raw, -, rfl⟩ := List.mem_map.mp mem
    exact s.apply_le raw
  · exact ofMeasurements_perm ((perm.symm.map _).map _)
  · refine ofTimes_mono positive some' ?_
    rw [List.forall₂_map_left_iff, List.forall₂_map_right_iff]
    exact raised.imp fun _ _ le => TimeScaling.apply_mono nonneg le

/-- The product of the greatest raw time and the factor is no signed word, and the increment takes
the least one below zero. -/
theorem statistics_of_raw_times_at_limits :
    let s : TimeScaling ℚ := ⟨3 / 2, -3⟩
    let raws := [greatestWord, 0, 7]
    1 ≤ 2 ∧ raws ≠ [] ∧ Summarizes 2 (raws.map s.apply) (ofRaw s 2 raws) ∧
      ofRaw s 2 [7, greatestWord, 0] = ofRaw s 2 raws ∧
      (ofRaw s 2 raws).average ≤ (ofRaw s 2 [greatestWord, 0, 8]).average := by
  intro s raws
  have some : raws ≠ [] := List.cons_ne_nil _ _
  obtain ⟨-, summarized, order, raised⟩ := statistics_of_raw_times s 2 (by decide) raws some
  refine ⟨by decide, some, summarized, order _ (by decide), ?_⟩
  exact (raised (by norm_num [s]) [greatestWord, 0, 8]
    (.cons le_rfl (.cons le_rfl (.cons (by decide) .nil)))).2

end RunStatistics

end Microbench
