import Microbench.Proofs.Binary64.Operations
import Microbench.Proofs.Decimal.RoundTrip
import Microbench.Worker.Assignment

/-!
# Assignments read back

An assignment of finite numbers is read back from its arguments: `ofArguments_toArguments`. The
windows that a batch gives to its suites are such numbers, and none of them is negative.
-/

namespace Microbench

open Binary64

/-- A float that is finite and has no minus sign. -/
def Unsigned (x : Float) : Prop := ∃ m e, decode x = .finite false m e

/-! ## Numbers -/

theorem Assignment.readPercent_plain {x : Float} {negative : Bool} {m : Nat} {e : Int}
    (h : decode x = .finite negative m e) (what : String) :
    readPercent what (Decimal.plain x) = .ok x := by
  have finite : isFinite x = true := by
    unfold isFinite
    rw [h]
  unfold readPercent
  rw [Decimal.readFloat_plain h]
  simp only [finite, if_true]

/-- An assignment with finite numbers and a suite is read back from its arguments. -/
theorem Assignment.ofArguments_toArguments {a : Assignment} {negative negative' : Bool}
    {m m' : Nat} {e e' : Int} (start : decode a.window.start = .finite negative m e)
    (size : decode a.window.size = .finite negative' m' e') (some : a.suites ≠ []) :
    ofArguments a.toArguments = .ok a := by
  have named : a.suites.isEmpty = false := by simpa using some
  unfold ofArguments toArguments
  simp only [take, readPercent_plain start, readPercent_plain size, bind, Except.bind, named]
  rfl

/-- A number without a minus sign is written with a digit in front. -/
theorem head_plain {x : Float} (h : Unsigned x) :
    ∃ c, (Decimal.plain x).toList.head? = some c ∧ Decimal.isDigit c = true := by
  rcases h with ⟨m, e, finite⟩
  obtain ⟨⟨c, rest, shape, digit⟩, -⟩ := Decimal.spells_magnitude (Decimal.shortest m e)
  refine ⟨c, ?_, digit⟩
  unfold Decimal.plain Decimal.Layout.write
  simp only [finite, shape]
  rw [if_neg (by decide), String.toList_ofList]
  rfl

/-! ## Windows -/

theorem below_ofNat {n : Nat} (word : n < 2 ^ 64) : Below 14 (Float.ofNat n).toModel.unpack := by
  rcases Nat.eq_zero_or_pos n with rfl | some
  · rfl
  · exact (normal_ofNat some word).below

/-- The start and the size of every share of overall progress are finite and not negative. -/
theorem unsigned_of_mem_split {n : Nat} (word : n ≤ greatestWord) {w : Window Float}
    (h : w ∈ Window.full.split n) : Unsigned w.start ∧ Unsigned w.size := by
  rcases List.mem_map.mp h with ⟨i, mem, rfl⟩
  have index : i < n := List.mem_range.mp mem
  have words : n < 2 ^ 64 := by
    have limit : greatestWord = 2 ^ 64 - 1 := rfl
    omega
  have whole : Below 14 (Float.ofNat 100).toModel.unpack := below_ofNat (by decide)
  have count : Normal (-52) 14 (Float.ofNat n).toModel.unpack := normal_ofNat (by omega) words
  have size : Below 67 (Float.ofNat 100 / Float.ofNat n).toModel.unpack :=
    below_div whole count (by decide)
  have offset : Below 135 (Float.ofNat i * (Float.ofNat 100 / Float.ofNat n)).toModel.unpack :=
    below_mul (below_ofNat (by omega)) size (by decide)
  have start : Below 135
      (Float.ofNat 0 + Float.ofNat i * (Float.ofNat 100 / Float.ofNat n)).toModel.unpack :=
    below_add_zero rfl offset (by decide) (by decide)
  have parts : (Window.full : Window Float).slice i n =
      ⟨Float.ofNat 0 + Float.ofNat i * (Float.ofNat 100 / Float.ofNat n),
        Float.ofNat 100 / Float.ofNat n⟩ := by
    unfold Window.slice
    rw [if_neg (by omega)]
    rfl
  rw [parts]
  exact ⟨decode_of_below start, decode_of_below size⟩

end Microbench
