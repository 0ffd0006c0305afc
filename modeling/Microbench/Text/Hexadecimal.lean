import Microbench.Bytes
import Microbench.Decimal.Digits

/-!
# Hexadecimal digits

Whole numbers and bytes written in base sixteen, with letters in lower case, and read back in
either case. A byte has two digits, the higher half first; bytes that were written are read back.
-/

namespace Microbench.Text

/-- The value of a hexadecimal digit. -/
def hexDigit? (c : Char) : Option Nat :=
  if '0' ≤ c ∧ c ≤ '9' then some (c.toNat - '0'.toNat)
  else if 'a' ≤ c ∧ c ≤ 'f' then some (c.toNat - 'a'.toNat + 10)
  else if 'A' ≤ c ∧ c ≤ 'F' then some (c.toNat - 'A'.toNat + 10)
  else none

/-- Hexadecimal digits as a number. -/
def hexValue? (cs : List Char) : Option Nat :=
  if cs.isEmpty then none
  else cs.foldlM (fun n c => (hexDigit? c).map (16 * n + ·)) 0

/-- Hexadecimal digits without leading zeros. -/
def hex (n : Nat) : List Char := Nat.toDigits 16 n

/-- Hexadecimal digits, as many as asked for at least. -/
def hexPadded (width n : Nat) : List Char := Decimal.padLeft width '0' (hex n)

end Microbench.Text

namespace Microbench.Bytes

/-- The two digits of a byte. -/
def hexPair (b : UInt8) : List Char := [Nat.digitChar (b.toNat / 16), Nat.digitChar (b.toNat % 16)]

/-- The bytes in hexadecimal. -/
def hex (bs : Bytes) : String := String.ofList (bs.flatMap hexPair)

/-- The bytes that digits stand for, two digits a byte. -/
def ofHexDigits? : List Char → Option Bytes
  | [] => some []
  | [_] => none
  | a :: b :: rest => do
    let high ← Text.hexDigit? a
    let low ← Text.hexDigit? b
    return UInt8.ofNat (16 * high + low) :: (← ofHexDigits? rest)

/-- The bytes that a text in hexadecimal stands for, if it is one. -/
def ofHex? (s : String) : Option Bytes := ofHexDigits? s.toList

theorem hexDigit?_digitChar {n : Nat} (small : n < 16) :
    Text.hexDigit? (Nat.digitChar n) = some n := by
  rcases n with _ | _ | _ | _ | _ | _ | _ | _ | _ | _ | _ | _ | _ | _ | _ | _ | n
  all_goals first | decide | omega

theorem ofHexDigits?_flatMap (bs : Bytes) : ofHexDigits? (bs.flatMap hexPair) = some bs := by
  induction bs with
  | nil => rfl
  | cons b bs ih =>
    have high : b.toNat / 16 < 16 := by have := b.toNat_lt; omega
    have low : b.toNat % 16 < 16 := by omega
    have whole : 16 * (b.toNat / 16) + b.toNat % 16 = b.toNat := by omega
    simp only [List.flatMap_cons, hexPair, List.cons_append, List.nil_append, ofHexDigits?,
      hexDigit?_digitChar high, hexDigit?_digitChar low, ih, Option.bind_eq_bind, Option.bind_some,
      Option.pure_def, whole, UInt8.ofNat_toNat]

/-- Bytes written in hexadecimal are read back. -/
@[simp] theorem ofHex?_hex (bs : Bytes) : ofHex? (hex bs) = some bs := by
  simp [ofHex?, hex, ofHexDigits?_flatMap]

end Microbench.Bytes
