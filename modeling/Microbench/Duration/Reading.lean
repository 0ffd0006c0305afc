import Microbench.Arithmetic
import Microbench.Decimal.Reading

/-!
# Durations

A duration is a decimal number and a unit: `ns`, `us`, `ms`, `s`, `m`, or `min`; seconds when there
is none. It is read as whole nanoseconds, a part of one being dropped.
-/

namespace Microbench

/-- Why a text is no duration. -/
inductive DurationError where
  | empty
  | badNumber (text : String)
  | negative (text : String)
  | unknownUnit (text : String)
  deriving DecidableEq, Repr

/-- What is wrong with the text. -/
def DurationError.message : DurationError → String
  | .empty => "Empty duration string"
  | .badNumber s => "Invalid duration number: " ++ s
  | .negative s => "Negative duration: " ++ s
  | .unknownUnit s => "Unknown duration unit: " ++ s

namespace Duration

/-- Nanoseconds in a unit. Every letter of a unit is ASCII but the micro sign, which has no other
case. -/
def unit? (s : String) : Option Nat :=
  let u := String.ofList (s.toList.map Text.asciiLower)
  if u = "ns" then some 1
  else if u = "us" ∨ u = "µs" then some 1000
  else if u = "ms" then some 1000000
  else if u = "s" ∨ u = "" then some 1000000000
  else if u = "m" ∨ u = "min" then some 60000000000
  else none

/-- The number and the unit of a duration: the unit starts with the first letter. -/
def split (cs : List Char) : String × String :=
  let number := cs.takeWhile (!Text.isAlphabetic ·)
  let unit := cs.drop number.length
  (String.ofList number, if unit.isEmpty then "s" else String.ofList unit)

/-- Whole nanoseconds, as many as a word can hold. -/
def nanoseconds (number : Float) (unit : Nat) : Nat :=
  (Arithmetic.clampWhole 0 greatestWord (number * Float.ofNat unit)).toNat

/-- Reads a duration in nanoseconds. -/
def read (s : String) : Except DurationError Nat :=
  let s := Text.trim s
  if s.isEmpty then .error .empty
  else
    let (number, unit) := split s.toList
    match Decimal.readFloat (Text.trim number) with
    | none => .error (.badNumber number)
    | some x =>
      if x < 0.0 then .error (.negative s)
      else match unit? unit with
        | none => .error (.unknownUnit unit)
        | some u => .ok (nanoseconds x u)

end Duration

end Microbench
