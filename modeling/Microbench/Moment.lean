import Microbench.Decimal.Digits
import Microbench.Text.Character

/-!
# Moments

A moment is a day, counted in the Gregorian calendar from 1 January 1970, a second of that day and
a part of the second; a leap second is the last second of a minute with a part of one or more.
Moments are written in universal time with as many groups of three fraction digits as are needed.
-/

namespace Microbench

/-- A point in universal time. -/
structure Moment where
  /-- Days since 1 January 1970. -/
  day : Int
  /-- Seconds since midnight. -/
  second : Nat
  /-- Nanoseconds since that second; from 10^9 on they belong to a leap second. -/
  nano : Nat
  deriving DecidableEq, Repr

/-- A date and a time of day as they stand on a clock. -/
structure ClockReading where
  year : Int
  month : Nat
  day : Nat
  hour : Nat
  minute : Nat
  second : Nat
  deriving DecidableEq, Repr

namespace Moment

/-- Days from 1 January 1970 to a date. The year is taken to begin in March, so that the leap day
comes last. -/
def daysTo (year : Int) (month day : Nat) : Int :=
  let y := if month ≤ 2 then year - 1 else year
  let era := Int.fdiv y 400
  let yearOfEra := y - era * 400
  let monthFromMarch : Int := (month + 9) % 12
  let dayOfYear := (153 * monthFromMarch + 2) / 5 + day - 1
  let dayOfEra := yearOfEra * 365 + yearOfEra / 4 - yearOfEra / 100 + dayOfYear
  era * 146097 + dayOfEra - 719468

/-- The date that a number of days after 1 January 1970 is. -/
def dateOf (days : Int) : Int × Nat × Nat :=
  let z := days + 719468
  let era := Int.fdiv z 146097
  let dayOfEra := z - era * 146097
  let yearOfEra := (dayOfEra - dayOfEra / 1460 + dayOfEra / 36524 - dayOfEra / 146096) / 365
  let dayOfYear := dayOfEra - (365 * yearOfEra + yearOfEra / 4 - yearOfEra / 100)
  let monthFromMarch := (5 * dayOfYear + 2) / 153
  let day := dayOfYear - (153 * monthFromMarch + 2) / 5 + 1
  let month := if monthFromMarch < 10 then monthFromMarch + 3 else monthFromMarch - 9
  let year := yearOfEra + era * 400 + (if month ≤ 2 then 1 else 0)
  (year, month.toNat, day.toNat)

/-- Whether a year has a leap day. -/
def isLeapYear (year : Int) : Bool := year % 4 == 0 && (year % 100 != 0 || year % 400 == 0)

/-- The number of days of a month. -/
def daysIn (year : Int) (month : Nat) : Nat :=
  if month = 2 then if isLeapYear year then 29 else 28
  else if month = 4 ∨ month = 6 ∨ month = 9 ∨ month = 11 then 30
  else 31

/-- The first and the last year that moments can lie in. -/
def firstYear : Int := -262143

/-- The last year that moments can lie in. -/
def lastYear : Int := 262142

/-- The moment a number of nanoseconds after 1970 began. -/
def ofNanoseconds (n : Int) : Moment where
  day := n.fdiv 86400000000000
  second := (n.fmod 86400000000000).toNat / 1000000000
  nano := (n.fmod 86400000000000).toNat % 1000000000

/-- What a clock in universal time shows at a moment. -/
def reading (m : Moment) : ClockReading :=
  let (year, month, day) := dateOf m.day
  ⟨year, month, day, m.second / 3600, m.second / 60 % 60, m.second % 60⟩

/-- A number with leading zeros. -/
def digitsOf (width n : Nat) : String := String.ofList (Decimal.padLeft width '0' (Decimal.digits n))

/-- A year: four digits, and a sign in front of more or fewer than those. -/
def yearText (year : Int) : String :=
  if 0 ≤ year ∧ year ≤ 9999 then digitsOf 4 year.toNat
  else (if year < 0 then "-" else "+") ++ digitsOf (if year < 0 then 4 else 5) year.natAbs

/-- The part of a second, in groups of three digits. -/
def fractionText (nano : Nat) : String :=
  if nano = 0 then ""
  else if nano % 1000000 = 0 then "." ++ digitsOf 3 (nano / 1000000)
  else if nano % 1000 = 0 then "." ++ digitsOf 6 (nano / 1000)
  else "." ++ digitsOf 9 nano

/-- The moment in universal time. -/
def text (m : Moment) : String :=
  let (year, month, day) := dateOf m.day
  let leap := if m.nano < 1000000000 then 0 else 1
  yearText year ++ "-" ++ digitsOf 2 month ++ "-" ++ digitsOf 2 day ++ "T" ++
    digitsOf 2 (m.second / 3600) ++ ":" ++ digitsOf 2 (m.second / 60 % 60) ++ ":" ++
    digitsOf 2 (m.second % 60 + leap) ++ fractionText (m.nano - leap * 1000000000) ++ "Z"

/-! ## Reading -/

/-- A whole number of `least` to `most` digits in front of a text, after blanks. -/
def readNumber (least most : Nat) (cs : List Char) : Option (Nat × List Char) :=
  let cs := Text.trimLeft cs
  let ds := (cs.take most).takeWhile Decimal.isDigit
  if ds.length < least then none else some (Decimal.value ds, cs.drop ds.length)

/-- A year in front of a text: up to four digits, or a sign and any number of them. -/
def readYear (cs : List Char) : Option (Int × List Char) :=
  match Text.trimLeft cs with
  | '-' :: rest =>
    let ds := rest.takeWhile Decimal.isDigit
    if ds.isEmpty then none
    else some (-(Decimal.value ds : Int), rest.dropWhile Decimal.isDigit)
  | '+' :: rest =>
    let ds := rest.takeWhile Decimal.isDigit
    if ds.isEmpty then none
    else some ((Decimal.value ds : Int), rest.dropWhile Decimal.isDigit)
  | cs => (readNumber 1 4 cs).map fun (n, rest) => ((n : Int), rest)

/-- A character that has to come next, blanks in front of it being allowed. -/
def expect (c : Char) (cs : List Char) : Option (List Char) :=
  match Text.trimLeft cs with
  | d :: rest => if c = d then some rest else none
  | [] => none

/-- The part of a second in front of a text, in nanoseconds; digits beyond those are dropped. -/
def readFraction : List Char → Option (Nat × List Char)
  | '.' :: rest =>
    let ds := rest.takeWhile Decimal.isDigit
    if ds.isEmpty then none
    else
      let kept := ds.take 9
      some (Decimal.value kept * Nat.pow 10 (9 - kept.length), rest.dropWhile Decimal.isDigit)
  | cs => some (0, cs)

/-- Two digits in front of a text. -/
def readPair : List Char → Option (Nat × List Char)
  | a :: b :: rest => do return (10 * (← Decimal.digit? a) + (← Decimal.digit? b), rest)
  | _ => none

/-- The distance from universal time in front of a text, in minutes. -/
def readOffset (cs : List Char) : Option (Int × List Char) :=
  match Text.trimLeft cs with
  | [] => none
  | c :: rest =>
    if c == 'Z' || c == 'z' then some (0, rest)
    else if String.ofList (((c :: rest).take 3).map Text.asciiLower) == "utc" then
      some (0, rest.drop 2)
    else if c == '+' || c == '-' || c == '\u2212' then do
      let (hours, rest) ← readPair rest
      let (minutes, rest) ← readPair (rest.dropWhile fun d => d == ':' || Text.isBlank d)
      if 60 ≤ minutes ∨ 24 ≤ hours then none
      let offset : Int := hours * 60 + minutes
      pure (if c == '+' then offset else -offset, rest)
    else none

/-- The moment of a clock that is `offset` minutes ahead of universal time. -/
def ofReading? (r : ClockReading) (nano : Nat) (offset : Int) : Option Moment :=
  if r.month < 1 ∨ 12 < r.month ∨ r.day < 1 ∨ daysIn r.year r.month < r.day ∨ 24 ≤ r.hour ∨
      60 ≤ r.minute ∨ 61 ≤ r.second ∨ r.year < firstYear ∨ lastYear < r.year then none
  else
    let leap := r.second = 60
    let second : Int := r.hour * 3600 + r.minute * 60 + (if leap then 59 else r.second)
    let here := second - offset * 60
    let day := daysTo r.year r.month r.day + Int.fdiv here 86400
    if day < daysTo firstYear 1 1 ∨ daysTo lastYear 12 31 < day then none
    else some ⟨day, (Int.fmod here 86400).toNat, nano + (if leap then 1000000000 else 0)⟩

/-- Reads a date, a time and a distance from universal time. Blanks may stand between them. -/
def read? (s : String) : Option Moment := do
  let (year, cs) ← readYear s.toList
  let (month, cs) ← readNumber 1 2 (← expect '-' cs)
  let (day, cs) ← readNumber 1 2 (← expect '-' cs)
  let cs ← match cs with
    | 't' :: rest => some rest
    | 'T' :: rest => some rest
    | ' ' :: rest => some rest
    | _ => none
  let (hour, cs) ← readNumber 1 2 cs
  let (minute, cs) ← readNumber 1 2 (← expect ':' cs)
  let (second, cs) ← readNumber 1 2 (← expect ':' cs)
  let (nano, cs) ← readFraction cs
  let (offset, cs) ← readOffset cs
  if (Text.trimLeft cs).isEmpty then ofReading? ⟨year, month, day, hour, minute, second⟩ nano offset
  else none

end Moment

end Microbench
