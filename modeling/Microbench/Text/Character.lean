import Microbench.Text.Category.Letters
import Microbench.Text.Category.Marks
import Microbench.Text.Category.Symbols

/-!
# Character classes

The derived properties of the character database, each put together from its categories the way
the standard defines it. ASCII characters are answered without a look at the tables.
-/

namespace Microbench.Text

open Category

/-- White space in the sense of the character database. -/
def isBlank (c : Char) : Bool :=
  let n := c.toNat
  (9 ≤ n && n ≤ 13) || n == 0x20 || n == 0x85 || n == 0xA0 || n == 0x1680 ||
    (0x2000 ≤ n && n ≤ 0x200A) || n == 0x2028 || n == 0x2029 || n == 0x202F || n == 0x205F ||
    n == 0x3000

/-- An ASCII letter. -/
def isAsciiLetter (c : Char) : Bool := ('a' ≤ c && c ≤ 'z') || ('A' ≤ c && c ≤ 'Z')

/-- An ASCII digit. -/
def isAsciiDigit (c : Char) : Bool := '0' ≤ c && c ≤ '9'

/-- Letters of any category, letter numbers and what else is alphabetic. -/
def isAlphabetic (c : Char) : Bool :=
  let n := c.toNat
  if n < 128 then isAsciiLetter c
  else inSpans upperLetter n || inSpans lowerLetter n || inSpans titleLetter n ||
    inSpans modifierLetter n || inSpans otherLetter n || inSpans letterNumber n ||
    inSpans otherAlphabetic n

/-- A decimal digit of any script. -/
def isDecimalNumber (c : Char) : Bool :=
  if c.toNat < 128 then isAsciiDigit c else inSpans decimalNumber c.toNat

/-- A mark of any kind. -/
def isMark (c : Char) : Bool :=
  let n := c.toNat
  128 ≤ n && (inSpans nonspacingMark n || inSpans spacingMark n || inSpans enclosingMark n)

/-- A character of a word: alphabetic, a mark, a digit, a connector or a joiner. -/
def isWordCharacter (c : Char) : Bool :=
  if c.toNat < 128 then isAsciiLetter c || isAsciiDigit c || c == '_'
  else isAlphabetic c || isMark c || isDecimalNumber c || inSpans connector c.toNat ||
    c.toNat == 0x200C || c.toNat == 0x200D

/-- A character that extends the grapheme in front of it. -/
def extendsGrapheme (c : Char) : Bool :=
  let n := c.toNat
  128 ≤ n && (inSpans nonspacingMark n || inSpans enclosingMark n || inSpans otherGraphemeExtend n)

/-- A character that leaves ink: neither a control, a format character, a separator other than
the space, a private character nor an unassigned one. -/
def isPrintable (c : Char) : Bool :=
  let n := c.toNat
  if n < 128 then 0x20 ≤ n && n < 0x7F
  else isAlphabetic c || isMark c || inSpans decimalNumber n || inSpans otherNumber n ||
    inSpans connector n || inSpans dash n || inSpans openPunctuation n ||
    inSpans closePunctuation n || inSpans openingQuote n || inSpans closingQuote n ||
    inSpans otherPunctuation n || inSpans mathSymbol n || inSpans currencySymbol n ||
    inSpans modifierSymbol n || inSpans otherSymbol n

/-- Drops blanks in front. -/
def trimLeft (cs : List Char) : List Char := cs.dropWhile isBlank

/-- Drops blanks at the end. -/
def trimRight (cs : List Char) : List Char := (cs.reverse.dropWhile isBlank).reverse

/-- Drops blanks on both sides. -/
def trim (s : String) : String := String.ofList (trimRight (trimLeft s.toList))

/-- Lower case, for ASCII letters. -/
def asciiLower (c : Char) : Char :=
  if 'A' ≤ c ∧ c ≤ 'Z' then Char.ofNat (c.toNat + 32) else c

end Microbench.Text
