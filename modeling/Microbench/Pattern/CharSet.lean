import Microbench.Text.Character
import Microbench.Text.Folding

/-!
# Sets of characters

The sets that a pattern can name, built from spans and properties by the operations on sets. Case is
left out of account either by the folding of the character database or for ASCII letters alone.
-/

namespace Microbench.Pattern

/-- A set of characters. -/
inductive CharSet where
  /-- The characters from the first to the last. -/
  | span (first last : Char)
  | listed (spans : List Text.Span)
  | word
  | digit
  | blank
  | alphabetic
  | complement (s : CharSet)
  | union (s t : CharSet)
  | inter (s t : CharSet)
  /-- The characters that differ from one of the set at most in case. -/
  | caseless (s : CharSet)
  /-- The same for the case of ASCII letters. -/
  | asciiCaseless (s : CharSet)

namespace CharSet

/-- One character. -/
def only (c : Char) : CharSet := span c c

/-- No character. -/
def empty : CharSet := listed []

/-- Every character. -/
def all : CharSet := complement empty

/-- The characters of a set that are not in another. -/
def diff (s t : CharSet) : CharSet := inter s (complement t)

/-- The characters of exactly one of two sets. -/
def symmetricDiff (s t : CharSet) : CharSet := union (diff s t) (diff t s)

/-- The characters of any of the sets. -/
def unions (ss : List CharSet) : CharSet := ss.foldr union empty

/-- The letter of the other case, for ASCII letters. -/
def otherAsciiCase (c : Char) : Char :=
  if 'a' ≤ c && c ≤ 'z' then Char.ofNat (c.toNat - 32)
  else if 'A' ≤ c && c ≤ 'Z' then Char.ofNat (c.toNat + 32)
  else c

/-- Whether a character is in the set. -/
def holds : CharSet → Char → Bool
  | span first last, c => first ≤ c && c ≤ last
  | listed spans, c => Text.inSpans spans c.toNat
  | word, c => Text.isWordCharacter c
  | digit, c => Text.isDecimalNumber c
  | blank, c => Text.isBlank c
  | alphabetic, c => Text.isAlphabetic c
  | complement s, c => !s.holds c
  | union s t, c => s.holds c || t.holds c
  | inter s t, c => s.holds c && t.holds c
  | caseless s, c => s.holds c || (Text.caseVariants c).any s.holds
  | asciiCaseless s, c => s.holds c || s.holds (otherAsciiCase c)

/-- The ASCII digits. -/
def asciiDigit : CharSet := span '0' '9'

/-- The ASCII letters. -/
def asciiLetter : CharSet := union (span 'a' 'z') (span 'A' 'Z')

/-- The ASCII characters of words. -/
def asciiWord : CharSet := unions [asciiLetter, asciiDigit, only '_']

/-- The ASCII white space. -/
def asciiBlank : CharSet := union (span '\t' '\r') (only ' ')

/-- The set with a name between colons. -/
def named? (name : String) : Option CharSet :=
  [("alnum", union asciiLetter asciiDigit), ("alpha", asciiLetter), ("ascii", span '\x00' '\x7f'),
    ("blank", union (only '\t') (only ' ')), ("cntrl", union (span '\x00' '\x1f') (only '\x7f')),
    ("digit", asciiDigit), ("graph", span '!' '~'), ("lower", span 'a' 'z'), ("print", span ' ' '~'),
    ("punct", unions [span '!' '/', span ':' '@', span '[' '\x60', span '\x7b' '~']),
    ("space", asciiBlank), ("upper", span 'A' 'Z'), ("word", asciiWord),
    ("xdigit", unions [asciiDigit, span 'a' 'f', span 'A' 'F'])].lookup name

/-! ## Properties -/

open Text.Category in
/-- The letters of any kind. -/
def letter : CharSet :=
  unions ([upperLetter, lowerLetter, titleLetter, modifierLetter, otherLetter].map listed)

open Text.Category in
/-- The cased letters. -/
def casedLetter : CharSet := unions ([upperLetter, lowerLetter, titleLetter].map listed)

open Text.Category in
/-- The marks of any kind. -/
def mark : CharSet := unions ([nonspacingMark, spacingMark, enclosingMark].map listed)

open Text.Category in
/-- The numbers of any kind. -/
def number : CharSet := unions ([decimalNumber, letterNumber, otherNumber].map listed)

open Text.Category in
/-- The punctuation of any kind. -/
def punctuation : CharSet :=
  unions ([connector, dash, openPunctuation, closePunctuation, openingQuote, closingQuote,
    otherPunctuation].map listed)

open Text.Category in
/-- The symbols of any kind. -/
def symbol : CharSet := unions ([mathSymbol, currencySymbol, modifierSymbol, otherSymbol].map listed)

open Text.Category in
/-- The separators of any kind. -/
def separator : CharSet := unions ([space, lineSeparator, paragraphSeparator].map listed)

/-- The characters of no other category. -/
def otherCategory : CharSet :=
  complement (unions [letter, mark, number, punctuation, symbol, separator])

open Text.Category in
/-- The properties by their names, short and long. -/
def properties : List (List String × CharSet) :=
  [(["any"], all), (["ascii"], span '\x00' '\x7f'), (["alphabetic", "alpha"], alphabetic),
    (["whitespace", "wspace", "space"], blank),
    (["assigned"], union (complement otherCategory) (unions ([control, format, privateUse].map listed))),
    (["l", "letter"], letter), (["lc", "casedletter"], casedLetter),
    (["lu", "uppercaseletter"], listed upperLetter), (["ll", "lowercaseletter"], listed lowerLetter),
    (["lt", "titlecaseletter"], listed titleLetter), (["lm", "modifierletter"], listed modifierLetter),
    (["lo", "otherletter"], listed otherLetter), (["m", "mark", "combiningmark"], mark),
    (["mn", "nonspacingmark"], listed nonspacingMark), (["mc", "spacingmark"], listed spacingMark),
    (["me", "enclosingmark"], listed enclosingMark), (["n", "number"], number),
    (["nd", "decimalnumber", "digit"], digit), (["nl", "letternumber"], listed letterNumber),
    (["no", "othernumber"], listed otherNumber), (["p", "punctuation", "punct"], punctuation),
    (["pc", "connectorpunctuation"], listed connector), (["pd", "dashpunctuation"], listed dash),
    (["ps", "openpunctuation"], listed openPunctuation),
    (["pe", "closepunctuation"], listed closePunctuation),
    (["pi", "initialpunctuation"], listed openingQuote),
    (["pf", "finalpunctuation"], listed closingQuote),
    (["po", "otherpunctuation"], listed otherPunctuation), (["s", "symbol"], symbol),
    (["sm", "mathsymbol"], listed mathSymbol), (["sc", "currencysymbol"], listed currencySymbol),
    (["sk", "modifiersymbol"], listed modifierSymbol), (["so", "othersymbol"], listed otherSymbol),
    (["z", "separator"], separator), (["zs", "spaceseparator"], listed space),
    (["zl", "lineseparator"], listed lineSeparator),
    (["zp", "paragraphseparator"], listed paragraphSeparator), (["c", "other"], otherCategory),
    (["cc", "control", "cntrl"], listed control), (["cf", "format"], listed format),
    (["co", "privateuse"], listed privateUse)]

/-- The set of a property; case, blanks, hyphens and low lines in its name do not matter. -/
def property? (name : List Char) : Option CharSet :=
  let kept := name.filter fun c => !(Text.isBlank c || c == '-' || c == '_')
  let key := String.ofList (kept.map Text.asciiLower)
  (properties.find? fun (names, _) => names.contains key).map (·.2)

end CharSet

end Microbench.Pattern
