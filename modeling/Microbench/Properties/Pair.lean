import Microbench.Text.Character
import Microbench.Text.Quoted

/-!
# Properties as arguments

A property is given as one argument, its key and its value on the two sides of the first equality
sign. The value may be any text; a key is made of ASCII letters, digits, low lines, dots and
hyphens, and starts with none of the last two.
-/

namespace Microbench

/-- Why an argument is no property. -/
inductive PairError where
  | noValue (text : String)
  | invalidKey (key : String)
  deriving DecidableEq, Repr

/-- The text of the error. -/
def PairError.message : PairError → String
  | noValue text => "expected KEY=VALUE, got " ++ Text.quoted text
  | invalidKey key => "invalid property key " ++ Text.quoted key

namespace PropertyPair

/-- Characters that a key may start with. -/
def startsKey (c : Char) : Bool := Text.isAsciiLetter c || Text.isAsciiDigit c || c = '_'

/-- Characters that a key may go on with. -/
def continuesKey (c : Char) : Bool := startsKey c || c = '.' || c = '-'

/-- Whether the characters form a key. -/
def isKey : List Char → Bool
  | [] => false
  | c :: cs => startsKey c && cs.all continuesKey

/-- The characters before the first equality sign and those after it, if there is one. -/
def cutAtSign : List Char → Option (List Char × List Char)
  | [] => none
  | c :: cs => if c = '=' then some ([], cs) else (cutAtSign cs).map fun (k, v) => (c :: k, v)

/-- The argument for a property. -/
def write (key value : String) : String := key ++ "=" ++ value

/-- The property in an argument. -/
def read (text : String) : Except PairError (String × String) :=
  match cutAtSign text.toList with
  | none => .error (.noValue text)
  | some (key, value) =>
    if isKey key then .ok (String.ofList key, String.ofList value)
    else .error (.invalidKey (String.ofList key))

end PropertyPair

end Microbench
