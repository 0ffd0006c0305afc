import Microbench.Json.Value

/-!
# Documents in one line

A document written without any blank between its parts, beside the form over several lines.
-/

namespace Microbench.Json

mutual

/-- A document without blanks. -/
def writeCompact : Json → List Char
  | .null => ['n', 'u', 'l', 'l']
  | .bool true => ['t', 'r', 'u', 'e']
  | .bool false => ['f', 'a', 'l', 's', 'e']
  | .number n => n.text
  | .text s => quote s
  | .array [] => ['[', ']']
  | .array (v :: vs) => '[' :: writeCompact v ++ compactItems vs ++ [']']
  | .object [] => ['\x7b', '\x7d']
  | .object ((k, v) :: fs) =>
    '\x7b' :: quote k ++ ':' :: writeCompact v ++ compactFields fs ++ ['\x7d']

/-- The items after the first. -/
def compactItems : List Json → List Char
  | [] => []
  | v :: vs => ',' :: writeCompact v ++ compactItems vs

/-- The fields after the first. -/
def compactFields : List (String × Json) → List Char
  | [] => []
  | (k, v) :: fs => ',' :: quote k ++ ':' :: writeCompact v ++ compactFields fs

end

/-- The document in one line. -/
def compact (v : Json) : String := String.ofList (writeCompact v)

end Microbench.Json
