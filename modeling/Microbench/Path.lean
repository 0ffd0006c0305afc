import Microbench.Text.Split

/-!
# Paths

A path is a text; slashes part its names. Joining an absolute path replaces what was there.
-/

namespace Microbench.Path

/-- Whether a path starts at the root. -/
def isAbsolute (p : String) : Bool := p.toList.head? == some '/'

/-- The path `q` seen from the directory `p`. -/
def join (p q : String) : String :=
  if isAbsolute q || p.isEmpty then q
  else if p.toList.getLast? == some '/' then p ++ q
  else p ++ "/" ++ q

/-- The names of a path; repeated slashes and single dots say nothing. -/
def names (p : String) : List String :=
  (Text.cutText '/' p).filter fun n => !n.isEmpty && n != "."

/-- A path of the given names. -/
def ofNames (absolute : Bool) (ns : List String) : String :=
  (if absolute then "/" else "") ++ "/".intercalate ns

/-- The directories above a path of the given names, the nearest first; a relative path ends
before the directory that it starts from. -/
def directoriesAbove (absolute : Bool) (ns : List String) : List String :=
  let proper := (List.range ns.length).reverse.map fun n => ofNames absolute (ns.take n)
  proper.filter fun p => !p.isEmpty

/-- The directories above a path, the nearest first. -/
def ancestors (p : String) : List String := directoriesAbove (isAbsolute p) (names p)

/-- The directory that holds what the path names; a bare name is held by the empty path. -/
def parent? (p : String) : Option String :=
  match names p with
  | [] => if isAbsolute p || p.isEmpty then none else some ""
  | ns => some (ofNames (isAbsolute p) ns.dropLast)

end Microbench.Path
