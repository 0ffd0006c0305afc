import Microbench.Bytes
import Microbench.Failure.System
import Microbench.Path

/-!
# The disk

Directories and files, named by the list of names from the root. A path is followed name by name:
every name but the last must be a directory, and two dots lead to the directory above the one
reached. `Disk.faults` says which accesses fail for reasons of their own; a failed access leaves
the disk as it was.
-/

namespace Microbench

/-- What a name stands for. -/
inductive Node where
  | directory
  | file (content : Bytes)
  deriving DecidableEq

/-- A tree of directories and files, and the place where relative paths start. -/
structure Disk where
  /-- The nodes below the root, by their names from the root. -/
  nodes : List (List String × Node) := []
  /-- Where relative paths start. -/
  here : List String := []
  /-- The failure of each access, by its number; normally none. -/
  faults : Nat → Option SystemError := fun _ => none
  /-- How many accesses there were. -/
  accesses : Nat := 0

/-- An action on the disk. -/
abbrev Access := ExceptT IoFailure (StateM Disk)

namespace Disk

/-- What stands at a place; the root is a directory. -/
def node? (d : Disk) (place : List String) : Option Node :=
  if place.isEmpty then some .directory else d.nodes.lookup place

/-- The disk with something put at a place. -/
def put (d : Disk) (place : List String) (node : Node) : Disk :=
  { d with nodes := (place, node) :: d.nodes.filter fun e => e.1 != place }

/-- The disk with a directory at a place, and with those above it. -/
def addDirectory (d : Disk) (place : List String) : Disk :=
  (List.range place.length).foldl (fun d n =>
    let above := place.take (n + 1)
    if (d.node? above).isSome then d else d.put above .directory) d

/-- The disk with a file at a place, and with the directories above it. -/
def addFile (d : Disk) (place : List String) (content : Bytes) : Disk :=
  (d.addDirectory place.dropLast).put place (.file content)

/-- What stands on a disk where something else or nothing stood before, the upper places first. -/
def changesSince (d before : Disk) : List (List String × Node) :=
  (d.nodes.filter fun e => before.node? e.1 != some e.2).mergeSort
    fun a b => a.1.length ≤ b.1.length

/-- The longest name, in bytes. -/
def longestName : Nat := 255

/-- The longest path, in bytes, with the mark at its end. -/
def longestPath : Nat := 4096

/-- Follows names from a directory. The last name need not stand for anything. -/
def follow (d : Disk) (place : List String) : List String → Except SystemError (List String)
  | [] => .ok place
  | name :: rest =>
    if name == ".." then d.follow place.dropLast rest
    else if longestName < name.utf8ByteSize then .error .nameTooLong
    else
      let next := place ++ [name]
      if rest.isEmpty then .ok next
      else match d.node? next with
        | some .directory => d.follow next rest
        | some (.file _) => .error .notDirectory
        | none => .error .noEntry

/-- Whether a path can only name a directory. -/
def endsInSlash (path : String) : Bool := path.toList.getLast? == some '/'

/-- Whether the last name of a path is a single dot, which only a directory has. -/
def endsInDot (path : String) : Bool :=
  ((Text.cutText '/' path).filter fun n => !n.isEmpty).getLast? == some "."

/-- The place that a path names. -/
def locate (d : Disk) (path : String) : Except IoFailure (List String) :=
  if path.toList.contains '\x00' then .error .nulInName
  else if path.isEmpty then .error (.system .noEntry)
  else if longestPath ≤ path.utf8ByteSize then .error (.system .nameTooLong)
  else
    match d.follow (if Path.isAbsolute path then [] else d.here) (Path.names path) with
    | .error e => .error (.system e)
    | .ok place =>
      match d.node? place with
      | some (.file _) =>
        if endsInSlash path || endsInDot path then .error (.system .notDirectory) else .ok place
      | none => if endsInDot path then .error (.system .noEntry) else .ok place
      | some .directory => .ok place

/-- What a path names, if it names anything. -/
def find? (d : Disk) (path : String) : Option Node :=
  match d.locate path with
  | .ok place => d.node? place
  | .error _ => none

/-- The full path of what a path leads to, if there is anything. -/
def canonical? (d : Disk) (path : String) : Option String :=
  match d.locate path with
  | .ok place => (d.node? place).map fun _ => Path.ofNames true place
  | .error _ => none

/-- Whether a path names a directory. -/
def isDirectory (d : Disk) (path : String) : Bool := d.find? path == some .directory

/-- Whether a path names anything. -/
def holds (d : Disk) (path : String) : Bool := (d.find? path).isSome

end Disk

namespace Access

/-- Counts an access; it may fail for reasons of its own. -/
def begin : Access Unit := do
  let d ← get
  set { d with accesses := d.accesses + 1 }
  match d.faults d.accesses with
  | some e => throw (.system e)
  | none => pure ()

/-- The place that a path names. -/
def locate (path : String) : Access (List String) := do
  match (← get).locate path with
  | .ok place => pure place
  | .error e => throw e

/-- Makes one directory. -/
def makeDirectory (path : String) : Access Unit := do
  begin
  let place ← locate path
  let d ← get
  match d.node? place with
  | some _ => throw (.system .alreadyExists)
  | none => set (d.put place .directory)

/-- Makes a directory; one that is there will do. -/
def ensureDirectory (path : String) : Access Unit := fun d =>
  match (makeDirectory path).run d with
  | (.error e, d') => if d'.isDirectory path then (.ok (), d') else (.error e, d')
  | done => done

/-- Makes a directory after those above it, as far as they are missing. -/
def makeWithParents (path : String) : List String → Access Unit
  | [] => ensureDirectory path
  | above :: rest => fun d =>
    match (ensureDirectory path).run d with
    | (.error (.system .noEntry), d') =>
      match (makeWithParents above rest).run d' with
      | (.ok (), d'') => (ensureDirectory path).run d''
      | failed => failed
    | done => done

/-- Makes a directory and those above it, as far as they are missing. -/
def makeDirectories (path : String) : Access Unit :=
  if path.isEmpty then pure () else makeWithParents path (Path.ancestors path)

/-- Makes an empty file, or empties the one there. -/
def createFile (path : String) : Access (List String) := do
  begin
  let place ← locate path
  let d ← get
  match d.node? place with
  | some .directory => throw (.system .isDirectory)
  | none =>
    if Disk.endsInSlash path then throw (.system .isDirectory)
    else set (d.put place (.file []))
  | some (.file _) => set (d.put place (.file []))
  pure place

/-- Adds bytes at the end of the file at a place. -/
def append (place : List String) (bytes : Bytes) : Access Unit := do
  begin
  let d ← get
  match d.node? place with
  | some (.file content) => set (d.put place (.file (content ++ bytes)))
  | _ => pure ()

/-- Makes a file of the given content. -/
def writeFile (path : String) (bytes : Bytes) : Access Unit := do
  let place ← createFile path
  if bytes.isEmpty then pure () else append place bytes

/-- The bytes of a file. -/
def readBytes (path : String) : Access Bytes := do
  begin
  let place ← locate path
  match (← get).node? place with
  | some (.file content) => pure content
  | some .directory => throw (.system .isDirectory)
  | none => throw (.system .noEntry)

/-- The text of a file. -/
def readText (path : String) : Access String := do
  match (← readBytes path).text? with
  | some s => pure s
  | none => throw .notText

end Access

end Microbench
