import Microbench.Arithmetic
import Microbench.CommandLine.Options

/-!
# Reading command lines

Arguments are read one after the other. An option with a value takes the next argument, unless that
looks like an option itself; the option of a worker goes on taking arguments. What an option was
given is looked at only when the next option or suite comes, or the end: an argument that means
nothing in between is reported first.

A command is recognised wherever no value and no further suite is expected. After two hyphens all
arguments are suites.
-/

namespace Microbench.CommandLine

/-- What takes the values that come next. -/
inductive Taker where
  | option (o : ValueOption)
  | suites
  deriving DecidableEq, Repr

/-- What is known after some arguments. -/
structure State where
  line : CommandLine := {}
  /-- The options that were given, in order. -/
  given : List Flag := []
  /-- Values that were not looked at yet, and what takes them. -/
  pending : Option (Taker × List String) := none
  /-- What the next argument goes to, if it can go there. -/
  expecting : Option Taker := none

/-- Whether an option may be given only once. -/
def ValueOption.isSingle : ValueOption → Bool
  | .property => false
  | .worker => false
  | _ => true

/-- A count of up to 64 bits. -/
def readCount (o : ValueOption) (text : String) : Except UsageError Nat :=
  match Decimal.readUnsigned greatestWord text with
  | some n => .ok n
  | none => .error (.badValue o text "invalid digit found in string")

/-- Takes up one value of an option. -/
def takeValue (line : CommandLine) (o : ValueOption) (text : String) : Except UsageError CommandLine :=
  match o with
  | .output =>
    if text.isEmpty then .error (.missingValue .output) else .ok { line with output := some text }
  | .property =>
    match PropertyPair.read text with
    | .ok p => .ok { line with properties := line.properties ++ [p] }
    | .error e => .error (.badValue .property text e.message)
  | .warmupDelay => .ok { line with warmupDelay := some text }
  | .calls => do return { line with calls := some (← readCount o text) }
  | .repetitions => do return { line with repetitions := some (← readCount o text) }
  | .memoryLimit => do return { line with memoryLimit := some (← readCount o text) }
  | .filter => .ok { line with filter := some text }
  | .worker => .ok { line with worker := some (line.worker.getD [] ++ [text]) }

/-- Takes up the values of an option. -/
def takeValues (s : State) (o : ValueOption) (values : List String) : Except UsageError State := do
  if values.isEmpty then throw (.missingValue o)
  if o = .worker && values.length < fewestWorkerArguments then throw (.tooFewValues values.length)
  if o.isSingle && s.given.contains (.value o) then throw (.repeated (shownFlag (.value o)))
  let line ← values.foldlM (takeValue · o ·) s.line
  return { s with
    line
    given := if s.given.contains (.value o) then s.given else s.given ++ [.value o] }

/-- Takes up what is pending. -/
def settle (s : State) : Except UsageError State :=
  match s.pending with
  | none => .ok s
  | some (.suites, values) =>
    .ok { s with pending := none, line := { s.line with suites := s.line.suites ++ values } }
  | some (.option o, values) => takeValues { s with pending := none } o values

/-- The options given, as far as what is pending can be taken up. -/
def settled (s : State) : List Flag :=
  match settle s with
  | .ok t => t.given.filter (· != .value .worker)
  | .error _ => s.given.filter (· != .value .worker)

/-- A switch. -/
def turnOn (s : State) (w : Switch) : Except UsageError State := do
  let s ← settle s
  let once : Except UsageError Unit :=
    if s.given.contains (.switch w) then throw (.repeated (shownFlag (.switch w))) else pure ()
  let s := { s with expecting := none }
  match w with
  | .help => throw .help
  | .version => throw .version
  | .inProcess => do
    once
    return { s with line := { s.line with inProcess := true }, given := s.given ++ [.switch w] }
  | .verbose => do
    once
    return { s with line := { s.line with verbose := true }, given := s.given ++ [.switch w] }

/-- An option whose value may be attached. -/
def takeOption (s : State) (o : ValueOption) (attached : Option String) : Except UsageError State := do
  let s ← settle s
  match attached with
  | some text => takeValues { s with expecting := none } o [text]
  | none => return { s with pending := some (.option o, []), expecting := some (.option o) }

/-- An option by its long name. -/
def takeLong (s : State) (name : String) (attached : Option String) : Except UsageError State :=
  match longNames.lookup name, attached with
  | some (.value o), _ => takeOption s o attached
  | some (.switch w), none => turnOn s w
  | some (.switch w), some _ => .error (.needlessValue (shownFlag (.switch w)))
  | none, _ => .error (.unknownArgument ("--" ++ name) (settled s))

/-- Options by their short names; what follows one with a value is its value. -/
def takeShorts (s : State) : List Char → Except UsageError State
  | [] => .ok s
  | c :: rest =>
    match shortNames.lookup c with
    | some (.switch w) => do takeShorts (← turnOn s w) rest
    | some (.value o) =>
      let attached := match rest with
        | [] => none
        | '=' :: text => some (String.ofList text)
        | text => some (String.ofList text)
      takeOption s o attached
    | none => .error (.unknownArgument (String.ofList ['-', c]) [])

/-- Whether an option takes more values than it has. -/
def takesMore (o : ValueOption) : Bool := o = .worker

/-- A value or a suite. -/
def takeArgument (s : State) (argument : String) : Except UsageError State :=
  match s.expecting, s.pending with
  | some (.option o), some (_, values) =>
    .ok { s with
      pending := some (.option o, values ++ [argument])
      expecting := if takesMore o then s.expecting else none }
  | _, some (.suites, values) =>
    .ok { s with pending := some (.suites, values ++ [argument]), expecting := some .suites }
  | _, _ => do
    let s ← settle s
    return { s with pending := some (.suites, [argument]), expecting := some .suites }

/-- The two parts of a long option: its name and the value attached to it. -/
def cutLong (cs : List Char) : String × Option String :=
  let isName (c : Char) : Bool := c != '='
  match cs.dropWhile isName with
  | [] => (String.ofList cs, none)
  | _ :: value => (String.ofList (cs.takeWhile isName), some (String.ofList value))

/-! ## Commands -/

/-- The arguments of a command, which has at most one switch of its own. -/
def readCommand (own : Option String) : Bool → List String → Except UsageError Bool
  | on, [] => .ok on
  | on, argument :: rest =>
    match argument.toList with
    | ['-', '-'] =>
      match rest with
      | [] => .ok on
      | extra :: _ => .error (.unknownArgument extra [])
    | '-' :: '-' :: cs =>
      let (name, attached) := cutLong cs
      if name == "help" || own == some name then
        if attached.isSome then .error (.needlessValue ("--" ++ name))
        else if name == "help" then .error .help
        else if on then .error (.repeated ("--" ++ name))
        else readCommand own true rest
      else .error (.unknownArgument ("--" ++ name) [])
    | '-' :: 'h' :: _ => .error .help
    | _ => .error (.unknownArgument argument [])

/-- The names of commands. -/
def commandNames : List String := ["list", "init", "help"]

/-- Help on a command; the names lead to it. -/
def helpOn : List String → UsageError
  | [] => .help
  | "help" :: rest =>
    match rest with
    | [] => .help
    | [name] => if ["list", "init"].contains name then .help else .unknownCommand name
    | _ :: name :: _ => .unknownCommand name
  | [name] => if ["list", "init"].contains name then .help else .unknownCommand name
  | name :: extra :: _ =>
    .unknownCommand (if ["list", "init"].contains name then extra else name)

/-- A command and its arguments. -/
def takeCommand (s : State) (name : String) (rest : List String) : Except UsageError CommandLine := do
  let command ←
    if name == "help" then throw (helpOn rest)
    else if name == "init" then pure (Command.init (← readCommand (some "force") false rest))
    else do
      let _ ← readCommand none false rest
      pure Command.list
  let s ← settle s
  return { s.line with command := some command }

/-! ## The whole line -/

/-- What the line asks for when all arguments are read. -/
def finish (s : State) : Except UsageError CommandLine := return (← settle s).line

/-- Arguments after two hyphens. -/
def readTrailing (s : State) : List String → Except UsageError CommandLine
  | [] => finish s
  | argument :: rest => do readTrailing (← takeArgument { s with expecting := none } argument) rest

/-- Arguments. -/
def readFrom (s : State) : List String → Except UsageError CommandLine
  | [] => finish s
  | argument :: rest =>
    if s.expecting.isNone && commandNames.contains argument then takeCommand s argument rest
    else match argument.toList with
      | ['-', '-'] => readTrailing s rest
      | '-' :: '-' :: cs =>
        let (name, attached) := cutLong cs
        do readFrom (← takeLong s name attached) rest
      | '-' :: c :: cs => do readFrom (← takeShorts s (c :: cs)) rest
      | _ => do readFrom (← takeArgument s argument) rest

/-- What the arguments ask for. -/
def ofArguments (arguments : List String) : Except UsageError CommandLine := readFrom {} arguments

end Microbench.CommandLine
