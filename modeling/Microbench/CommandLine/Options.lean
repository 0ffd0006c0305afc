import Microbench.Decimal.Digits
import Microbench.Properties.Pair

/-!
# The command line

What a command line asks for, the options that it is written with, and why one cannot be followed.
-/

namespace Microbench

/-- A command other than to run suites. -/
inductive Command where
  | list
  | init (force : Bool)
  deriving DecidableEq, Repr

/-- What a command line asks for. -/
structure CommandLine where
  command : Option Command := none
  suites : List String := []
  output : Option String := none
  inProcess : Bool := false
  properties : List (String × String) := []
  warmupDelay : Option String := none
  calls : Option Nat := none
  repetitions : Option Nat := none
  /-- MiB. -/
  memoryLimit : Option Nat := none
  filter : Option String := none
  verbose : Bool := false
  /-- The arguments of a worker. -/
  worker : Option (List String) := none

namespace CommandLine

/-- Options with values. -/
inductive ValueOption where
  | output
  | property
  | warmupDelay
  | calls
  | repetitions
  | memoryLimit
  | filter
  | worker
  deriving DecidableEq, Repr

/-- Options without a value. -/
inductive Switch where
  | inProcess
  | verbose
  | help
  | version
  deriving DecidableEq, Repr

/-- An option. -/
inductive Flag where
  | value (o : ValueOption)
  | switch (s : Switch)
  deriving DecidableEq, Repr

/-- The options by their long names. -/
def longNames : List (String × Flag) :=
  [("output", .value .output), ("in-process", .switch .inProcess),
    ("warmup-delay", .value .warmupDelay), ("calls", .value .calls),
    ("repetitions", .value .repetitions), ("memory-limit-mb", .value .memoryLimit),
    ("filter", .value .filter), ("verbose", .switch .verbose), ("suite-worker", .value .worker),
    ("help", .switch .help), ("version", .switch .version)]

/-- The options by their short names. -/
def shortNames : List (Char × Flag) :=
  [('o', .value .output), ('D', .value .property), ('v', .switch .verbose), ('h', .switch .help),
    ('V', .switch .version)]

/-- An option as a reader is shown it. -/
def shownFlag : Flag → String
  | .value .output => "--output <OUTPUT>"
  | .value .property => "-D <KEY=VALUE>"
  | .value .warmupDelay => "--warmup-delay <WARMUP_DELAY>"
  | .value .calls => "--calls <CALLS>"
  | .value .repetitions => "--repetitions <REPETITIONS>"
  | .value .memoryLimit => "--memory-limit-mb <MEMORY_LIMIT_MB>"
  | .value .filter => "--filter <FILTER>"
  | .value .worker => "--suite-worker <ARG> <ARG> <ARG> <ARG>..."
  | .switch .inProcess => "--in-process"
  | .switch .verbose => "--verbose"
  | .switch .help => "--help"
  | .switch .version => "--version"

/-- The fewest values of a worker. -/
def fewestWorkerArguments : Nat := 4

/-- Why a command line is not followed. -/
inductive UsageError where
  /-- The value of an option is not what it has to be. -/
  | badValue (option : ValueOption) (text : String) (reason : String)
  | missingValue (option : ValueOption)
  /-- An argument that means nothing; `given` are the options before it, if they are known. -/
  | unknownArgument (argument : String) (given : List Flag)
  | needlessValue (option : String)
  | tooFewValues (count : Nat)
  | repeated (option : String)
  | unknownCommand (name : String)
  /-- Help was asked for. -/
  | help
  /-- The version was asked for. -/
  | version
  deriving DecidableEq, Repr

namespace UsageError

/-- How the program is used, after the options that were given. -/
def usage (program : String) (given : List Flag) : String :=
  "Usage: " ++ program ++
    match given with
    | [] => " [OPTIONS] [SUITES]... [COMMAND]"
    | given => String.join (given.map fun f => " " ++ shownFlag f) ++ " [SUITES]..."

/-- What is wrong. -/
def summary : UsageError → String
  | badValue option text reason =>
    "invalid value '" ++ text ++ "' for '" ++ shownFlag (.value option) ++ "': " ++ reason
  | missingValue option =>
    "a value is required for '" ++ shownFlag (.value option) ++ "' but none was supplied"
  | unknownArgument argument _ =>
    "unexpected argument '" ++ argument ++ "' found\n\n  tip: to pass '" ++ argument ++
      "' as a value, use '-- " ++ argument ++ "'"
  | needlessValue option => "unexpected value for '" ++ option ++ "' found; no more were expected"
  | tooFewValues count =>
    Decimal.text fewestWorkerArguments ++ " values required by '" ++ shownFlag (.value .worker) ++
      "'; only " ++ Decimal.text count ++ (if 1 < count then " were provided" else " was provided")
  | repeated option => "the argument '" ++ option ++ "' cannot be used multiple times"
  | unknownCommand name => "unrecognized subcommand '" ++ name ++ "'"
  | help => ""
  | version => ""

/-- What is printed of the error. -/
def report (program : String) (e : UsageError) : String :=
  let usage := match e with
    | badValue .. => ""
    | missingValue _ => ""
    | unknownArgument _ given => "\n\n" ++ usage program given
    | _ => "\n\n" ++ usage program []
  "error: " ++ e.summary ++ usage ++ "\n\nFor more information, try '--help'.\n"

end UsageError

end CommandLine

end Microbench
