import Microbench.Decimal.Reading
import Microbench.Json.Reader
import Microbench.Scripted.Script

/-!
# Scripts as documents

A script is written as a document. Floats stand in it with their bits, sixteen hexadecimal digits
after `0x`, whole numbers as numbers or as texts; what is missing counts as not given.
-/

namespace Microbench.Scripted

/-- A field of a record; null if there is none. -/
def field (v : Json) (name : String) : Json :=
  match v with
  | .object fields => (fields.lookup name).getD .null
  | _ => .null

/-- A text, if it is one. -/
def text? : Json → Option String
  | .text s => some s
  | _ => none

/-- A text, empty if it is none. -/
def text (v : Json) : String := (text? v).getD ""

/-- The items of a list; none if it is no list. -/
def items? : Json → Option (List Json)
  | .array vs => some vs
  | _ => none

/-- The items of a list; no items if it is no list. -/
def items (v : Json) : List Json := (items? v).getD []

/-- An integer, as a number or as a text. -/
def integer? : Json → Option Int
  | .text s => Decimal.readSigned (-Nat.pow 2 64) (Nat.pow 2 64) s
  | .number n =>
    match n.value? with
    | some (.whole k) => some k
    | some (.belowZero k) => some (-(k + 1 : Int))
    | _ => none
  | _ => none

/-- A whole number; zero if it is none. -/
def natural (v : Json) : Nat := ((integer? v).getD 0).toNat

/-- A float given by its bits. -/
def float? : Json → Option Float
  | .text "nan" => some Decimal.notANumber
  | .text s => (Text.hexValue? (s.toList.drop 2)).map fun n => Float.ofBits (UInt64.ofNat n)
  | _ => none

/-- A float as it stands in a document: by its bits. -/
def ofFloat (x : Float) : Json :=
  .text (if x.isNaN then "nan" else String.ofList ('0' :: 'x' :: Text.hexPadded 16 x.toBits.toNat))

/-- An error: its kind and what belongs to it; `fuel` bounds the causes behind one another. -/
def error : Nat → Json → BenchError
  | 0, _ => .message ""
  | fuel + 1, v =>
    let get (name : String) : String := text (field v name)
    let cause (_ : Unit) : BenchError := error fuel (field v "source")
    let trace := text? (field v "backtrace")
    match get "kind" with
    | "io" => .io (.other (get "msg"))
    | "setup" => .setUp (get "suite") (cause ())
    | "operation" => .operation (get "group") (get "run") (cause ()) trace
    | "panic" => .panic (get "group") (get "msg") trace
    | "unknown" => .unknownSuite (get "msg")
    | "missing" => .missingProperties (get "suite") ((items (field v "missing")).map text)
    | "report_io" => .record (.io (.other (get "msg")))
    | "report_json" => .record (.json (get "msg"))
    | "not_open" => .record .notOpen
    | "malformed" => .record (.malformed (natural (field v "line")) (get "msg"))
    | _ => .message (get "msg")

/-- The hook that a word stands for. -/
def hook? (s : String) : Option Hook :=
  [("init", Hook.setUp), ("operations", .operations), ("group_start", .groupStarts),
    ("run_start", .runStarts), ("rep_start", .repetitionStarts), ("call", .call),
    ("run_end", .runEnds), ("group_end", .groupEnds), ("report", .groupFailed),
    ("dispose", .tearDown)].lookup s

/-- What a reaction does. -/
def act? (v : Json) : Option Act :=
  let message := text (field v "msg")
  let number := natural (field v "n")
  [("err", Act.fail (error 100 (field v "error"))), ("panic", .panic message),
    ("panic_static", .panic "static panic text"), ("panic_any", .panicSilently),
    ("calls", .setCalls number), ("reps", .setRepetitions number), ("delay_ms", .setDelay number),
    ("print", .print message), ("eprint", .printError message),
    ("print_property", .printProperty message), ("print_knobs", .printKnobs),
    ("row", .row ((items (field v "cells")).map text)), ("standard_rows", .standardRows),
    ("mkdir", .makeDirectory message), ("exit", .exit ((integer? (field v "n")).getD 0)),
    ("kill", .kill)].lookup (text (field v "do"))

/-- A reaction, if hook and act are known. -/
def reaction? (v : Json) : Option Reaction := do
  let number (name : String) : Option Nat := (integer? (field v name)).map Int.toNat
  return {
    hook := ← hook? (text (field v "hook"))
    condition := {
      group := text? (field v "group")
      run := text? (field v "run")
      repetition := number "rep"
      call := number "nth" }
    act := ← act? v }

/-- A run of a group. -/
def plannedRun (v : Json) : PlannedRun where
  name := text (field v "name")
  scaling :=
    match field v "plain" with
    | .bool true => none
    | _ => some ((float? (field v "factor")).getD 0.0, (integer? (field v "increment")).getD 0)

/-- A group. -/
def plannedGroup (v : Json) : PlannedGroup where
  name := text (field v "name")
  runs := (items? (field v "runs")).map (·.map plannedRun)

/-- The script in a document. -/
def Script.ofJson (v : Json) : Script where
  groups := (items (field v "groups")).map plannedGroup
  reactions := (items (field v "on")).filterMap reaction?
  title := text? (field v "title")
  headers := (items? (field v "headers")).map (·.map text)

end Microbench.Scripted
