import Microbench.Registry
import Microbench.Scripted.Document
import Microbench.Text.Quoted

/-!
# Scripted suites

A scripted suite follows a script and watches itself: it notes each hook with what the hook saw of
the context, and between two notes how often its operations were called. At a hook all reactions
whose conditions hold are carried out in order; an error ends the hook.

There are four kinds: one that uses every hook of a suite, one that uses every hook of a recorded
suite, and for each of the two one that leaves every hook but the first at its default.
-/

namespace Microbench.Scripted

/-- What a scripted suite remembers. -/
structure State where
  script : Script := Script.idle
  /-- The group that started last. -/
  group : String := ""
  /-- The run that started last in it. -/
  run : String := ""
  /-- The repetition that started last in that. -/
  repetition : Nat := 0
  /-- The calls since the group started. -/
  calls : Nat := 0
  /-- The calls that were not noted yet. -/
  unnoted : Nat := 0
  /-- Where the suite writes. -/
  directory : String := ""

namespace State

/-- Whether a condition holds. -/
def meets (s : State) (c : Condition) : Bool :=
  c.group.all (· == s.group) && c.run.all (· == s.run) &&
    c.repetition.all (· == s.repetition) && c.call.all (· == s.calls)

/-- What to do at a hook, in order. -/
def acts (s : State) (h : Hook) : List Act :=
  (s.script.reactions.filter fun r => decide (r.hook = h) && s.meets r.condition).map (·.act)

/-- The state after the calls were noted, and the world with the note. -/
def noteCalls (s : State) (w : World) : State × World :=
  if s.unnoted = 0 then (s, w) else ({ s with unnoted := 0 }, w.observe (.calls s.unnoted))

end State

/-! ## Acts -/

/-- Code of a scripted suite. -/
abbrev ScriptCode := Code Float State

/-- Ends the code. -/
def stop {ε σ α : Type} (e : ε) : ExceptT ε (StateM σ) α := throw e

/-- A row where no file is open to the suite. -/
def noRecorder : Stop := .panicking "no recorder"

/-- Changes knobs and notes what was refused. -/
def tune (f : String → Knobs → Knobs × List Event) : ScriptCode Unit := do
  let c ← CodeWith.context
  let (knobs, notes) := f c.suite c.knobs
  CodeWith.adjust fun c => { c with knobs }
  CodeWith.change (·.noteAll notes)

/-- The knobs in one line. -/
def knobsLine (k : Knobs) : String :=
  "calls=" ++ Decimal.text k.calls ++ " repetitions=" ++ Decimal.text k.repetitions ++
    " delay=" ++ Duration.shown k.delay ++ "\n"

/-- An act that needs neither context nor recorder; none if it does. -/
def worldAct? (directory : String) : Act → Option (Work Stop State Unit)
  | .fail e => some (stop (.failure e))
  | .panic m => some (stop (.panicking m))
  | .panicSilently => some (stop (.crash (.panic .other)))
  | .print s => some (modify fun (t, w) => (t, w.print s))
  | .printError s => some (modify fun (t, w) => (t, w.printError s))
  | .makeDirectory name => some fun (t, w) =>
    match w.access (Access.makeDirectories (Path.join directory name)) with
    | (.ok (), w) => (.ok (), t, w)
    | (.error e, w) => (.error (.failure (.io e)), t, w)
  | .exit code => some (stop (.crash (.halt (.exited code))))
  | .kill => some (stop (.crash (.halt .killed)))
  | .row _ => some (stop noRecorder)
  | .standardRows => some (stop noRecorder)
  | _ => none

/-- Carries out an act. -/
def perform (a : Act) : ScriptCode Unit := do
  let s ← get
  match a with
  | .setCalls n => tune (Knobs.offerCalls · · n)
  | .setRepetitions n => tune (Knobs.offerRepetitions · · n)
  | .setDelay n => tune fun _ k => (k.withDelay (n * 1000000), [])
  | .printProperty key =>
    let value := (← CodeWith.context).properties.get? key
    CodeWith.change (·.print (key ++ "=" ++ Text.quotedOption value ++ "\n"))
  | .printKnobs =>
    let k := (← CodeWith.context).knobs
    CodeWith.change (·.print (knobsLine k))
  | a =>
    match worldAct? s.state.directory a with
    | some x => CodeWith.ofWork x
    | none => pure ()

/-- Carries out an act where rows can be written. -/
def dictate : Act → Recorded Float State Unit
  | .row cells => Recorded.row cells
  | .standardRows => Recording.standardRows
  | a => Recorded.ofCode (perform a)

/-- Carries out acts in order. -/
def performAll : List Act → ScriptCode Unit
  | [] => pure ()
  | a :: rest => do
    perform a
    performAll rest

/-- Carries out acts in order where rows can be written. -/
def dictateAll : List Act → Recorded Float State Unit
  | [] => pure ()
  | a :: rest => do
    dictate a
    dictateAll rest

/-! ## Hooks -/

/-- Notes a hook, after the calls before it. -/
def observe {ε : Type} (f : Glimpse → Observation) : CodeWith ε Float State Unit :=
  modify fun s =>
    let (state, world) := s.state.noteCalls s.world
    { s with state, world := world.observe (f (.ofContext s.context)) }

/-- Changes what the suite remembers. -/
def remember {ε : Type} (f : State → State) : CodeWith ε Float State Unit :=
  modify fun s => { s with state := f s.state }

/-- Notes a hook and reacts to it. -/
def react (h : Hook) (f : Glimpse → Observation) : ScriptCode Unit := do
  observe f
  performAll ((← get).state.acts h)

/-- Notes a hook with its recorder and reacts to it. -/
def reactRecording (h : Hook) (f : Option RecorderView → Glimpse → Observation) :
    Recorded Float State Unit := do
  let view ← Recorded.view
  Recorded.ofCode (observe (f (some view)))
  let acts ← Recorded.ofCode (do return (← get).state.acts h)
  dictateAll acts

/-- Prepares the suite: `prepare` may give it its script. -/
def setUp (prepare : ScriptCode Unit) : ScriptCode Unit := do
  prepare
  let c ← CodeWith.context
  remember fun s => { s with directory := c.outputDirectory }
  react .setUp .setUp

/-- One call of an operation. -/
def call (acts : State → List Act) : Work Stop State Unit := fun (s, w) =>
  let s := { s with calls := s.calls + 1, unnoted := s.unnoted + 1 }
  match acts s with
  | [] => (.ok (), s, w)
  | as =>
    let start := s.noteCalls w
    (as.forM fun a => (worldAct? s.directory a).getD (pure ()) : Work Stop State Unit).run start

/-- The operation of a group. -/
def operation (g : PlannedGroup) : Operation State where
  name := g.name
  call := call (·.acts .call)

/-- The operation of a group of a suite that is not told when the group starts. -/
def bareOperation (g : PlannedGroup) : Operation State where
  name := g.name
  call := fun (s, w) => (call (·.acts .call)).run ({ s with group := g.name }, w)

/-- The operations of the groups; a reaction to being asked for them is a panic. -/
def operations : Work Crash State (List (Operation State)) := fun (s, w) =>
  let (s, w) := s.noteCalls w
  let w := w.observe .operations
  match s.acts .operations with
  | .panic m :: _ => (.error (.panic (.text m)), s, w)
  | _ :: _ => (.error (.panic (.text "")), s, w)
  | [] => (.ok (s.script.groups.map operation), s, w)

/-- The operations of the groups, for a suite that does not watch itself being asked. -/
def bareOperations : Work Crash State (List (Operation State)) :=
  return (← get).1.script.groups.map bareOperation

/-- A planned run as a run. -/
def PlannedRun.run (r : PlannedRun) : Run :=
  match r.scaling with
  | some (factor, increment) => (Run.named r.name).scaled factor increment
  | none => Run.named r.name

/-- The runs of a group: those of the first group of that name. -/
def State.runs (s : State) (group : String) : List Run :=
  match (s.script.groups.find? (·.name == group)).bind (·.runs) with
  | some rs => rs.map (·.run)
  | none => [(Run.named group).scaled 0.0 0]

/-- A group starts. -/
def groupStarts (group : String) : ScriptCode (List Run) := do
  remember fun s => { s with group, run := "", repetition := 0, calls := 0 }
  react .groupStarts (.groupStarts group)
  return (← get).state.runs group

/-- A run starts. -/
def runStarts (run : Run) : ScriptCode Unit := do
  remember fun s => { s with run := run.name, repetition := 0 }
  react .runStarts (.runStarts run)

/-- A repetition starts. -/
def repetitionStarts (run : Run) (repetition : Nat) : ScriptCode Unit := do
  remember fun s => { s with run := run.name, repetition }
  react .repetitionStarts (.repetitionStarts run.name repetition)

/-- A group failed. Errors of the reactions are passed over. -/
def groupFailed (group : String) (e : BenchError) : CodeWith Crash Float State Unit := fun s =>
  match (react .groupFailed (.groupFailed group e)).run s with
  | (.ok (), t) => (.ok (), t)
  | (.error (.failure _), t) => (.ok (), t)
  | (.error (.crash c), t) => (.error c, t)

/-! ## Suites -/

/-- A suite that uses every hook. -/
def plain (prepare : ScriptCode Unit := pure ()) : Suite Float State where
  setUp := setUp prepare
  operations := operations
  groupStarts := groupStarts
  runStarts := runStarts
  repetitionStarts := repetitionStarts
  runEnds run := react .runEnds (.runEnds run none)
  groupEnds group := react .groupEnds (.groupEnds group none)
  groupFailed := groupFailed
  tearDown := react .tearDown .tearDown

/-- A recorded suite that uses every hook. -/
def recorded (prepare : ScriptCode Unit := pure ()) : RecordedSuite Float State where
  title s := .ok s.script.title
  headers s := .ok (s.script.headers.getD Recording.standardHeaders)
  setUp := setUp prepare
  operations := operations
  determineRuns := groupStarts
  runStarts := runStarts
  repetitionStarts := repetitionStarts
  runEnds run := reactRecording .runEnds (.runEnds run)
  groupEnds group := reactRecording .groupEnds (.groupEnds group)
  tearDown := react .tearDown .tearDown

/-- A suite with nothing but its preparation and its operations. -/
def bare : Suite Float State where
  setUp := setUp (pure ())
  operations := bareOperations

/-- A recorded suite with nothing but its preparation and its operations. -/
def bareRecorded : RecordedSuite Float State where
  setUp := setUp (pure ())
  operations := bareOperations

/-- The kinds of scripted suites. -/
inductive Flavour where
  | plain
  | recorded
  | bare
  | bareRecorded
  deriving DecidableEq, Repr

/-- The suite of a script. -/
def bench (flavour : Flavour) (id : String) (script : Script) (env : Environment) : Bench Float :=
  let state : State := { script }
  match flavour with
  | .plain => .new id plain state env
  | .recorded => .recorded id recorded state env
  | .bare => .new id bare state env
  | .bareRecorded => .recorded id bareRecorded state env

/-- The kind of suite that a word stands for. -/
def Flavour.ofWord : String → Flavour
  | "recorded" => .recorded
  | "defaults" => .bare
  | "defaults_recorded" => .bareRecorded
  | _ => .plain

/-- The suite in a document, with the script in it. -/
def benchOf (v : Json) (env : Environment) : Bench Float :=
  let script := match field v "script" with
    | .null => .idle
    | s => .ofJson s
  bench (.ofWord (text (field v "flavour"))) (text (field v "id")) script env

/-- The definition of a suite in a document. -/
def definition (v : Json) : Definition Float where
  id := text (field v "id")
  description := text? (field v "description")
  requires := (items (field v "requires")).map text
  make env := .ok (benchOf v env)

/-! ## Suites that find their script among their properties -/

/-- The property that holds the script of a suite. -/
def scriptKey (id : String) : String := "oracle." ++ id

/-- Takes the script from the properties. -/
def prepareFromProperties : ScriptCode Unit := do
  let c ← CodeWith.context
  match c.properties.get? (scriptKey c.suite) with
  | none => remember fun s => { s with script := .idle }
  | some s =>
    match Json.read? s with
    | some v => remember fun t => { t with script := .ofJson v }
    | none => throw (.failure (.message "bad script"))

/-- The scripted suites that every registry has. -/
def definitions : List (Definition Float) :=
  [{ id := "alpha", description := some "Scripted recorder"
     make := fun env => .ok (.recorded "alpha" (recorded prepareFromProperties) {} env) },
   { id := "beta"
     make := fun env => .ok (.new "beta" (plain prepareFromProperties) {} env) },
   { id := "gamma", description := some "Needs a host", requires := ["gamma.host", "gamma.port"]
     make := fun env => .ok (.new "gamma" (plain prepareFromProperties) {} env) }]

end Microbench.Scripted
