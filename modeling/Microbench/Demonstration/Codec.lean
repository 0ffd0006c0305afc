import Microbench.Json.Compact
import Microbench.Json.Reader
import Microbench.Registry
import Microbench.Text.Quoted
import Microbench.Text.Split

/-!
# Encoding and decoding of documents

A purchase with a number of items is written as a document and read back. There is one run for each
item count, and each run records the bytes of the written document.
-/

namespace Microbench.Demonstration.Codec

/-- A line of a purchase. -/
structure Item where
  sku : String
  quantity : Nat
  unitPrice : Float

/-- What is written and read. -/
structure Purchase where
  id : Nat
  customer : String
  items : List Item
  notes : Option String

/-- The `i`th line. -/
def item (i : Nat) : Item where
  sku := "SKU-" ++ String.ofList (Decimal.padLeft 5 '0' (Decimal.digits i))
  quantity := i % 7 + 1
  unitPrice := 9.99 + Float.ofNat i

/-- A purchase with a number of items. -/
def purchase (items : Nat) : Purchase where
  id := 42
  customer := "ACME Corporation"
  items := (List.range items).map item
  notes := if items % 2 = 0 then some "leave at the front desk" else none

/-- An item as a document. -/
def Item.document (i : Item) : Json :=
  .object [("sku", .text i.sku), ("quantity", .ofNat i.quantity), ("unit_price", .ofFloat i.unitPrice)]

/-- A purchase as a document. -/
def Purchase.document (p : Purchase) : Json :=
  .object [("id", .ofNat p.id), ("customer", .text p.customer),
    ("items", .array (p.items.map Item.document)), ("notes", .ofText? p.notes)]

/-- A text in a document. -/
def text? : Json → Option String
  | .text s => some s
  | _ => none

/-- A whole number in a document. -/
def whole? : Json → Option Nat
  | .number n =>
    match n.value? with
    | some (.whole k) => some k
    | _ => none
  | _ => none

/-- A float in a document. -/
def float? : Json → Option Float
  | .number n => n.float?
  | _ => none

/-- The item in a document. -/
def Item.ofDocument? : Json → Option Item
  | .object fields => do
    return {
      sku := ← text? (← fields.lookup "sku")
      quantity := ← whole? (← fields.lookup "quantity")
      unitPrice := ← float? (← fields.lookup "unit_price") }
  | _ => none

/-- The notes in a document; they may be null. -/
def notes? : Json → Option (Option String)
  | .null => some none
  | .text s => some (some s)
  | _ => none

/-- The purchase in a document. -/
def Purchase.ofDocument? : Json → Option Purchase
  | .object fields => do
    let items ← match ← fields.lookup "items" with
      | .array vs => vs.mapM Item.ofDocument?
      | _ => none
    return {
      id := ← whole? (← fields.lookup "id")
      customer := ← text? (← fields.lookup "customer")
      items
      notes := ← notes? ((fields.lookup "notes").getD .null) }
  | _ => none

/-- The purchase that a text holds. -/
def read? (s : String) : Option Purchase := do Purchase.ofDocument? (← Json.read? s)

/-- What the suite remembers. -/
structure State where
  /-- The item counts to try. -/
  counts : List Nat := []
  purchase : Option Purchase := none
  encoded : String := ""

/-- The property that lists the item counts. -/
def itemsKey : String := "codec.items"

/-- One entry of the list. -/
def count? (entry : String) : Except BenchError Nat :=
  match Decimal.readUnsigned greatestWord (Text.trim entry) with
  | some n => .ok n
  | none => .error (.message ("invalid " ++ itemsKey ++ " entry " ++ Text.quoted entry))

/-- Reads the item counts. -/
def setUp {κ : Type} : Code κ State Unit := do
  let listed := ((← CodeWith.context).properties.get? itemsKey).getD "1,32"
  match (Text.cutText ',' listed).mapM count? with
  | .ok counts => modify fun s => { s with state := { s.state with counts } }
  | .error e => throw (.failure e)

/-- Writes the purchase. -/
def encode : Work Stop State Unit := fun (s, w) =>
  match s.purchase with
  | some _ => (.ok (), s, w)
  | none => (.error (.failure (.message "no document prepared")), s, w)

/-- Reads the written purchase. -/
def decode : Work Stop State Unit := fun (s, w) =>
  match read? s.encoded with
  | some _ => (.ok (), s, w)
  | none => (.error (.failure (.message "decode failed")), s, w)

/-- The item count that ends the name of a run. -/
def countOf (run : String) : Except BenchError Nat :=
  match ((Text.cutText '-' run).getLast?).bind (Decimal.readUnsigned greatestWord) with
  | some n => .ok n
  | none => .error (.message ("run " ++ run ++ " names no item count"))

/-- Prepares the purchase of a run. -/
def prepare {κ : Type} (run : Run) : Code κ State Unit := do
  match countOf run.name with
  | .error e => throw (.failure e)
  | .ok n =>
    let p := purchase n
    modify fun s =>
      { s with state := { s.state with purchase := some p, encoded := p.document.compact } }

/-- Records a run. -/
def record {κ : Type} (run : Run) : Recorded κ State Unit := do
  let order := (← Recorded.view).rows
  let encoded ← Recorded.ofCode (do return (← get).state.encoded)
  Recorded.row
    [Decimal.text order, run.name, Decimal.text encoded.utf8ByteSize,
      Decimal.signedText run.average, Decimal.fixed 3 run.deviation]

/-- The suite. -/
def suite {κ : Type} : RecordedSuite κ State where
  title _ := .ok (some "JSON codec")
  headers _ := .ok
    ["Order", "Name", "Payload (bytes)", "Operation Duration (ns)", "Operation Standard Deviation"]
  setUp := setUp
  operations := return [⟨"encode", encode⟩, ⟨"decode", decode⟩]
  determineRuns group :=
    return (← get).state.counts.map fun n => Run.named (group ++ "-" ++ Decimal.text n)
  repetitionStarts run _ := prepare run
  runEnds := record
  groupEnds _ := pure ()

/-- The suite in the registry. -/
def definition {κ : Type} [Arithmetic κ] : Definition κ where
  id := "codec"
  description := some "serde_json encoding and decoding per item count"
  make env := .ok (.recorded "codec" suite {} env)

end Microbench.Demonstration.Codec
