import Microbench.Toml.Value

/-!
# Tables under construction

A settings file adds to its tables line by line. An `Item` remembers how a table came to be: only
mentioned on the way to another one, spelled by dotted keys, or opened by a header. A header opens
a table once, dotted keys extend only tables that dotted keys made, and nothing is set twice.
-/

namespace Microbench.Toml

/-- What a key of a table under construction stands for. -/
inductive Item where
  | value (v : Toml)
  /-- A table, whether it was only mentioned, and whether dotted keys made it. -/
  | table (mentioned dotted : Bool) (entries : List (String × Item))
  /-- The tables of a list, the last one being under construction. -/
  | tables (items : List Item)

namespace Item

/-- The file before its first line. -/
def root : Item := .table false false []

/-- The entries with one replaced or added at the end. -/
def setEntry (key : String) (item : Item) : List (String × Item) → List (String × Item)
  | [] => [(key, item)]
  | (k, i) :: rest => if k = key then (k, item) :: rest else (k, i) :: setEntry key item rest

/-- Changes the last table of a list. -/
def changeLast (f : Item → Option Item) (items : List Item) : Option Item := do
  let last ← items.getLast?
  return .tables (items.dropLast ++ [← f last])

/-- Changes the table at the end of a path, making the tables on the way that are missing. -/
def change (dotted : Bool) : List String → (Item → Option Item) → Item → Option Item
  | [], f, t => f t
  | key :: path, f, t =>
    match t with
    | .table mentioned d entries =>
      let put (item : Item) : Item := .table mentioned d (setEntry key item entries)
      match entries.lookup key with
      | none => (change dotted path f (.table true dotted [])).map put
      | some (.value _) => none
      | some (.tables items) => (changeLast (change dotted path f) items).map put
      | some (.table m d' es) =>
        if dotted && !m then none else (change dotted path f (.table m d' es)).map put
    | _ => none

/-- Applies a change to a table, or to the last of a list of tables. -/
def inside (f : Item → Option Item) : Item → Option Item
  | .tables items => changeLast f items
  | item => f item

/-- Sets a key of a table; `direct` says that no dotted key led to the table. -/
def setValue (direct : Bool) (key : String) (v : Toml) : Item → Option Item
  | .table mentioned dotted entries =>
    if dotted == direct || (entries.lookup key).isSome then none
    else some (.table mentioned dotted (setEntry key (.value v) entries))
  | _ => none

/-- Sets a dotted key of a table. -/
def setDotted (path : List String) (key : String) (v : Toml) : Item → Option Item :=
  change true path (setValue path.isEmpty key v)

/-- Opens the table that a header names. -/
def openTable (path : List String) (key : String) : Item → Option Item :=
  change false path fun t =>
    match t with
    | .table mentioned dotted entries =>
      let put (item : Item) : Item := .table mentioned dotted (setEntry key item entries)
      match entries.lookup key with
      | none => some (put (.table false false []))
      | some (.table true false es) => some (put (.table false false es))
      | some _ => none
    | _ => none

/-- Adds a table to the list that a header names. -/
def openNext (path : List String) (key : String) : Item → Option Item :=
  change false path fun t =>
    match t with
    | .table mentioned dotted entries =>
      let put (item : Item) : Item := .table mentioned dotted (setEntry key item entries)
      match entries.lookup key with
      | none => some (put (.tables [.table false false []]))
      | some (.tables items) => some (put (.tables (items ++ [.table false false []])))
      | some _ => none
    | _ => none

/-- Changes the table at a path of header names. -/
def changeAt : List String → (Item → Option Item) → Item → Option Item
  | [], f, t => f t
  | key :: path, f, t =>
    match t with
    | .table mentioned d entries => do
      let item ← entries.lookup key
      let item ← inside (changeAt path f) item
      pure (.table mentioned d (setEntry key item entries))
    | _ => none

mutual

/-- The finished value. -/
def finish : Item → Toml
  | .value v => v
  | .table _ _ entries => Toml.ofEntries (finishEntries entries)
  | .tables items => .array (finishItems items)

/-- The finished entries. -/
def finishEntries : List (String × Item) → List (String × Toml)
  | [] => []
  | (k, i) :: rest => (k, finish i) :: finishEntries rest

/-- The finished tables. -/
def finishItems : List Item → List Toml
  | [] => []
  | i :: rest => finish i :: finishItems rest

end

end Item

end Microbench.Toml
