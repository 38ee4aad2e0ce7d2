import TestCensus.Toml.Value

/-!
# Building TOML tables

A table is put together from assignments and headers in the order of the text.
While that happens, a table remembers how it came about (`Origin`), because that
decides what may still be added to it.

* A header gives a table its entries, once.  The tables on the way to it come
  about by *implication*, and a later header may still give them entries.
* An assignment with a dotted key makes *dotted* tables on its way.  Only further
  dotted keys add to them.
* A header in two brackets adds an element to an array of tables, and its last
  element is the one that later keys mean.

An assignment never replaces an entry.
-/

namespace TestCensus.Toml

/-- How a table came about. -/
inductive Origin where
  /-- By a header of its own. -/
  | headed
  /-- By the header of a table inside it. -/
  | implied
  /-- By a dotted key. -/
  | dotted
deriving DecidableEq, Repr

/-- An entry of a table that is being built. -/
inductive Item where
  /-- A value, which is complete. -/
  | value (v : Value)
  /-- A table. -/
  | table (origin : Origin) (entries : List (String × Item))
  /-- An array of tables. -/
  | tables (elements : List (List (String × Item)))

instance : Inhabited Item := ⟨.tables []⟩

/-- The entries of a table that is being built. -/
abbrev Entries := List (String × Item)

namespace Entries

/-- The entries with the item of a key replaced. -/
def replace (es : Entries) (key : String) (item : Item) : Entries :=
  es.map fun e => if e.1 = key then (key, item) else e

/-- Changes the last element of a list. -/
def changeLast (f : Entries → Option Entries) : List Entries → Option (List Entries)
  | [] => none
  | [es] => (f es).map ([·])
  | es :: rest => (changeLast f rest).map (es :: ·)

/-- Changes the table at a path.  Tables that are missing on the way are
implied. -/
def changeAt (f : Entries → Option Entries) : List String → Entries → Option Entries
  | [], es => f es
  | key :: path, es =>
      match es.lookup key with
      | none => do return es ++ [(key, .table .implied (← changeAt f path []))]
      | some (.table origin inner) => do
          return es.replace key (.table origin (← changeAt f path inner))
      | some (.tables elements) => do
          return es.replace key (.tables (← changeLast (changeAt f path) elements))
      | some (.value _) => none

/-- Opens the table of a header. -/
def openTable (key : String) (es : Entries) : Option Entries :=
  match es.lookup key with
  | none => some (es ++ [(key, .table .headed [])])
  | some (.table .implied inner) => some (es.replace key (.table .headed inner))
  | some _ => none

/-- Opens a new element of the array of tables of a header. -/
def openElement (key : String) (es : Entries) : Option Entries :=
  match es.lookup key with
  | none => some (es ++ [(key, .tables [[]])])
  | some (.tables elements) => some (es.replace key (.tables (elements ++ [[]])))
  | some _ => none

/-- Adds the entry of an assignment whose key has the given path before it. -/
def assign (key : String) (v : Value) : List String → Entries → Option Entries
  | [], es => if (es.lookup key).isSome then none else some (es ++ [(key, .value v)])
  | k :: path, es =>
      match es.lookup k with
      | none => do return es ++ [(k, .table .dotted (← assign key v path []))]
      | some (.table .dotted inner) => do
          return es.replace k (.table .dotted (← assign key v path inner))
      | some (.table .implied inner) =>
          if path.isEmpty then none
          else do return es.replace k (.table .implied (← assign key v path inner))
      | some (.tables elements) =>
          if path.isEmpty then none
          else do return es.replace k (.tables (← changeLast (assign key v path) elements))
      | some (.table .headed _) => none
      | some (.value _) => none

end Entries

mutual

/-- A finished item as a value. -/
def Item.toValue : Item → Value
  | .value v => v
  | .table _ es => .table (Item.toTable es)
  | .tables elements => .array (Item.toTables elements)

/-- Finished entries as those of a table. -/
def Item.toTable : List (String × Item) → List (String × Value)
  | [] => []
  | (key, item) :: rest => (key, item.toValue) :: Item.toTable rest

/-- Finished elements of an array of tables as values. -/
def Item.toTables : List (List (String × Item)) → List Value
  | [] => []
  | es :: rest => .table (Item.toTable es) :: Item.toTables rest

end

end TestCensus.Toml
