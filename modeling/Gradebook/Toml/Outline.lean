/-
# Gradebook.Toml.Outline — the tables of a document while it is read

Tables come to be in three ways: by a header of their own, on the way to another
header, or on the way of a dotted key. A table with a header, like an inline one,
is explicit: dotted keys do not enter it, and it gets no second header. Lists of
tables are entered at their last table.
-/
import Gradebook.Document

namespace Gradebook.Toml

set_option autoImplicit false

/-- What stands under a key. -/
inductive Item where
  | value (t : Tree)
  | table (isExplicit dotted : Bool) (entries : List (String × Item))
  | tables (items : List (List (String × Item)))

/-- The entries of a table, in order. -/
abbrev Entries : Type := List (String × Item)

namespace Entries

def find? (key : String) : Entries → Option Item
  | [] => none
  | e :: rest => if e.1 = key then some e.2 else find? key rest

/-- Replace the item of a key, or add it at the end. -/
def put (key : String) (item : Item) : Entries → Entries
  | [] => [(key, item)]
  | e :: rest => if e.1 = key then (key, item) :: rest else e :: put key item rest

/-- A change of the entries of a table, given whether dotted keys made the table. -/
abbrev Change : Type := Bool → Entries → Option Entries

/-- A change of the table at the end of a path. Missing tables are made on the way;
`dotted` says that the path is that of a dotted key. -/
def alter (change : Change) (dotted : Bool) : List String → Change
  | [], made, entries => change made entries
  | key :: path, _, entries =>
    match find? key entries with
    | none => do
      let inner ← alter change dotted path dotted []
      some (put key (.table false dotted inner) entries)
    | some (.value _) => none
    | some (.table isExplicit made inner) =>
      if dotted && isExplicit then none
      else do
        let inner ← alter change dotted path made inner
        some (put key (.table isExplicit made inner) entries)
    | some (.tables items) => do
      let inner ← alter change dotted path false (items.getLast?.getD [])
      some (put key (.tables (items.dropLast ++ [inner])) entries)

/-- Add a value under a new key. A dotted key may only end in a table that dotted keys
made, a plain key only in one that they did not make. -/
def insertAt (dotted : Bool) (key : String) (value : Tree) : Change := fun made entries =>
  if made ≠ dotted then none
  else match find? key entries with
    | some _ => none
    | none => some (entries ++ [(key, .value value)])

/-- Give a table its header. -/
def openTable (key : String) : Change := fun _ entries =>
  match find? key entries with
  | none => some (entries ++ [(key, .table true false [])])
  | some (.table false false inner) => some (put key (.table true false inner) entries)
  | some _ => none

/-- Begin another table of a list of tables. -/
def openNext (key : String) : Change := fun _ entries =>
  match find? key entries with
  | none => some (entries ++ [(key, .tables [[]])])
  | some (.tables items) => some (put key (.tables (items ++ [[]])) entries)
  | some _ => none

end Entries

mutual

/-- The finished value of an item. -/
def Item.toTree : Item → Tree
  | .value t => t
  | .table _ _ entries => .table (treesOf entries)
  | .tables items => .list (tablesOf items)

def treesOf : List (String × Item) → List (String × Tree)
  | [] => []
  | (key, item) :: rest => (key, item.toTree) :: treesOf rest

def tablesOf : List (List (String × Item)) → List Tree
  | [] => []
  | entries :: rest => .table (treesOf entries) :: tablesOf rest

end

/-- Add a value under a dotted key within a table. -/
def Entries.assign (keys : List String) (value : Tree) (entries : Entries) : Option Entries :=
  match keys.getLast? with
  | none => none
  | some key =>
    let path := keys.dropLast
    Entries.alter (Entries.insertAt (!path.isEmpty) key value) true path false entries

/-- A document being read: its root table and the header last seen. -/
structure Outline where
  root : Entries := []
  header : List String := []

namespace Outline

/-- A header. `next` begins another table of a list. -/
def enter (o : Outline) (next : Bool) (keys : List String) : Option Outline := do
  let key ← keys.getLast?
  let change := if next then Entries.openNext key else Entries.openTable key
  some ⟨← Entries.alter change false keys.dropLast false o.root, keys⟩

/-- A value below the header last seen. -/
def assign (o : Outline) (keys : List String) (value : Tree) : Option Outline := do
  let change : Entries.Change := fun _ entries => entries.assign keys value
  some { o with root := ← Entries.alter change false o.header false o.root }

end Outline

end Gradebook.Toml
