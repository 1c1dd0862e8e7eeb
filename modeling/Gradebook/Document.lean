/-
# Gradebook.Document — the values of exchanged documents

Stored rows, course files and settings all hold the same kinds of values: a
`Tree` of scalars, lists and tables. The entries of a table keep the order and
the repetitions of the document, so that a reader can refuse a repeated field.

A scalar that can be skipped but never read is `unusable`: a number beyond the
doubles or a text with half a surrogate pair does no harm in a field nobody asks
for. Leaves remember how much of the document followed them (`left`), which is
enough to say where a misfit stands.
-/
import Gradebook.Decimal.Double

namespace Gradebook

set_option autoImplicit false

/-- A value without parts. -/
inductive Scalar where
  | null
  | truth (value : Bool)
  | natural (n : Nat)
  | negative (n : Nat)
  | double (x : Double)
  | text (s : String)
  | moment (s : String)
  | unusable (reason : String)

/-- A document value. -/
inductive Tree where
  | leaf (value : Scalar) (left : Nat)
  | list (items : List Tree)
  | table (entries : List (String × Tree))

namespace Tree

instance : Inhabited Tree := ⟨.leaf .null 0⟩

def null : Tree := .leaf .null 0
def truth (value : Bool) : Tree := .leaf (.truth value) 0
def natural (n : Nat) : Tree := .leaf (.natural n) 0
def double (x : Double) : Tree := .leaf (.double x) 0
def float (x : Float) : Tree := .double (.ofFloat x)
def text (s : String) : Tree := .leaf (.text s) 0

/-- `null` for an absent value. -/
def optional {α : Type} (f : α → Tree) : Option α → Tree
  | none => null
  | some a => f a

mutual

/-- How deep lists and tables are nested. -/
def depth : Tree → Nat
  | .leaf _ _ => 0
  | .list items => depthList items + 1
  | .table entries => depthEntries entries + 1

def depthList : List Tree → Nat
  | [] => 0
  | t :: rest => max (depth t) (depthList rest)

def depthEntries : List (String × Tree) → Nat
  | [] => 0
  | (_, t) :: rest => max (depth t) (depthEntries rest)

end

mutual

/-- No scalar in the tree is unusable. -/
def isUsable : Tree → Bool
  | .leaf (.unusable _) _ => false
  | .leaf _ _ => true
  | .list items => isUsableList items
  | .table entries => isUsableEntries entries

def isUsableList : List Tree → Bool
  | [] => true
  | t :: rest => isUsable t && isUsableList rest

def isUsableEntries : List (String × Tree) → Bool
  | [] => true
  | (_, t) :: rest => isUsable t && isUsableEntries rest

end

mutual

/-- The same tree with the entries of every table in ascending key order. -/
def sorted : Tree → Tree
  | .leaf value left => .leaf value left
  | .list items => .list (sortedList items)
  | .table entries =>
    .table ((sortedEntries entries).mergeSort fun a b => decide (a.1 ≤ b.1))

def sortedList : List Tree → List Tree
  | [] => []
  | t :: rest => sorted t :: sortedList rest

def sortedEntries : List (String × Tree) → List (String × Tree)
  | [] => []
  | (key, t) :: rest => (key, sorted t) :: sortedEntries rest

end

/-- The kind of a value, as messages name it. -/
def kindName : Tree → String
  | .leaf .null _ => "null"
  | .leaf (.truth true) _ => "boolean true"
  | .leaf (.truth false) _ => "boolean false"
  | .leaf (.natural _) _ => "integer"
  | .leaf (.negative _) _ => "integer"
  | .leaf (.double _) _ => "floating point number"
  | .leaf (.text _) _ => "string"
  | .leaf (.moment _) _ => "datetime"
  | .leaf (.unusable reason) _ => reason
  | .list _ => "sequence"
  | .table _ => "map"

/-- What followed the value in its document. -/
def left : Tree → Nat
  | .leaf _ left => left
  | _ => 0

end Tree

end Gradebook
