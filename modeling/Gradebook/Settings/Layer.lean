/-
# Gradebook.Settings.Layer — values laid over each other

A layer lists values under key expressions such as `storage.store_path`, with
points between the names of nested tables and brackets around list positions. A
later value replaces an earlier one under the same key; tables are merged entry by
entry. Keys know no case. A position that no list has is an `Overrun`.
-/
import Gradebook.Decimal.Reading
import Gradebook.Document
import Gradebook.Text.Lowercase

namespace Gradebook

set_option autoImplicit false

/-- Values under key expressions, in the order they are laid. -/
abbrev Layer : Type := List (String × Tree)

namespace Layer

/-- The entries of a table. Anything else has none. -/
def entriesOf : Tree → List (String × Tree)
  | .table entries => entries
  | _ => []

def find? (key : String) : List (String × Tree) → Option Tree
  | [] => none
  | e :: rest => if e.1 = key then some e.2 else find? key rest

def put (key : String) (value : Tree) : List (String × Tree) → List (String × Tree)
  | [] => [(key, value)]
  | e :: rest => if e.1 = key then (key, value) :: rest else e :: put key value rest

mutual

/-- Lay a value under a key of a table. What is no table becomes an empty one first. -/
def assign (key : String) : Tree → Tree → Tree
  | .table incoming, below =>
    let entries := entriesOf below
    let key := Text.lowercase key
    .table (put key (merge incoming ((find? key entries).getD (.table []))) entries)
  | .list items, below => .table (put (Text.lowercase key) (.list items) (entriesOf below))
  | .leaf value left, below =>
    .table (put (Text.lowercase key) (.leaf value left) (entriesOf below))

/-- Lay the entries of a table over a value. No entries change nothing. -/
def merge : List (String × Tree) → Tree → Tree
  | [], below => below
  | (key, value) :: rest, below => merge rest (assign key value below)

end

/-- One step into a value: into a table by name, into a list by position. Negative
positions count from the end. -/
inductive Hop where
  | name (key : String)
  | position (index : Int)

/-- The characters of names in key expressions. -/
def isNameChar (c : Char) : Bool :=
  c.toNat < 0x80 && (c.isAlphanum || c == ' ' || c == '_' || c == '-')

def name? (text : List Char) : Option (String × List Char) :=
  let name := text.takeWhile isNameChar
  if name.isEmpty then none else some (String.ofList name, text.dropWhile isNameChar)

def isGap (c : Char) : Bool := c == ' ' || c == '\t'

/-- Positions have 64 bits. -/
def isPosition (negative : Bool) (n : Nat) : Bool :=
  n < Nat.pow 2 63 || (negative && n = Nat.pow 2 63)

/-- A position behind its opening bracket. -/
def position? (text : List Char) : Option (Int × List Char) :=
  let (negative, rest) := match text.dropWhile isGap with
    | '-' :: rest => (true, rest)
    | rest => (false, rest)
  let (digits, rest) := Decimal.digitRun rest
  let n := Decimal.numberOf digits
  if digits.isEmpty || !isPosition negative n then none
  else match rest.dropWhile isGap with
    | ']' :: rest => some (if negative then -(n : Int) else n, rest)
    | _ => none

/-- The steps after the first name. -/
def hops? : Nat → List Char → Option (List Hop)
  | _, [] => some []
  | fuel + 1, '.' :: rest => do
    let (name, rest) ← name? rest
    some (.name name :: (← hops? fuel rest))
  | fuel + 1, '[' :: rest => do
    let (index, rest) ← position? rest
    some (.position index :: (← hops? fuel rest))
  | _, _ => none

/-- The steps a key expression describes. A text that is none is a single name. -/
def hopsOf (key : String) : List Hop :=
  let steps : Option (List Hop) := do
    let (name, rest) ← name? key.toList
    some (.name name :: (← hops? rest.length rest))
  steps.getD [.name key]

/-- A position that a list cannot have. Laying a value there crashes. -/
inductive Overrun where
  /-- One place before the first item. -/
  | before
  /-- Farther away than a list can be long. -/
  | beyond
  deriving DecidableEq, Repr

def Overrun.message : Overrun → String
  | .before => "index out of bounds: the len is 0 but the index is 18446744073709551615"
  | .beyond => "capacity overflow"

/-- No list is this long. -/
def lengthLimit : Nat := Nat.pow 2 32

/-- The item a position means in a list of so many items. -/
def itemAt (index : Int) (count : Nat) : Except Overrun Nat :=
  if 0 ≤ index then if index.toNat < lengthLimit then .ok index.toNat else .error .beyond
  else if index.natAbs ≤ count then .ok (count - index.natAbs)
  else .error (if index.natAbs = count + 1 then .before else .beyond)

def itemsOf : Tree → List Tree
  | .list items => items
  | _ => []

/-- A list with a new item at a place, filled up with nulls. -/
def setItem (i : Nat) (item : Tree) (items : List Tree) : List Tree :=
  (items ++ List.replicate (i + 1 - items.length) Tree.null).set i item

/-- Lay a value at the end of some steps. -/
def assignAt (value : Tree) : List Hop → Tree → Except Overrun Tree
  | [], below => .ok below
  | [.name key], below => .ok (assign key value below)
  | [.position index], below => do
    let items := itemsOf below
    .ok (.list (setItem (← itemAt index items.length) value items))
  | .name key :: rest, below => do
    let entries := entriesOf below
    let key := Text.lowercase key
    let inner ← assignAt value rest ((find? key entries).getD .null)
    .ok (.table (put key inner entries))
  | .position index :: rest, below => do
    let items := itemsOf below
    let i ← itemAt index items.length
    .ok (.list (setItem i (← assignAt value rest (items[i]?.getD .null)) items))

/-- Lay all values of a layer over what is there. -/
def laidOver (layer : Layer) (below : Tree) : Except Overrun Tree :=
  layer.foldlM (fun below e => assignAt e.2 (hopsOf e.1) below) below

/-- Layers over nothing, the last one on top. -/
def stack (layers : List Layer) : Except Overrun Tree :=
  layers.foldlM (fun below layer => layer.laidOver below) (.table [])

end Layer

end Gradebook
