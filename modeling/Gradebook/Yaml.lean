/-
# Gradebook.Yaml — reading YAML documents

A text holds at most one document; without any it is an empty table. Keys are texts
or whole numbers, which are taken for their texts. Of real numbers only those that
decimal digits can write are taken.
-/
import Gradebook.Document
import Gradebook.Yaml.Node

namespace Gradebook.Yaml

set_option autoImplicit false

/-- Why a text is no value. -/
inductive Flaw where
  | malformed
  | severalDocuments
  | specialNumber
  /-- A key that is neither a text nor a whole number. -/
  | strangeKey
  deriving DecidableEq, Repr

def ofInteger : Int → Scalar
  | .ofNat n => .natural n
  | .negSucc n => .negative (n + 1)

def keyText : Node → Except Flaw String
  | .text s => .ok s
  | .integer n => .ok (match n with
    | .ofNat n => Decimal.naturalText n
    | .negSucc n => "-" ++ Decimal.naturalText (n + 1))
  | _ => .error .strangeKey

mutual

/-- The value of a node. The first flaw counts, a key before its value. -/
def Node.toTree : Node → Except Flaw Tree
  | .null => .ok .null
  | .truth b => .ok (.truth b)
  | .integer n => .ok (.leaf (ofInteger n) 0)
  | .real text => match Decimal.doubleOfText? text with
    | some x => .ok (.double x)
    | none => .error .specialNumber
  | .text s => .ok (.text s)
  | .list items => (treesOf items).map .list
  | .table entries => (entriesOf entries).map .table

def treesOf : List Node → Except Flaw (List Tree)
  | [] => .ok []
  | node :: rest => do
    let t ← node.toTree
    .ok (t :: (← treesOf rest))

def entriesOf : List (Node × Node) → Except Flaw (List (String × Tree))
  | [] => .ok []
  | (key, value) :: rest => do
    let key ← keyText key
    let t ← value.toTree
    .ok ((key, t) :: (← entriesOf rest))

end

/-- The value of a text. -/
def read (text : String) : Except Flaw Tree :=
  match documents? text with
  | none => .error .malformed
  | some [] => .ok (.table [])
  | some [node] => node.toTree
  | some _ => .error .severalDocuments

end Gradebook.Yaml
