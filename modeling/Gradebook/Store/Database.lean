/-
# Gradebook.Store.Database — encoded rows and scores together

What a store keeps between two sessions, and its text: a JSON object with one object
for rows and one for scores, keys in hexadecimal.
-/
import Gradebook.Store.Rows
import Gradebook.Store.Scores

namespace Gradebook

set_option autoImplicit false

namespace Text

def ofHexDigits? : List Char → Option Bytes
  | [] => some []
  | a :: b :: rest => do
    let high ← Json.hexValue? a
    let low ← Json.hexValue? b
    some (UInt8.ofNat (16 * high + low) :: (← ofHexDigits? rest))
  | _ => none

end Text

namespace ByteTable

def toTree (t : ByteTable) : Tree := .table (t.entries.map fun e => (Text.hex e.1, .text e.2))

/-- The table of a document. Anything else than texts under hexadecimal keys is none. -/
def ofTree? : Tree → Option ByteTable
  | .table entries => entries.foldlM (fun t e => match Text.ofHexDigits? e.1.toList, e.2 with
    | some key, .leaf (.text value) _ => some (t.put key value)
    | _, _ => none) ∅
  | _ => none

end ByteTable

structure Database where
  rows : EncodedRows := {}
  scores : EncodedScores := {}

namespace Database

def toText (db : Database) : String :=
  Json.write (.table [("course_grades", db.rows.table.toTree), ("scores", db.scores.table.toTree)])

def ofText? (text : String) : Option Database :=
  match Json.read? text with
  | some (.table [("course_grades", rows), ("scores", scores)]) => do
    some ⟨⟨← ByteTable.ofTree? rows⟩, ⟨← ByteTable.ofTree? scores⟩⟩
  | _ => none

end Database

end Gradebook
