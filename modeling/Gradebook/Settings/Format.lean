/-
# Gradebook.Settings.Format — the formats of settings files

The extension of a file tells its format. Whatever the format, a file must hold a
table, whose entries are laid under their keys as key expressions. Dates and times
are texts here, and a whole number beyond 63 bits is the nearest double.
-/
import Gradebook.Error
import Gradebook.Ini
import Gradebook.Json
import Gradebook.Json5
import Gradebook.Ron
import Gradebook.Settings.Layer
import Gradebook.Toml
import Gradebook.Yaml

namespace Gradebook

set_option autoImplicit false

inductive FileFormat where
  | toml
  | json
  | yaml
  | ini
  | ron
  | json5
  deriving DecidableEq, Repr

namespace FileFormat

/-- The formats by the extension of the file. -/
def extensions : List (String × FileFormat) :=
  [("toml", .toml), ("json", .json), ("yaml", .yaml), ("yml", .yaml), ("ini", .ini),
    ("ron", .ron), ("json5", .json5)]

mutual

/-- A value as settings take it: of a repeated key the last entry counts. -/
def settled : Tree → Tree
  | .leaf (.moment s) left => .leaf (.text s) left
  | .leaf (.natural n) left =>
    .leaf (if n < Nat.pow 2 63 then .natural n else .double (.ofFloat (Float.ofNat n))) left
  | .leaf value left => .leaf value left
  | .list items => .list (settledItems items)
  | .table entries => .table (settledEntries entries)

def settledItems : List Tree → List Tree
  | [] => []
  | t :: rest => settled t :: settledItems rest

def settledEntries : List (String × Tree) → List (String × Tree)
  | [] => []
  | (key, t) :: rest =>
    let later := settledEntries rest
    if rest.any (·.1 == key) then later else (key, settled t) :: later

end

/-- How deep the values of a JSON file may be nested. -/
def depthLimit : Nat := 127

/-- The JSON value of a text, if nothing in it is out of bounds. -/
def json? (text : String) : Option Tree := do
  let t ← Json.read? text
  if t.isUsable && t.depth ≤ depthLimit then some t else none

/-- The value of a YAML text. A key that cannot be a name crashes the reader. -/
def ofYaml (text : String) : Except SettingsError Tree :=
  (Yaml.read text).mapError fun
    | .strangeKey => .crashed (.text "internal error: entered unreachable code")
    | .malformed => .unreadable "malformed document"
    | .severalDocuments => .unreadable "more than one document"
    | .specialNumber => .unreadable "not a number"

/-- The value that a text in some format denotes. -/
def tree (format : FileFormat) (text : String) : Except SettingsError Tree :=
  let sound : Option Tree → Except SettingsError Tree := fun
    | some t => .ok t
    | none => .error (.unreadable "malformed document")
  match format with
  | .toml => sound ((Toml.read? text).map .table)
  | .json => sound (json? text)
  | .yaml => ofYaml text
  | .ini => sound (Ini.ofText? text)
  | .ron => sound (Ron.read? text)
  | .json5 => sound (Json5.read? text)

/-- The layer of a text. -/
def read (format : FileFormat) (text : String) : Except SettingsError Layer := do
  match ← format.tree text with
  | .table entries => .ok (settledEntries entries)
  | _ => .error (.unreadable "not a table")

end FileFormat

end Gradebook
