/-
# Gradebook.Document.Schema — reading records out of documents

A record is read from a table by field name or from a list by position. Unknown
names are passed over and a repeated name is refused. A field is `required`,
`nullable` (absent from a table or null means none) or `orElse` (a default when
absent).

Three sources have manners of their own (`Manner`): exchanged documents are
strict; course files let a list be longer than the record; settings also turn
scalars into each other, since environment text has no kinds.
-/
import Gradebook.Document
import Gradebook.Dictionary
import Gradebook.Instant.Reading
import Gradebook.Text.Lowercase

namespace Gradebook

set_option autoImplicit false

/-- Why a value does not fit, and what followed it in its document. -/
structure Misfit where
  reason : String
  left : Nat := 0

/-- What a source of documents lets pass. -/
structure Manner where
  truth? : Scalar → Option Bool
  text? : Scalar → Option String
  /-- Whether a list may be longer than the record read from it. -/
  surplus : Bool

namespace Manner

/-- Every scalar is of its own kind. -/
def strictTruth? : Scalar → Option Bool
  | .truth b => some b
  | _ => none

def strictText? : Scalar → Option String
  | .text s => some s
  | _ => none

/-- Stored rows and other exchanged documents. -/
def exchange : Manner := ⟨strictTruth?, strictText?, false⟩

/-- Course files. -/
def courseFile : Manner := ⟨strictTruth?, strictText?, true⟩

/-- Words for yes and no, and numbers other than zero. -/
def looseTruth? : Scalar → Option Bool
  | .truth b => some b
  | .natural n => some (n ≠ 0)
  | .negative n => some (n ≠ 0)
  | .double x => some (x.value != 0.0)
  | .text s =>
    let word := Text.lowercase s
    if ["1", "true", "on", "yes"].contains word then some true
    else if ["0", "false", "off", "no"].contains word then some false
    else none
  | _ => none

/-- Scalars by their text. -/
def looseText? : Scalar → Option String
  | .text s => some s
  | .truth b => some (if b then "true" else "false")
  | .natural n => some (Decimal.naturalText n)
  | .negative n => some ("-" ++ Decimal.naturalText n)
  | .double x => some (Decimal.shown x.value)
  | _ => none

/-- Settings. -/
def settings : Manner := ⟨looseTruth?, looseText?, true⟩

end Manner

namespace Document

variable {α β : Type}

abbrev Reader (α : Type) : Type := Tree → Except Misfit α

def misfit (wanted : String) (t : Tree) : Except Misfit α :=
  let reason := match t with
    | .leaf (.unusable reason) _ => reason
    | t => "invalid type: " ++ t.kindName ++ ", expected " ++ wanted
  .error ⟨reason, t.left⟩

def truth (m : Manner) : Reader Bool
  | .leaf value left => match m.truth? value with
    | some b => .ok b
    | none => misfit "a boolean" (.leaf value left)
  | t => misfit "a boolean" t

def text (m : Manner) : Reader String
  | .leaf value left => match m.text? value with
    | some s => .ok s
    | none => misfit "a string" (.leaf value left)
  | t => misfit "a string" t

/-- A natural number of 64 bits. -/
def natural : Reader UInt64
  | .leaf (.natural n) left =>
    if n < Nat.pow 2 64 then .ok n.toUInt64 else .error ⟨"integer out of range", left⟩
  | t => misfit "u64" t

/-- A double; a whole number is taken for the nearest double. -/
def double : Reader Double
  | .leaf (.double x) _ => .ok x
  | .leaf (.natural n) _ => .ok (.ofFloat (Float.ofNat n))
  | .leaf (.negative n) _ => .ok (.ofFloat (-Float.ofNat n))
  | t => misfit "f64" t

/-- The number of a double. -/
def float : Reader Float := fun t => (double t).map (·.value)

def instant : Reader Instant
  | .leaf (.text s) left => match Instant.ofText? s with
    | some t => .ok t
    | none => .error ⟨"not a date and time", left⟩
  | t => misfit "an RFC 3339 formatted date and time string" t

def nullable (read : Reader α) : Reader (Option α)
  | .leaf .null _ => .ok none
  | t => (read t).map some

/-- Every item in order, the first misfit winning. -/
def items (read : Reader α) : List Tree → Except Misfit (List α)
  | [] => .ok []
  | t :: rest => do
    let a ← read t
    let rest ← items read rest
    .ok (a :: rest)

def list (read : Reader α) : Reader (List α)
  | .list ts => items read ts
  | t => misfit "a sequence" t

def entries (read : Reader α) : List (String × Tree) → Except Misfit (List (String × α))
  | [] => .ok []
  | (key, t) :: rest => do
    let a ← read t
    let rest ← entries read rest
    .ok ((key, a) :: rest)

/-- A table of any keys; of a repeated key the last entry stays. -/
def dictionary (read : Reader α) : Reader (Dictionary α)
  | .table ts => (entries read ts).map Dictionary.ofList
  | t => misfit "a map" t

/-- What a document holds for a field: a value, nothing under its name, or
nothing because the list ended before it. -/
inductive Field where
  | given (t : Tree)
  | leftOut
  | cutOff

/-- The entries of a table under one name. -/
def entriesOf (name : String) (ts : List (String × Tree)) : List Tree :=
  (ts.filter fun e => e.1 == name).map (·.2)

def fieldOf (ts : List (String × Tree)) (name : String) : Except Misfit Field :=
  match entriesOf name ts with
  | [] => .ok .leftOut
  | [t] => .ok (.given t)
  | _ => .error ⟨"duplicate field", 0⟩

/-- The fields of a record, in the order of their names. A date or time is a record
without any of them. -/
def fields (m : Manner) (names : List String) : Reader (List Field)
  | .table ts => names.mapM (fieldOf ts)
  | .leaf (.moment _) _ => .ok (names.map fun _ => .leftOut)
  | .list ts =>
    if !m.surplus && decide (names.length < ts.length) then .error ⟨"trailing characters", 0⟩
    else .ok (ts.take names.length |>.map .given |>.append
      (List.replicate (names.length - ts.length) .cutOff))
  | t => misfit "a record" t

def required (read : Reader α) : Field → Except Misfit α
  | .given t => read t
  | _ => .error ⟨"missing field", 0⟩

/-- No entry under the name of the field means none. -/
def optional (read : Reader α) : Field → Except Misfit (Option α)
  | .given t => nullable read t
  | .leftOut => .ok none
  | .cutOff => .error ⟨"invalid length", 0⟩

/-- A default for a field that is not there. -/
def orElse (default : α) (read : Reader α) : Field → Except Misfit α
  | .given t => read t
  | _ => .ok default

end Document

end Gradebook
