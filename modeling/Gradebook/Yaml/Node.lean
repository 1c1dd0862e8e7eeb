/-
# Gradebook.Yaml.Node — the documents that tokens describe

A node is a scalar, a list or a table; the keys of a table are nodes too, and no two of
them are the same. An anchor gives a node a name that an alias can use later on. Plain
scalars are read as null, truth values or numbers where they look like one.
-/
import Gradebook.Decimal.Reading
import Gradebook.Yaml.Token

namespace Gradebook.Yaml

set_option autoImplicit false

inductive Node where
  | null
  | truth (value : Bool)
  | integer (n : Int)
  /-- A number with a point or an exponent, as it is written. -/
  | real (text : String)
  | text (s : String)
  | list (items : List Node)
  | table (entries : List (Node × Node))

namespace Node

mutual

/-- The same value, written in the same way if it is a real number. -/
def same : Node → Node → Bool
  | .null, .null => true
  | .truth a, .truth b => a == b
  | .integer a, .integer b => a == b
  | .real a, .real b => a == b
  | .text a, .text b => a == b
  | .list as, .list bs => sameItems as bs
  | .table as, .table bs => sameEntries as bs
  | _, _ => false

def sameItems : List Node → List Node → Bool
  | [], [] => true
  | a :: as, b :: bs => same a b && sameItems as bs
  | _, _ => false

def sameEntries : List (Node × Node) → List (Node × Node) → Bool
  | [], [] => true
  | (k, a) :: as, (l, b) :: bs => same k l && same a b && sameEntries as bs
  | _, _ => false

end

/-! ### Plain scalars -/

/-- A whole number of 64 bits in another base, with a sign or without. -/
def based? (base : Nat) (text : List Char) : Option Int := do
  let (negative, digits) := Decimal.signOf text
  let values ← digits.mapM Json.hexValue?
  if values.isEmpty || values.any (base ≤ ·) then none
  else
    let n := values.foldl (fun n d => base * n + d) 0
    if negative then if n ≤ Nat.pow 2 63 then some (-(n : Int)) else none
    else if n < Nat.pow 2 63 then some n else none

/-- A whole number behind the mark of its base, or behind a plus sign. -/
def marked? : List Char → Option Int
  | '0' :: 'x' :: rest => based? 16 rest
  | '0' :: 'o' :: rest => based? 8 rest
  | '+' :: rest => Decimal.integer? (String.ofList rest)
  | _ => none

/-- How infinities and what is no number are written. -/
def specials : List String :=
  [".inf", ".Inf", ".INF", "+.inf", "+.Inf", "+.INF", "-.inf", "-.Inf", "-.INF", ".nan",
    ".NaN", ".NAN"]

def isReal (text : String) : Bool :=
  specials.contains text || (text.toList.any Char.isDigit && (Decimal.ofText? text).isSome)

/-- A plain scalar without a tag. -/
def ofPlain (text : String) : Node :=
  match marked? text.toList with
  | some n => .integer n
  | none =>
    if ["", "~", "null"].contains text then .null
    else if text = "true" then .truth true
    else if text = "false" then .truth false
    else match Decimal.integer? text with
      | some n => .integer n
      | none => if isReal text then .real text else .text text

/-- The handle of the tags that every text knows. -/
def coreHandle : String := "tag:yaml.org,2002:"

/-- A tag, its handle resolved. -/
structure Tag where
  handle : String
  suffix : String

/-- A plain scalar with a tag. What does not fit its tag is null. -/
def ofTagged (tag : Tag) (text : String) : Node :=
  if tag.handle ≠ coreHandle then .text text
  else match tag.suffix with
    | "bool" =>
      if text = "true" then .truth true else if text = "false" then .truth false else .null
    | "int" => ((Decimal.integer? text).map Node.integer).getD .null
    | "float" => if isReal text then .real text else .null
    | "null" => .null
    | _ => .text text

end Node

/-! ### Documents -/

/-- The names and handles known so far. -/
structure Names where
  /-- What tag handles stand for. -/
  prefixes : List (String × String) := []
  /-- The numbers of anchors by name, the latest first. -/
  anchors : List (String × Nat) := []
  /-- The nodes of anchors that are complete. -/
  nodes : List (Nat × Node) := []
  next : Nat := 1

/-- Reading from tokens, with the names known. -/
abbrev Reading (α : Type) : Type := StateT (List Token × Names) Option α

namespace Reading

def peek : Reading Token := fun s => some (s.1.head?.getD .finish, s)

def advance : Reading Unit := fun s => some ((), (s.1.tail, s.2))

def names : Reading Names := fun s => some (s.2, s)

def setNames (n : Names) : Reading Unit := fun s => some ((), (s.1, n))

def fail {α : Type} : Reading α := fun _ => none

/-- Go over a token that must be there. -/
def expect (t : Token) : Reading Unit := do
  if (← peek) = t then advance else fail

/-- Go over a token if it is there. -/
def accept (t : Token) : Reading Bool := do
  if (← peek) = t then
    advance
    pure true
  else pure false

/-- The number of a new anchor. -/
def register (name : String) : Reading Nat := do
  let n ← names
  setNames { n with anchors := (name, n.next) :: n.anchors, next := n.next + 1 }
  pure n.next

/-- Keep the node of an anchor for its aliases. -/
def complete (anchor : Option Nat) (node : Node) : Reading Node := do
  match anchor with
  | none => pure node
  | some number =>
    let n ← names
    setNames { n with nodes := (number, node) :: n.nodes }
    pure node

/-- The node of an alias; null within that node itself. -/
def aliased (name : String) : Reading Node := do
  let n ← names
  match n.anchors.lookup name with
  | none => fail
  | some number => pure ((n.nodes.lookup number).getD .null)

def resolve (handle suffix : String) : Reading Node.Tag := do
  let n ← names
  match n.prefixes.lookup handle with
  | some meaning => pure ⟨meaning, suffix⟩
  | none =>
    if handle = "!!" then pure ⟨Node.coreHandle, suffix⟩
    else if 2 ≤ handle.length && handle.endsWith "!" then fail
    else pure ⟨handle, suffix⟩

def takeAnchor : Reading (Option Nat) := do
  match ← peek with
  | .anchor name _ =>
    advance
    some <$> register name
  | _ => pure none

def takeTag : Reading (Option Node.Tag) := do
  match ← peek with
  | .tag handle suffix _ =>
    advance
    some <$> resolve handle suffix
  | _ => pure none

/-- Anchor and tag of a node, in either order. -/
def properties : Reading (Option Nat × Option Node.Tag) := do
  match ← takeAnchor with
  | some anchor => pure (some anchor, ← takeTag)
  | none =>
    let tag ← takeTag
    if tag.isSome then pure (← takeAnchor, tag) else pure (none, none)

/-- One of the tokens that a node cannot begin with. -/
def isNext (tokens : List Token) : Reading Bool := do
  let t ← peek
  pure (tokens.contains t)

/-- Add an entry under a new key. -/
def addEntry (key value : Node) (entries : List (Node × Node)) :
    Reading (List (Node × Node)) :=
  if entries.any fun e => e.1.same key then fail else pure (entries ++ [(key, value)])

mutual

/-- A node. Within a block it can be a block collection itself, and as the value of a
table a list that is not indented. -/
def node : Nat → Bool → Bool → Reading Node
  | 0, _, _ => fail
  | fuel + 1, block, loose => do
    match ← peek with
    | .alias name =>
      advance
      aliased name
    | _ =>
      let (anchor, tag) ← properties
      match ← peek, block, loose with
      | .item, _, true => do complete anchor (.list (← looseItems fuel))
      | .plain text, _, _ => do
        advance
        complete anchor (match tag with
          | some tag => .ofTagged tag text
          | none => .ofPlain text)
      | .quoted text, _, _ => do
        advance
        complete anchor (.text text)
      | .flowListStart, _, _ => do
        advance
        complete anchor (.list (← flowItems fuel true))
      | .flowTableStart, _, _ => do
        advance
        complete anchor (.table (← flowEntries fuel true []))
      | .listStart, true, _ => do
        advance
        complete anchor (.list (← blockItems fuel))
      | .tableStart, true, _ => do
        advance
        complete anchor (.table (← blockEntries fuel []))
      | _, _, _ =>
        match tag with
        | some tag => complete anchor (.ofTagged tag "")
        | none => if anchor.isSome then complete anchor .null else fail

/-- A node, or null before one of some tokens. -/
def nodeUnless : Nat → List Token → Bool → Bool → Reading Node
  | 0, _, _, _ => fail
  | fuel + 1, tokens, block, loose => do
    if ← isNext tokens then pure .null else node fuel block loose

/-- The items of a list that is not indented. -/
def looseItems : Nat → Reading (List Node)
  | 0 => fail
  | fuel + 1 => do
    if ← accept .item then
      let first ← nodeUnless fuel [.item, .key, .value, .blockEnd] true false
      pure (first :: (← looseItems fuel))
    else pure []

def blockItems : Nat → Reading (List Node)
  | 0 => fail
  | fuel + 1 => do
    if ← accept .item then
      let first ← nodeUnless fuel [.item, .blockEnd] true false
      pure (first :: (← blockItems fuel))
    else do
      expect .blockEnd
      pure []

def blockEntries : Nat → List (Node × Node) → Reading (List (Node × Node))
  | 0, _ => fail
  | fuel + 1, entries => do
    if ← accept .blockEnd then pure entries
    else
      let ends := [Token.key, .value, .blockEnd]
      let hasKey ← accept .key
      if !hasKey && !(← isNext [.value]) then fail
      else
        let key ← if hasKey then nodeUnless fuel ends true true else pure .null
        let value ← if ← accept .value then nodeUnless fuel ends true true else pure .null
        blockEntries fuel (← addEntry key value entries)

/-- The value behind the key of a flow table. -/
def flowValue : Nat → List Token → Reading Node
  | 0, _ => fail
  | fuel + 1, ends => do
    if ← accept .value then nodeUnless fuel ends false false else pure .null

def flowEntries : Nat → Bool → List (Node × Node) → Reading (List (Node × Node))
  | 0, _, _ => fail
  | fuel + 1, first, entries => do
    if ← accept .flowTableEnd then pure entries
    else
      if !first then expect .comma
      if ← accept .flowTableEnd then pure entries
      else
        let ends := [Token.value, .comma, .flowTableEnd]
        if ← accept .key then
          let key ← nodeUnless fuel ends false false
          let value ← flowValue fuel [.comma, .flowTableEnd]
          flowEntries fuel false (← addEntry key value entries)
        else if ← isNext [.value] then
          let value ← flowValue fuel [.comma, .flowTableEnd]
          flowEntries fuel false (← addEntry .null value entries)
        else
          let key ← node fuel false false
          flowEntries fuel false (← addEntry key .null entries)

/-- The items of a flow list; a key there begins a table of one entry. -/
def flowItems : Nat → Bool → Reading (List Node)
  | 0, _ => fail
  | fuel + 1, first => do
    if ← accept .flowListEnd then pure []
    else
      if !first then expect .comma
      if ← accept .flowListEnd then pure []
      else
        let ends := [Token.value, .comma, .flowListEnd]
        let hasKey ← accept .key
        if hasKey || (← isNext [.value]) then
          let key ← if hasKey then nodeUnless fuel ends false false else pure .null
          let value ← flowValue fuel [.comma, .flowListEnd]
          pure (.table [(key, value)] :: (← flowItems fuel false))
        else
          let item ← node fuel false false
          pure (item :: (← flowItems fuel false))

end

/-- The lines before a document that begin with a percent sign. -/
def directives : Nat → Bool → Reading Unit
  | 0, _ => fail
  | fuel + 1, versioned => do
    match ← peek with
    | .version =>
      if versioned then fail
      else
        advance
        directives fuel true
    | .tagPrefix handle meaning =>
      let n ← names
      if handle ≠ "" && (n.prefixes.lookup handle).isSome then fail
      else
        if handle ≠ "" then setNames { n with prefixes := (handle, meaning) :: n.prefixes }
        advance
        directives fuel versioned
    | _ => pure ()

def isDirective : Token → Bool
  | .version => true
  | .tagPrefix _ _ => true
  | _ => false

/-- The node of a document. -/
def content (fuel : Nat) : Reading Node := do
  let t ← peek
  if isDirective t || [Token.documentStart, .documentEnd, .finish].contains t then pure .null
  else node fuel true false

/-- All documents. Between two of them stands an end or a beginning. -/
def documents : Nat → Bool → Reading (List Node)
  | 0, _ => fail
  | fuel + 1, ended => do
    let t ← peek
    if t = .finish then pure []
    else if t = .documentEnd then
      advance
      documents fuel ended
    else
      let explicit := isDirective t || t = .documentStart
      if !explicit && !ended then fail
      else
        if explicit then
          directives fuel false
          expect .documentStart
        let first ← content fuel
        let ended ← accept .documentEnd
        let n ← names
        setNames { n with prefixes := [] }
        if !ended && isDirective (← peek) then fail
        else pure (first :: (← documents fuel ended))

end Reading

/-- The documents of a text. -/
def documents? (text : String) : Option (List Node) := do
  let tokens ← tokens? text
  let (nodes, _) ← (Reading.documents (4 * tokens.length + 4) true).run (tokens, {})
  some nodes

end Gradebook.Yaml
