/-
# Gradebook.Logging.Pattern — patterns that field values are compared with

A pattern is a regular expression over Unicode characters. Nothing here matches one
against a value, for no entry stands in a span; what counts is which texts are patterns.
No tables of character classes are at hand, so what would need one is refused: classes
such as `\d` or `\pL`, word boundaries, and ignoring case. All of these are known for
ASCII once `(?-u)` switches Unicode off; then nothing may match half a character.
-/
import Gradebook.Json
import Gradebook.Text.Blank
import Gradebook.Text.Ranges
import Gradebook.Text.Ranges.Letters

namespace Gradebook.Pattern

set_option autoImplicit false

/-! ### Flags -/

structure Flags where
  unicode : Bool := true
  ignoreCase : Bool := false
  /-- White space and comments are left out. -/
  verbose : Bool := false

namespace Flags

/-- Switch a flag on or off. -/
def set? (f : Flags) (value : Bool) : Char → Option Flags
  | 'u' => some { f with unicode := value }
  | 'i' => some { f with ignoreCase := value }
  | 'x' => some { f with verbose := value }
  | c => if "msUR".toList.contains c then some f else none

/-- Flags up to a colon or closing bracket. After a minus they are switched off. No flag
comes twice, and one follows the minus. -/
def read? : List Char → Option Bool → List Char → Flags → Option (Flags × List Char × Bool)
  | seen, off, c :: rest, f =>
    if c = ':' || c = ')' then
      if off = some false then none else some (f, c :: rest, !seen.isEmpty)
    else if c = '-' then if off.isSome then none else read? seen (some false) rest f
    else if seen.contains c then none
    else do read? (c :: seen) (off.map fun _ => true) rest (← f.set? off.isNone c)
  | _, _, [], _ => none

/-- The text behind what the flags leave out. -/
def skip (f : Flags) : Nat → List Char → List Char
  | 0, text => text
  | fuel + 1, text =>
    if !f.verbose then text
    else match Text.dropBlanks text with
      | '#' :: rest => skip f fuel (rest.dropWhile (· != '\n'))
      | rest => rest

def skipAll (f : Flags) (text : List Char) : List Char := f.skip (text.length + 1) text

/-- A character that stands for itself can be matched. -/
def takes (f : Flags) (c : Char) : Bool :=
  if f.unicode then !f.ignoreCase else !f.ignoreCase || c.toNat < 0x80

end Flags

/-! ### Escapes -/

/-- What an escape stands for. -/
inductive Escape where
  | char (c : Char)
  /-- A byte above the ASCII range, which only Unicode makes a character. -/
  | byte (code : Nat)
  /-- A class of characters; `open_` if it has some beyond ASCII. -/
  | charClass (open_ : Bool)
  /-- A boundary of words. -/
  | boundary
  /-- The beginning or end of the value. -/
  | anchor

def metaChars : List Char := "\\.+*?()|[]\x7b\x7d^$#&-~".toList

def controls : List (Char × Char) :=
  [('a', '\x07'), ('f', '\x0c'), ('t', '\t'), ('n', '\n'), ('r', '\r'), ('v', '\x0b')]

/-- The character of a code in hexadecimal digits, a fixed number of them or as many as
stand between braces. -/
def coded? (count : Nat) (text : List Char) : Option (Escape × List Char) := do
  let (digits, rest, short) ← match text with
    | '\x7b' :: rest =>
      let digits := rest.takeWhile (· != '\x7d')
      match rest.drop digits.length with
      | _ :: rest => some (digits, rest, false)
      | [] => none
    | text => some (text.take count, text.drop count, decide (text.length < count))
  let values ← digits.mapM Json.hexValue?
  let code := values.foldl (fun n d => 16 * n + d) 0
  if values.isEmpty || short || (0xd800 ≤ code && code < 0xe000) || 0x110000 ≤ code then none
  else if count = 2 && 0x80 ≤ code && code < 0x100 then some (.byte code, rest)
  else some (.char (Char.ofNat code), rest)

/-- An escape behind its backslash. -/
def escape? (f : Flags) : List Char → Option (Escape × List Char)
  | [] => none
  | c :: rest =>
    if c = 'x' then coded? 2 rest
    else if c = 'u' then coded? 4 rest
    else if c = 'U' then coded? 8 rest
    else if "dsw".toList.contains c then if f.unicode then none else some (.charClass false, rest)
    else if "DSW".toList.contains c then if f.unicode then none else some (.charClass true, rest)
    else if c = 'A' || c = 'z' then some (.anchor, rest)
    else if c = 'b' || c = 'B' || c = '<' || c = '>' then some (.boundary, rest)
    else match controls.lookup c with
      | some d => some (.char d, rest)
      | none =>
        if metaChars.contains c || (c.toNat < 0x80 && !c.isAlphanum) then some (.char c, rest)
        else none

/-! ### Classes in brackets -/

/-- The named classes, all of them within ASCII. -/
def classNames : List String :=
  ["alnum", "alpha", "ascii", "blank", "cntrl", "digit", "graph", "lower", "print", "punct",
    "space", "upper", "word", "xdigit"]

/-- A named class from its second bracket on, if that is what follows. -/
def namedClass? (text : List Char) : Option (List Char) :=
  match text with
  | '[' :: ':' :: rest =>
    let rest := match rest with
      | '^' :: rest => rest
      | rest => rest
    let name := rest.takeWhile (· != ':')
    match rest.drop name.length with
    | ':' :: ']' :: rest => if classNames.contains (String.ofList name) then some rest else none
    | _ => none
  | _ => none

/-- One character of a class, or one of its classes (none). -/
def classItem? (f : Flags) : List Char → Option (Option Char × List Char)
  | '\\' :: rest => do
    match ← escape? f rest with
    | (.char c, rest) => if f.unicode || c.toNat < 0x80 then some (some c, rest) else none
    | (.byte code, rest) => if f.unicode then some (some (Char.ofNat code), rest) else none
    | (.charClass open_, rest) => if open_ then none else some (none, rest)
    | _ => none
  | c :: rest => if f.unicode || c.toNat < 0x80 then some (some c, rest) else none
  | [] => none

/-- A character or a range of them, whose ends are in order. -/
def classRange? (f : Flags) (text : List Char) : Option (List Char) := do
  let (first, rest) ← classItem? f text
  match f.skipAll rest with
  | '-' :: more =>
    match f.skipAll more with
    | ']' :: _ => some rest
    | '-' :: _ => some rest
    | more =>
      let (last, rest) ← classItem? f more
      match first, last with
      | some a, some b => if a ≤ b then some rest else none
      | _, _ => none
  | _ => some rest

/-- The marks that combine two classes. -/
def isCombination (a b : Char) : Bool := a == b && (a == '&' || a == '-' || a == '~')

mutual

/-- A class behind its opening bracket. A minus or closing bracket at its beginning stands
for itself. -/
def class? (f : Flags) : Nat → List Char → Option (List Char)
  | 0, _ => none
  | fuel + 1, text =>
    let negated := (f.skipAll text).head? == some '^'
    if f.ignoreCase && f.unicode || negated && !f.unicode then none
    else
      let text := f.skipAll (if negated then (f.skipAll text).tail else text)
      let body := text.dropWhile (· == '-')
      match body with
      | ']' :: rest => classRest? f fuel (if body.length = text.length then rest else body)
      | rest => classRest? f fuel rest

def classRest? (f : Flags) : Nat → List Char → Option (List Char)
  | 0, _ => none
  | fuel + 1, text =>
    match f.skipAll text with
    | [] => none
    | ']' :: rest => some rest
    | '[' :: rest => match namedClass? ('[' :: rest) with
      | some rest => classRest? f fuel rest
      | none => do classRest? f fuel (← class? f fuel rest)
    | a :: rest =>
      if rest.head?.any (isCombination a) then classRest? f fuel rest.tail
      else do classRest? f fuel (← classRange? f (a :: rest))

end

/-! ### Repetitions and groups -/

/-- A number with white space around it. -/
def count? (text : List Char) : Option (Nat × List Char) :=
  let (digits, rest) := Decimal.digitRun (Text.dropBlanks text)
  let n := Decimal.numberOf digits
  if digits.isEmpty || Nat.pow 2 32 ≤ n then none else some (n, Text.dropBlanks rest)

/-- The bounds of a repetition behind their opening brace. -/
def bounds? (text : List Char) : Option (List Char) := do
  let (low, rest) ← count? text
  match rest with
  | '\x7d' :: rest => some rest
  | ',' :: '\x7d' :: rest => some rest
  | ',' :: rest =>
    let (high, rest) ← count? rest
    match rest with
    | '\x7d' :: rest => if low ≤ high then some rest else none
    | _ => none
  | _ => none

def isNameChar (first : Bool) (c : Char) : Bool :=
  c == '_' || c.isAlpha || (0x80 ≤ c.toNat && Text.Ranges.isIn Text.Ranges.alphanumeric c) ||
    (!first && (c.isDigit || c == '.' || c == '[' || c == ']'))

/-- The name of a group up to its closing bracket. -/
def groupName? (text : List Char) : Option (String × List Char) :=
  let name := text.takeWhile (· != '>')
  match name, text.drop name.length with
  | first :: more, _ :: rest =>
    if isNameChar true first && more.all (isNameChar false) then some (String.ofList name, rest)
    else none
  | _, _ => none

/-- How a group begins. -/
inductive Opening where
  | group (name : Option String) (f : Flags)
  /-- No group: the flags hold for the rest of the group around it. -/
  | flags (f : Flags)

/-- The beginning of a group behind its bracket. Nothing looks ahead or back. -/
def opening? (f : Flags) : List Char → Option (Opening × List Char)
  | '?' :: 'P' :: '<' :: rest => named rest
  | '?' :: '<' :: '=' :: _ => none
  | '?' :: '<' :: '!' :: _ => none
  | '?' :: '<' :: rest => named rest
  | '?' :: rest => do
    match ← Flags.read? [] none rest f with
    | (f, ':' :: rest, _) => some (.group none f, rest)
    | (f, _ :: rest, true) => some (.flags f, rest)
    | _ => none
  | rest => some (.group none f, rest)
where
  named (rest : List Char) : Option (Opening × List Char) :=
    (groupName? rest).map fun r => (.group (some r.1) f, r.2)

/-- What has been read of a group: its flags, the names of all groups, and whether
something stands there that can be repeated. -/
structure Reading where
  flags : Flags := {}
  names : List String := []
  repeatable : Bool := false

/-- The text behind a mark of repetition, which may be followed by a question mark. -/
def lazyMark (text : List Char) : List Char :=
  match text with
  | '?' :: rest => rest
  | rest => rest

/-- The rest of a group up to its closing bracket, or to the end. -/
def group? : Nat → Reading → List Char → Option (Reading × List Char)
  | 0, _, _ => none
  | fuel + 1, r, text =>
    let f := r.flags
    let item : List Char → Option (Reading × List Char) := group? fuel { r with repeatable := true }
    match f.skipAll text with
    | [] => some (r, [])
    | ')' :: rest => some (r, ')' :: rest)
    | '|' :: rest => group? fuel { r with repeatable := false } rest
    | '(' :: rest => do
      match ← opening? f (f.skipAll rest) with
      | (.flags f, rest) => group? fuel { r with flags := f, repeatable := false } rest
      | (.group name inner, rest) =>
        if name.any r.names.contains then none
        else
          let names := name.toList ++ r.names
          match ← group? fuel ⟨inner, names, false⟩ rest with
          | (inside, _ :: rest) => group? fuel ⟨f, inside.names, true⟩ rest
          | _ => none
    | '[' :: rest => do item (← class? f (2 * rest.length + 2) rest)
    | '\x7b' :: rest => do
      if r.repeatable then item (lazyMark (f.skipAll (← bounds? rest))) else none
    | '\\' :: rest => do
      match ← escape? f rest with
      | (.char c, rest) => if f.takes c then item rest else none
      | (.byte code, rest) =>
        if f.unicode && f.takes (Char.ofNat code) then item rest else none
      | (.charClass open_, rest) => if open_ then none else item rest
      | (.boundary, rest) => if f.unicode then none else item rest
      | (.anchor, rest) => item rest
    | '.' :: rest => if f.unicode then item rest else none
    | c :: rest =>
      if c = '*' || c = '+' || c = '?' then
        if r.repeatable then item (lazyMark (f.skipAll rest)) else none
      else if c = '^' || c = '$' || f.takes c then item rest
      else none

end Gradebook.Pattern

namespace Gradebook

/-- The text is a pattern. -/
def isPattern (text : String) : Bool :=
  match Pattern.group? (2 * text.length + 2) {} text.toList with
  | some (_, []) => true
  | _ => false

end Gradebook
