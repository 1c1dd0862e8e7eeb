/-
# Gradebook.Logging.Filter — which log entries are shown

A filter is a set of directives such as `info` or `coursegrade::engine=debug`. The most
specific directive that covers an entry decides: the entry is shown if its level is at
most as talkative. More specific is a longer target, then more fields that an entry
must have. Directives for spans and for values of fields are accepted, though they show
nothing, for entries stand in no span.
-/
import Gradebook.Decimal.Reading
import Gradebook.Log
import Gradebook.Logging.Pattern
import Gradebook.Text.Quoted

namespace Gradebook

set_option autoImplicit false

/-- A field that an entry must have, perhaps with a certain value. -/
structure FieldTest where
  name : String
  hasValue : Bool := false
  deriving DecidableEq, Repr

namespace FieldTest

/-- A test of a value is a truth value, a number or a pattern. -/
def isValue (text : String) : Bool :=
  text = "true" || text = "false" || (Decimal.ofText? text).isSome || isPattern text

/-- A name, or a name and a value with an equals sign between them. -/
def ofText? (text : String) : Option FieldTest :=
  match Text.pieces '=' text with
  | [] => none
  | [name] => if name.isEmpty then none else some { name }
  | name :: value :: _ => if isValue value then some { name, hasValue := true } else none

end FieldTest

/-- Why a text is no directive. -/
inductive DirectiveFlaw where
  | unsound
  /-- A part would be cut within a character, which crashes the reader. -/
  | split (reason : String)
  deriving DecidableEq, Repr

/-- Up to which level entries are shown. -/
structure Directive where
  /-- How the name of the origin begins. No target means every origin. -/
  target : Option String := none
  /-- The name of a span that the entry stands in. -/
  span : Option String := none
  fields : List FieldTest := []
  /-- The rank of the most talkative level shown; zero shows nothing. -/
  level : Nat := LogLevel.trace.rank
  deriving DecidableEq, Repr

namespace Directive

def levelNames : List (String × Nat) :=
  [("off", 0), ("error", 1), ("warn", 2), ("info", 3), ("debug", 4), ("trace", 5)]

/-- A level by name, whatever its case, or by number. -/
def level? (text : String) : Option Nat :=
  match Decimal.naturalBelow? 6 text with
  | some n => some n
  | none => levelNames.lookup (String.ofList (text.toList.map Char.toLower))

/-! ### Reading -/

/-- The part of a text being read, with the place in bytes where it begins. -/
inductive Part where
  | start
  | word (from_ : Nat)
  | span (from_ : Nat)
  | field (from_ : Nat)
  | fieldsDone
  | spanDone
  | level (from_ : Nat)
  | complete

/-- The characters that begin at a place in bytes or behind it. -/
def behind (i : Nat) : List Char → List Char
  | [] => []
  | c :: rest => if i = 0 then c :: rest else behind (i - c.utf8Size) rest

/-- The character that a place lies within, and its own place, if the text begins at `start`. -/
def within? (i : Nat) : Nat → List Char → Option (Char × Nat)
  | _, [] => none
  | start, c :: rest =>
    if i ≤ start then none
    else if i < start + c.utf8Size then some (c, start)
    else within? i (start + c.utf8Size) rest

/-- A place where a part may begin or end, which is not within a character. -/
def atPlace (side : String) (text : List Char) (i : Nat) : Except DirectiveFlaw Unit :=
  match within? i 0 text with
  | none => .ok ()
  | some (c, start) =>
    .error (.split (side ++ " byte index " ++ Decimal.naturalText i ++
      " is not a char boundary; it is inside " ++ Text.quotedChar c ++ " (bytes " ++
      Decimal.naturalText start ++ ".." ++ Decimal.naturalText (start + c.utf8Size) ++
      " of string)"))

/-- The rest of a text behind a place. -/
def cutFrom (text : List Char) (i : Nat) : Except DirectiveFlaw String := do
  atPlace "start" text i
  .ok (String.ofList (behind i text))

/-- The piece of a text between two places in bytes. -/
def cut (text : List Char) (i j : Nat) : Except DirectiveFlaw String := do
  atPlace "start" text i
  atPlace "end" text j
  let after := behind i text
  .ok (String.ofList (after.take (after.length - (behind (j - i) after).length)))

/-- Names begin with letters, digits and some marks. -/
def isNameStart (c : Char) : Bool :=
  c.isAlphanum || c == '-' || c == ':' || c == '_' ||
    (0x80 ≤ c.toNat && Text.Ranges.isIn Text.Ranges.alphanumeric c)

/-- A level, or a target for which all levels are shown. -/
def wordOf (d : Directive) (word : String) : Directive :=
  match level? word with
  | some level => { d with level, target := none }
  | none => { d with target := some word }

/-- A level behind an equals sign; none given means all. -/
def levelOf (d : Directive) (text : String) : Except DirectiveFlaw Directive :=
  if text.isEmpty then .ok d
  else match level? text with
    | some level => .ok { d with level }
    | none => .error .unsound

def addField (d : Directive) (text : String) : Except DirectiveFlaw Directive :=
  match FieldTest.ofText? text with
  | some test => .ok { d with fields := d.fields ++ [test] }
  | none => .error .unsound

/-- Read the character at a place. -/
def step (text : List Char) (i : Nat) (c : Char) (d : Directive) :
    Part → Except DirectiveFlaw (Directive × Part)
  | .start =>
    if c = '[' then .ok (d, .span (i + 1))
    else if isNameStart c then .ok (d, .word i)
    else .error .unsound
  | .word from_ =>
    if c = '=' ∨ c = '[' then do
      let target ← cut text from_ i
      .ok ({ d with target }, if c = '=' then .level (i + 1) else .span (i + 1))
    else if c = ',' then do .ok (d.wordOf (← cutFrom text from_), .complete)
    else .ok (d, .word from_)
  | .span from_ =>
    if c = ']' then do .ok ({ d with span := ← cut text from_ i }, .spanDone)
    else if c = '\x7b' then do
      let name ← cut text from_ i
      .ok ({ d with span := if name.isEmpty then none else some name }, .field (i + 1))
    else .ok (d, .span from_)
  | .field from_ =>
    if c = '\x7d' ∨ c = ',' then do
      let d ← d.addField (← cut text from_ i)
      .ok (d, if c = ',' then .field (i + 1) else .fieldsDone)
    else .ok (d, .field from_)
  | .fieldsDone => if c = ']' then .ok (d, .spanDone) else .error .unsound
  | .spanDone => if c = '=' then .ok (d, .level (i + 1)) else .error .unsound
  | .level from_ =>
    if c = ',' then do .ok (← d.levelOf (← cut text from_ i), .complete)
    else .ok (d, .level from_)
  | .complete => .error .unsound

/-- Read some characters, the first of them at a place. -/
def steps (text : List Char) :
    Nat → List Char → Directive → Part → Except DirectiveFlaw (Directive × Part)
  | _, [], d, part => .ok (d, part)
  | i, c :: rest, d, part => do
    let (d, part) ← step text i c d part
    steps text (i + c.utf8Size) rest d part

/-- What the end of the text makes of its last part. -/
def finish (text : List Char) (d : Directive) : Part → Except DirectiveFlaw Directive
  | .word from_ => do .ok (d.wordOf (← cutFrom text from_))
  | .level from_ => do d.levelOf (← cutFrom text from_)
  | .spanDone => .ok d
  | .complete => .ok d
  | _ => .error .unsound

/-- A directive. Places are those of the text without the blanks at its ends, parts are
cut out of the text as it is. -/
def ofText (text : String) : Except DirectiveFlaw Directive := do
  let chars := text.toList
  let (d, part) ← steps chars 0 (Text.trimmed text).toList {} .start
  finish chars d part

/-! ### Deciding -/

/-- The directive can show entries, which have fields but stand in no span. -/
def isStatic (d : Directive) : Bool := d.span.isNone && !d.fields.any (·.hasValue)

def fieldNames (d : Directive) : List String := d.fields.map (·.name)

/-- The names of an entry's fields. The message is one of them. -/
def namesOf (e : LogEntry) : List String := "message" :: e.fields.map (·.1)

def covers (d : Directive) (e : LogEntry) : Bool :=
  d.isStatic && (match d.target with
    | none => true
    | some target => e.origin.target.startsWith target) &&
  d.fieldNames.all (namesOf e).contains

/-- How specific the target is. -/
def reach (d : Directive) : Nat :=
  match d.target with
  | none => 0
  | some target => target.utf8ByteSize + 1

/-- The directive is more specific than another one that covers the same entry. -/
def isBefore (d e : Directive) : Bool :=
  if d.reach ≠ e.reach then decide (e.reach < d.reach)
  else if d.fields.length ≠ e.fields.length then decide (e.fields.length < d.fields.length)
  else decide (e.fieldNames < d.fieldNames)

/-- The directive is for the same entries as another one. -/
def rivals (d e : Directive) : Bool :=
  d.isStatic && e.isStatic && d.target = e.target && d.fieldNames = e.fieldNames

end Directive

structure LogFilter where
  directives : List Directive
  deriving DecidableEq, Repr

namespace LogFilter

/-- Add a directive in place of another one for the same entries. -/
def add (f : LogFilter) (d : Directive) : LogFilter :=
  ⟨(f.directives.filter fun e => !e.rivals d) ++ [d]⟩

def ofDirectives (directives : List Directive) : LogFilter := directives.foldl add ⟨[]⟩

/-- The pieces between commas, empty ones left out. -/
def pieces (text : String) : List String := (Text.pieces ',' text).filter (· ≠ "")

/-- The filter of a text with directives between commas, all of which must be sound. -/
def ofText (text : String) : Except DirectiveFlaw LogFilter :=
  ((pieces text).mapM Directive.ofText).map ofDirectives

/-- The sound ones of some directives. -/
def soundOnes : List String → Except DirectiveFlaw (List Directive)
  | [] => .ok []
  | text :: rest => match Directive.ofText text with
    | .ok d => (soundOnes rest).map (d :: ·)
    | .error .unsound => soundOnes rest
    | .error flaw => .error flaw

/-- The filter of a text, passing over directives that are not sound. Without any only
errors are shown. -/
def ofTextLoosely (text : String) : Except DirectiveFlaw LogFilter := do
  let directives ← soundOnes (pieces text)
  .ok (if directives.isEmpty then ⟨[{ level := LogLevel.error.rank }]⟩
    else ofDirectives directives)

def nothing : LogFilter := ⟨[{ level := 0 }]⟩

/-- The directive that decides on an entry. -/
def deciding? (f : LogFilter) (e : LogEntry) : Option Directive :=
  (f.directives.filter (·.covers e)).foldl (fun best d => match best with
    | none => some d
    | some b => if d.isBefore b then some d else some b) none

def shows (f : LogFilter) (e : LogEntry) : Bool :=
  match f.deciding? e with
  | none => false
  | some d => e.level.rank ≤ d.level

end LogFilter

end Gradebook
