/-
# Gradebook.Ini — reading INI texts

Keys with texts as values, and sections of them in brackets. Of a repeated key or
section the last one counts. A comment begins with the line; a text may stand between
quotes to keep its blanks.
-/
import Gradebook.Document
import Gradebook.Json
import Gradebook.Text.Blank

namespace Gradebook.Ini

set_option autoImplicit false

def isLineEnd (c : Char) : Bool := c == '\n' || c == '\r'

/-- A text that is read, and whether its next character is the first of a line. -/
structure Place where
  rest : List Char
  atLineStart : Bool := true

namespace Place

def next (p : Place) : Place := ⟨p.rest.tail, p.rest.head? == some '\n'⟩

def overMany (p : Place) : Nat → Place
  | 0 => p
  | n + 1 => p.next.overMany n

/-- Go over the characters that pass a test. -/
def overAll (test : Char → Bool) (p : Place) : Place :=
  p.overMany (p.rest.takeWhile test).length

end Place

def simpleEscapes : List (Char × List Char) :=
  [('0', ['\x00']), ('a', ['\x07']), ('b', ['\x08']), ('t', ['\t']), ('r', ['\r']),
    ('n', ['\n']), ('\n', [])]

/-- What an escape stands for, behind its backslash. -/
def escape? (p : Place) : Option (List Char × Place) :=
  match p.rest with
  | [] => none
  | 'x' :: digits => do
    let values ← (digits.take 4).mapM Json.hexValue?
    let code := values.foldl (fun n d => 16 * n + d) 0
    if values.length = 4 ∧ (code < 0xd800 ∨ 0xdfff < code) then
      some ([Char.ofNat code], p.overMany 5)
    else none
  | c :: _ => some ((simpleEscapes.lookup c).getD [c], p.next)

/-- The text up to one of some characters. At the end of everything it ends only if
`atEnd` allows. -/
def textUntil? (stops : List Char) (atEnd : Bool) : Nat → Place → Option (List Char × Place)
  | 0, _ => none
  | fuel + 1, p =>
    match p.rest with
    | [] => if atEnd then some ([], p) else none
    | c :: _ =>
      if stops.contains c then some ([], p)
      else do
        let (piece, p) ← if c = '\\' then escape? p.next else some ([c], p.next)
        let (more, p) ← textUntil? stops atEnd fuel p
        some (piece ++ more, p)

def until? (stops : List Char) (atEnd : Bool) (p : Place) : Option (List Char × Place) :=
  textUntil? stops atEnd (p.rest.length + 1) p

/-- A value: texts between quotes, then the rest of the line without the blanks behind it,
and without those before it if there are no quotes. -/
def valueFrom? (first : Bool) : Nat → Place → Option (List Char × Place)
  | 0, _ => none
  | fuel + 1, p =>
    match p.rest with
    | [] => some ([], p)
    | c :: _ =>
      if c = '"' || c = '\'' then do
        let (text, p) ← until? [c] false p.next
        let (more, p) ← valueFrom? false fuel p.next
        some (text ++ more, p)
      else do
        let (text, p) ← until? ['\n', '\r'] true p
        let text := Text.dropTrailingBlanks text
        some (if first then Text.dropBlanks text else text, p)

/-- The value behind its equals sign or colon. -/
def value? (p : Place) : Option (String × Place) := do
  let p := p.overAll fun c => Text.isBlank c && !isLineEnd c
  let (text, p) ← valueFrom? true (p.rest.length + 1) p
  some (String.ofList text, p)

/-- Keys with their values. -/
abbrev Entries : Type := List (String × String)

/-- What has been read: keys outside of sections, then sections, the last one first. -/
structure Outline where
  loose : Entries := []
  sections : List (String × Entries) := []

namespace Outline

def add (o : Outline) (key value : String) : Outline :=
  match o.sections with
  | [] => { o with loose := o.loose ++ [(key, value)] }
  | (name, entries) :: rest => { o with sections := (name, entries ++ [(key, value)]) :: rest }

def textTable (entries : Entries) : List (String × Tree) :=
  entries.map fun e => (e.1, .text e.2)

def toTree (o : Outline) : Tree :=
  .table (textTable o.loose ++
    o.sections.reverse.map fun s => (s.1, .table (textTable s.2)))

end Outline

/-- Comments, section names and keys with their values, until the text ends. -/
def read? : Nat → Outline → Place → Option Outline
  | 0, _, _ => none
  | fuel + 1, o, p =>
    let p := p.overAll Text.isBlank
    match p.rest with
    | [] => some o
    | c :: _ =>
      if c = ';' || c = '#' then
        if p.atLineStart then read? fuel o (p.overAll (· != '\n')) else none
      else if c = '[' then do
        let (name, p) ← until? [']'] false p.next
        let name := Text.trimmed (String.ofList name)
        read? fuel { o with sections := (name, []) :: o.sections } p.next
      else if c = '=' || c = ':' then none
      else do
        let (key, p) ← until? ['=', ':'] false p
        let key := Text.trimmed (String.ofList key)
        if key.isEmpty then none
        else
          let (value, p) ← value? p.next
          read? fuel (o.add key value) p

/-- The table of a text. -/
def ofText? (text : String) : Option Tree :=
  (read? (text.length + 1) {} { rest := text.toList }).map (·.toTree)

end Gradebook.Ini
