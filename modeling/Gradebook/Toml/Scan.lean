/-
# Gradebook.Toml.Scan — characters, blanks and strings of TOML texts

A scanner takes the beginning of a text and returns what it read and the rest.
Blanks are spaces and tabs; a line ends with a line feed, with or without a
carriage return before it. Control characters stand nowhere but in escapes.
-/
import Gradebook.Json

namespace Gradebook.Toml

set_option autoImplicit false

abbrev Scan (α : Type) : Type := List Char → Option (α × List Char)

def isBlank (c : Char) : Bool := c == ' ' || c == '\t'

/-- What strings and comments may hold unescaped. -/
def isPlain (c : Char) : Bool := c == '\t' || (' ' ≤ c && c ≠ '\x7f')

def skipBlanks (text : List Char) : List Char := text.dropWhile isBlank

/-- The text behind a line break. -/
def lineBreak? : List Char → Option (List Char)
  | '\n' :: rest => some rest
  | '\r' :: '\n' :: rest => some rest
  | _ => none

/-- A comment up to the end of its line, if there is one. -/
def skipComment : List Char → List Char
  | '#' :: rest => rest.dropWhile isPlain
  | rest => rest

/-- The end of a line of the document, a comment before it allowed. -/
def lineEnd? (text : List Char) : Option (List Char) :=
  match skipComment (skipBlanks text) with
  | [] => some []
  | rest => lineBreak? rest

/-- Blanks and line breaks. -/
def skipLines : Nat → List Char → List Char
  | 0, text => text
  | fuel + 1, text =>
    let rest := skipBlanks text
    match lineBreak? rest with
    | some rest => skipLines fuel rest
    | none => rest

/-- Blanks, line breaks and comments. -/
def skipSpace : Nat → List Char → List Char
  | 0, text => text
  | fuel + 1, text =>
    let rest := skipComment (skipBlanks text)
    match lineBreak? rest with
    | some rest => skipSpace fuel rest
    | none => rest

/-- The character with a code of so many hexadecimal digits. -/
def coded? (count : Nat) (text : List Char) : Option (Char × List Char) := do
  let digits ← (text.take count).mapM Json.hexValue?
  let code := digits.foldl (fun n d => 16 * n + d) 0
  if digits.length = count ∧ (code < 0xd800 ∨ (0xdfff < code ∧ code < 0x110000)) then
    some (Char.ofNat code, text.drop count)
  else none

/-- The character an escape stands for, behind its backslash. -/
def escape? : Scan Char
  | 'b' :: rest => some ('\x08', rest)
  | 't' :: rest => some ('\t', rest)
  | 'n' :: rest => some ('\n', rest)
  | 'f' :: rest => some ('\x0c', rest)
  | 'r' :: rest => some ('\r', rest)
  | '"' :: rest => some ('"', rest)
  | '\\' :: rest => some ('\\', rest)
  | 'u' :: rest => coded? 4 rest
  | 'U' :: rest => coded? 8 rest
  | _ => none

/-- The kinds of strings: escapes are known between double quotes only. -/
structure Quoting where
  quote : Char
  escapes : Bool

def basic : Quoting := ⟨'"', true⟩

def literal : Quoting := ⟨'\'', false⟩

/-- A string on one line, behind its opening quote. -/
def lineString? (q : Quoting) : Nat → Scan (List Char)
  | fuel + 1, c :: rest =>
    if c = q.quote then some ([], rest)
    else if q.escapes && c = '\\' then do
      let (c, rest) ← escape? rest
      let (cs, rest) ← lineString? q fuel rest
      some (c :: cs, rest)
    else if isPlain c then do
      let (cs, rest) ← lineString? q fuel rest
      some (c :: cs, rest)
    else none
  | _, _ => none

/-- The text behind a line break that a backslash has hidden, with all blanks and
line breaks that follow. -/
def hiddenBreak? (text : List Char) : Option (List Char) :=
  (lineBreak? (skipBlanks text)).map fun rest => skipLines (rest.length + 1) rest

/-- A string over several lines, behind its three opening quotes. It ends with three
quotes; one or two more before them belong to it. -/
def openString? (q : Quoting) : Nat → Scan (List Char)
  | fuel + 1, c :: rest =>
    if c = q.quote then
      let text := c :: rest
      let run := (text.takeWhile (· = q.quote)).length
      if run < 3 then do
        let (cs, rest) ← openString? q fuel (text.drop run)
        some (List.replicate run q.quote ++ cs, rest)
      else if run ≤ 5 then some (List.replicate (run - 3) q.quote, text.drop run)
      else none
    else if q.escapes && c = '\\' then
      match hiddenBreak? rest with
      | some rest => openString? q fuel rest
      | none => do
        let (c, rest) ← escape? rest
        let (cs, rest) ← openString? q fuel rest
        some (c :: cs, rest)
    else match lineBreak? (c :: rest) with
      | some rest => do
        let (cs, rest) ← openString? q fuel rest
        some ('\n' :: cs, rest)
      | none =>
        if isPlain c then do
          let (cs, rest) ← openString? q fuel rest
          some (c :: cs, rest)
        else none
  | _, _ => none

/-- A string of either kind, on one line or several, from its first quote. -/
def string? (q : Quoting) : Scan String
  | a :: b :: c :: rest =>
    if a = q.quote ∧ b = q.quote ∧ c = q.quote then
      let rest := (lineBreak? rest).getD rest
      (openString? q (rest.length + 1) rest).map fun r => (String.ofList r.1, r.2)
    else if a = q.quote then
      (lineString? q (rest.length + 3) (b :: c :: rest)).map fun r => (String.ofList r.1, r.2)
    else none
  | a :: rest =>
    if a = q.quote then
      (lineString? q (rest.length + 1) rest).map fun r => (String.ofList r.1, r.2)
    else none
  | [] => none

/-- The characters of a key without quotes. -/
def isBare (c : Char) : Bool :=
  ('a' ≤ c && c ≤ 'z') || ('A' ≤ c && c ≤ 'Z') || ('0' ≤ c && c ≤ '9') || c == '-' || c == '_'

/-- One part of a key. -/
def keyPart? : Scan String
  | '"' :: rest => (lineString? basic (rest.length + 1) rest).map fun r => (String.ofList r.1, r.2)
  | '\'' :: rest =>
    (lineString? literal (rest.length + 1) rest).map fun r => (String.ofList r.1, r.2)
  | text =>
    let name := text.takeWhile isBare
    if name.isEmpty then none else some (String.ofList name, text.dropWhile isBare)

/-- The parts of a key between points, blanks around them allowed. -/
def keyParts? : Nat → Scan (List String)
  | 0, _ => none
  | fuel + 1, text => do
    let (part, rest) ← keyPart? (skipBlanks text)
    match skipBlanks rest with
    | '.' :: rest =>
      let (parts, rest) ← keyParts? fuel rest
      some (part :: parts, rest)
    | rest => some ([part], rest)

/-- Neither keys nor values are nested this deep. -/
def depthLimit : Nat := 80

def key? (text : List Char) : Option (List String × List Char) := do
  let (parts, rest) ← keyParts? (text.length + 1) text
  if parts.length < depthLimit then some (parts, rest) else none

end Gradebook.Toml
