/-
# Gradebook.Json — writing and reading JSON texts

`write` gives the compact form of stored rows, `writePretty` the indented form of
reports; both keep the entry order of the tree. `read?` accepts exactly one value
with white space around it. Whole numbers of 64 bits stay whole, every other
number becomes a double by the quick reading (`Decimal.scaled?`).
-/
import Gradebook.Document
import Gradebook.Decimal.Reading

namespace Gradebook.Json

open Gradebook.Decimal (digitRun numberOf)

set_option autoImplicit false

/-! ### Writing -/

def hexDigit (n : Nat) : Char :=
  if n < 10 then Char.ofNat (0x30 + n) else Char.ofNat (0x61 + n - 10)

/-- Quotes, backslashes and control characters are escaped, all else stands. -/
def escaped (c : Char) : List Char :=
  if c = '"' then ['\\', '"']
  else if c = '\\' then ['\\', '\\']
  else if c = '\n' then ['\\', 'n']
  else if c = '\r' then ['\\', 'r']
  else if c = '\t' then ['\\', 't']
  else if c.toNat = 8 then ['\\', 'b']
  else if c.toNat = 12 then ['\\', 'f']
  else if c.toNat < 0x20 then
    ['\\', 'u', '0', '0', hexDigit (c.toNat / 16), hexDigit (c.toNat % 16)]
  else [c]

def quoted (s : String) : String := "\"" ++ String.ofList (s.toList.flatMap escaped) ++ "\""

/-- Doubles that no number denotes are written as null. -/
def scalarText : Scalar → String
  | .null => "null"
  | .truth b => if b then "true" else "false"
  | .natural n => Decimal.naturalText n
  | .negative n => "-" ++ Decimal.naturalText n
  | .double x => (Decimal.exchanged? x.value).getD "null"
  | .text s => quoted s
  | .moment s => quoted s
  | .unusable _ => "null"

mutual

/-- The compact form. -/
def write : Tree → String
  | .leaf value _ => scalarText value
  | .list items => "[" ++ ",".intercalate (writeItems items) ++ "]"
  | .table entries => "\x7b" ++ ",".intercalate (writeEntries entries) ++ "\x7d"

def writeItems : List Tree → List String
  | [] => []
  | t :: rest => write t :: writeItems rest

def writeEntries : List (String × Tree) → List String
  | [] => []
  | (key, t) :: rest => (quoted key ++ ":" ++ write t) :: writeEntries rest

end

/-- A line break and two blanks for every level. -/
def newLine (level : Nat) : String := "\n" ++ String.ofList (List.replicate (2 * level) ' ')

/-- Parts on lines of their own between two brackets; no parts, no lines. -/
def bracketed (opening closing : String) (level : Nat) (parts : List String) : String :=
  if parts.isEmpty then opening ++ closing
  else opening ++ newLine (level + 1) ++ ("," ++ newLine (level + 1)).intercalate parts ++
    newLine level ++ closing

mutual

def writeAt (level : Nat) : Tree → String
  | .leaf value _ => scalarText value
  | .list items => bracketed "[" "]" level (writeItemsAt (level + 1) items)
  | .table entries => bracketed "\x7b" "\x7d" level (writeEntriesAt (level + 1) entries)

def writeItemsAt (level : Nat) : List Tree → List String
  | [] => []
  | t :: rest => writeAt level t :: writeItemsAt level rest

def writeEntriesAt (level : Nat) : List (String × Tree) → List String
  | [] => []
  | (key, t) :: rest => (quoted key ++ ": " ++ writeAt level t) :: writeEntriesAt level rest

end

/-- The indented form, two blanks for every level. -/
def writePretty (t : Tree) : String := writeAt 0 t

/-! ### Reading -/

def isSpace (c : Char) : Bool := c == ' ' || c == '\n' || c == '\t' || c == '\r'

def skip (text : List Char) : List Char := text.dropWhile isSpace

/-- The digits after a point, at least one. -/
def fractionPart? : List Char → Option (List Char × List Char)
  | '.' :: rest =>
    let (digits, rest) := digitRun rest
    if digits.isEmpty then none else some (digits, rest)
  | rest => some ([], rest)

/-- An exponent: its sign and digits, at least one, if its mark is there. -/
def exponentPart? : List Char → Option (Option (Bool × List Char) × List Char)
  | mark :: rest =>
    if mark = 'e' ∨ mark = 'E' then
      let (negative, rest) := Decimal.signOf rest
      let (digits, rest) := digitRun rest
      if digits.isEmpty then none else some (some (negative, digits), rest)
    else some (none, mark :: rest)
  | [] => some (none, [])

/-- The digits that fit into 64 bits, and how many did not. -/
def kept : Nat → List Char → Nat × Nat
  | n, [] => (n, 0)
  | n, c :: rest =>
    let next := 10 * n + Decimal.digitValue c
    if next < Nat.pow 2 64 then kept next rest else (n, rest.length + 1)

/-- The value of a number from its parts. Digits beyond 64 bits are dropped: those before
the point still count in the exponent. -/
def numberValue (negative : Bool) (whole fraction : List Char)
    (exponent : Option (Bool × List Char)) : Scalar :=
  let (n, dropped) := kept 0 whole
  if dropped = 0 ∧ fraction.isEmpty ∧ exponent.isNone then
    if !negative then .natural n
    else if n = 0 ∨ Nat.pow 2 63 < n then .double (.ofFloat (-Float.ofNat n))
    else .negative n
  else
    let (n, unused) := kept n fraction
    let shift : Int := (dropped : Int) - ((fraction.length - unused : Nat) : Int)
    let power := match exponent with
      | none => 0
      | some (_, digits) => numberOf digits
    let down := match exponent with
      | some (true, _) => true
      | _ => false
    if Nat.pow 2 31 ≤ power then
      if n ≠ 0 ∧ !down then .unusable "number out of range"
      else .double (.ofFloat (if negative then -0.0 else 0.0))
    else match Decimal.scaled? negative n (if down then shift - power else shift + power) with
      | some x => .double (.ofFloat x)
      | none => .unusable "number out of range"

/-- A number: no digit may follow a leading zero. -/
def number? (negative : Bool) (text : List Char) : Option (Scalar × List Char) := do
  let (whole, rest) := digitRun text
  if whole.isEmpty || (whole.head? == some '0' && decide (1 < whole.length)) then none
  else
    let (fraction, rest) ← fractionPart? rest
    let (exponent, rest) ← exponentPart? rest
    some (numberValue negative whole fraction exponent, rest)

def hexValue? (c : Char) : Option Nat :=
  if c.isDigit then some (c.toNat - 0x30)
  else if 'a' ≤ c && c ≤ 'f' then some (c.toNat - 0x61 + 10)
  else if 'A' ≤ c && c ≤ 'F' then some (c.toNat - 0x41 + 10)
  else none

/-- Four hexadecimal digits. -/
def unit? : List Char → Option (Nat × List Char)
  | a :: b :: c :: d :: rest => do
    let a ← hexValue? a
    let b ← hexValue? b
    let c ← hexValue? c
    let d ← hexValue? d
    some (((a * 16 + b) * 16 + c) * 16 + d, rest)
  | _ => none

/-- A piece of a string: a character, or half a surrogate pair. -/
inductive Piece where
  | char (c : Char)
  | halfPair

def simpleEscape? (c : Char) : Option Char :=
  match c with
  | '"' => some '"'
  | '\\' => some '\\'
  | '/' => some '/'
  | 'b' => some (Char.ofNat 8)
  | 'f' => some (Char.ofNat 12)
  | 'n' => some '\n'
  | 'r' => some '\r'
  | 't' => some '\t'
  | _ => none

/-- The second half of a surrogate pair. -/
def lowHalf? : List Char → Option (Nat × List Char)
  | '\\' :: 'u' :: rest => do
    let (low, rest) ← unit? rest
    if 0xdc00 ≤ low ∧ low ≤ 0xdfff then some (low, rest) else none
  | _ => none

/-- What an escape after its `\u` stands for. A first half without a second one is kept as
a piece of its own, as is a lone second half. -/
def escapedUnit? (text : List Char) : Option (Piece × List Char) := do
  let (high, rest) ← unit? text
  if high < 0xd800 ∨ 0xdfff < high then some (.char (Char.ofNat high), rest)
  else if 0xdc00 ≤ high then some (.halfPair, rest)
  else match lowHalf? rest with
    | some (low, rest) =>
      some (.char (Char.ofNat (0x10000 + (high - 0xd800) * 0x400 + (low - 0xdc00))), rest)
    | none => some (.halfPair, rest)

/-- The pieces of a string up to its closing quote. Control characters must be escaped;
`fuel` bounds the number of pieces. -/
def pieces? : Nat → List Char → Option (List Piece × List Char)
  | 0, _ => none
  | fuel + 1, text =>
    match text with
    | [] => none
    | '"' :: rest => some ([], rest)
    | '\\' :: 'u' :: rest => do
      let (piece, rest) ← escapedUnit? rest
      let (pieces, rest) ← pieces? fuel rest
      some (piece :: pieces, rest)
    | '\\' :: c :: rest => do
      let c ← simpleEscape? c
      let (pieces, rest) ← pieces? fuel rest
      some (.char c :: pieces, rest)
    | c :: rest =>
      if c.toNat < 0x20 then none
      else do
        let (pieces, rest) ← pieces? fuel rest
        some (.char c :: pieces, rest)

/-- The text of pieces without half pairs. -/
def textOf? : List Piece → Option (List Char)
  | [] => some []
  | .char c :: rest => (textOf? rest).map (c :: ·)
  | .halfPair :: _ => none

/-- A string after its opening quote; none inside stands for half a surrogate pair. -/
def string? (text : List Char) : Option (Option String × List Char) := do
  let (pieces, rest) ← pieces? (text.length + 1) text
  some ((textOf? pieces).map String.ofList, rest)

def keyword? (word : String) (text : List Char) : Option (List Char) :=
  if word.toList.isPrefixOf text then some (text.drop word.length) else none

def leafAt (value : Scalar) (rest : List Char) : Tree × List Char :=
  (.leaf value rest.length, rest)

/-- A scalar that starts with `c`. -/
def scalar? (c : Char) (rest : List Char) : Option (Tree × List Char) :=
  match c with
  | '"' => do
    let (text, rest) ← string? rest
    some (leafAt (match text with
      | some s => .text s
      | none => .unusable "lone surrogate") rest)
  | 'n' => (keyword? "ull" rest).map (leafAt .null)
  | 't' => (keyword? "rue" rest).map (leafAt (.truth true))
  | 'f' => (keyword? "alse" rest).map (leafAt (.truth false))
  | '-' => (number? true rest).map fun (value, rest) => leafAt value rest
  | c => (number? false (c :: rest)).map fun (value, rest) => leafAt value rest

/-- A table whose keys are all texts; one half pair makes it unusable. -/
def tableOf (entries : List (Option String × Tree)) : Tree :=
  match entries.mapM fun e => e.1.map fun key => (key, e.2) with
  | some entries => .table entries
  | none => .leaf (.unusable "lone surrogate") 0

mutual

/-- A value after white space; `fuel` bounds values and separators together. -/
def value? : Nat → List Char → Option (Tree × List Char)
  | 0, _ => none
  | fuel + 1, text =>
    match skip text with
    | [] => none
    | '[' :: rest =>
      match skip rest with
      | ']' :: rest => some (.list [], rest)
      | rest => (items? fuel rest).map fun (items, rest) => (.list items, rest)
    | '\x7b' :: rest =>
      match skip rest with
      | '\x7d' :: rest => some (.table [], rest)
      | rest => (entries? fuel rest).map fun (entries, rest) => (tableOf entries, rest)
    | c :: rest => scalar? c rest

/-- Items up to the closing bracket. -/
def items? : Nat → List Char → Option (List Tree × List Char)
  | 0, _ => none
  | fuel + 1, text => do
    let (item, rest) ← value? fuel text
    match skip rest with
    | ',' :: rest =>
      let (items, rest) ← items? fuel rest
      some (item :: items, rest)
    | ']' :: rest => some ([item], rest)
    | _ => none

/-- Entries up to the closing brace. -/
def entries? : Nat → List Char → Option (List (Option String × Tree) × List Char)
  | 0, _ => none
  | fuel + 1, text =>
    match skip text with
    | '"' :: rest => do
      let (key, rest) ← string? rest
      match skip rest with
      | ':' :: rest =>
        let (value, rest) ← value? fuel rest
        match skip rest with
        | ',' :: rest =>
          let (entries, rest) ← entries? fuel rest
          some ((key, value) :: entries, rest)
        | '\x7d' :: rest => some ([(key, value)], rest)
        | _ => none
      | _ => none
    | _ => none

end

/-- The one value of a text. -/
def read? (text : String) : Option Tree :=
  match value? (2 * text.length + 2) text.toList with
  | some (t, rest) => if (skip rest).isEmpty then some t else none
  | none => none

/-- Line and column, in bytes, of the place in a text that `left` characters follow. -/
def placeOf (text : String) (left : Nat) : Nat × Nat :=
  let before := text.toList.take (text.length - left)
  let line := before.reverse.takeWhile (· ≠ '\n')
  (before.count '\n' + 1, line.foldl (fun n c => n + c.utf8Size) 0)

/-- A misfit with its place in the text. -/
def describe (text : String) (left : Nat) (reason : String) : String :=
  let (line, column) := placeOf text left
  reason ++ " at line " ++ Decimal.naturalText line ++ " column " ++ Decimal.naturalText column

end Gradebook.Json
