/-
# Gradebook.Json5 — reading JSON5 texts

JSON with comments, commas after the last item, keys without quotes, texts between
either kind of quotes and numbers in more forms. A number with a point or an exponent
is a double, which must be finite; every other number is whole and has 64 bits, or 32
if it is hexadecimal. Unlike in plain JSON, white space is any space of Unicode.
-/
import Gradebook.Json
import Gradebook.Text.Blank
import Gradebook.Text.Ranges
import Gradebook.Text.Ranges.Combining
import Gradebook.Text.Ranges.Letters
import Gradebook.Text.Ranges.Numbers

namespace Gradebook.Json5

open Gradebook.Json (hexValue? escapedUnit? keyword?)
open Gradebook.Text.Ranges (isIn)

set_option autoImplicit false

/-! ### White space and comments -/

def isLineEnd (c : Char) : Bool :=
  c == '\n' || c == '\r' || c.toNat = 0x2028 || c.toNat = 0x2029

def isSpace (c : Char) : Bool := (Text.isBlank c && c.toNat ≠ 0x85) || c.toNat = 0xfeff

/-- The text behind the next `*/`. -/
def afterComment? : List Char → Option (List Char)
  | [] => none
  | '*' :: '/' :: rest => some rest
  | _ :: rest => afterComment? rest

/-- White space and comments; a comment without an end is none. -/
def skip : Nat → List Char → List Char
  | 0, text => text
  | fuel + 1, text =>
    match text.dropWhile isSpace with
    | '/' :: '/' :: rest => skip fuel (rest.dropWhile fun c => !isLineEnd c)
    | '/' :: '*' :: rest => match afterComment? rest with
      | some rest => skip fuel rest
      | none => '/' :: '*' :: rest
    | rest => rest

def skipAll (text : List Char) : List Char := skip (text.length + 1) text

/-! ### Texts and keys -/

def simpleEscapes : List (Char × Char) :=
  [('b', '\x08'), ('f', '\x0c'), ('n', '\n'), ('r', '\r'), ('t', '\t'), ('v', '\x0b')]

/-- The character of an escape by its code, behind the `u`. Half a pair is none. -/
def coded? (text : List Char) : Option (Char × List Char) :=
  match escapedUnit? text with
  | some (.char c, rest) => some (c, rest)
  | _ => none

/-- What an escape stands for, behind its backslash: a character, or nothing at the end of
a line. Digits other than zero stand for nothing known. -/
def escape? : List Char → Option (List Char × List Char)
  | [] => none
  | '\r' :: '\n' :: rest => some ([], rest)
  | 'x' :: a :: b :: rest => do
    some ([Char.ofNat (16 * (← hexValue? a) + (← hexValue? b))], rest)
  | 'u' :: rest => (coded? rest).map fun r => ([r.1], r.2)
  | '0' :: rest => some (['\x00'], rest)
  | c :: rest =>
    if isLineEnd c then some ([], rest)
    else match simpleEscapes.lookup c with
      | some d => some ([d], rest)
      | none => if c.isDigit || c == 'x' then none else some ([c], rest)

/-- A text up to its closing quote. -/
def string? (quote : Char) : Nat → List Char → Option (List Char × List Char)
  | fuel + 1, c :: rest =>
    if c = quote then some ([], rest)
    else if c = '\\' then do
      let (piece, rest) ← escape? rest
      let (more, rest) ← string? quote fuel rest
      some (piece ++ more, rest)
    else if isLineEnd c then none
    else do
      let (more, rest) ← string? quote fuel rest
      some (c :: more, rest)
  | _, _ => none

/-- Letters beyond ASCII, those that are numerals included. -/
def isLetter (c : Char) : Bool :=
  isIn Text.Ranges.alphanumeric c && !isIn Text.Ranges.combining c &&
    !isIn Text.Ranges.decimalDigits c && !isIn Text.Ranges.unlettered c

def isKeyStart (c : Char) : Bool := c.isAlpha || c == '$' || c == '_' || isLetter c

/-- Characters that stand within keys without quotes only: accents of their own, joiners
and connecting lines. -/
def keyMarks : List (Nat × Nat) :=
  [(0x5e, 0x5e), (0x60, 0x60), (0xa8, 0xa8), (0xaf, 0xaf), (0xb4, 0xb4), (0xb7, 0xb8),
    (0x2c2, 0x2c5), (0x2d2, 0x2df), (0x2e5, 0x2eb), (0x2ed, 0x2ed), (0x2ef, 0x2ff),
    (0x375, 0x375), (0x384, 0x385), (0x1fbd, 0x1fbd), (0x1fbf, 0x1fc1), (0x1fcd, 0x1fcf),
    (0x1fdd, 0x1fdf), (0x1fed, 0x1fef), (0x1ffd, 0x1ffe), (0x200c, 0x200d), (0x203f, 0x2040),
    (0x2054, 0x2054), (0x309b, 0x309c), (0xa700, 0xa716), (0xa720, 0xa721), (0xa789, 0xa78a),
    (0xab5b, 0xab5b), (0xab6a, 0xab6b), (0xfe33, 0xfe34), (0xfe4d, 0xfe4f), (0xff3e, 0xff40),
    (0xffe3, 0xffe3)]

def isKeyPart (c : Char) : Bool :=
  isKeyStart c || c.isDigit || isIn Text.Ranges.decimalDigits c ||
    isIn Text.Ranges.combining c || isIn keyMarks c

/-- The characters of a key without quotes. -/
def bareKey (first : Bool) : Nat → List Char → List Char × List Char
  | 0, text => ([], text)
  | fuel + 1, text =>
    match text with
    | '\\' :: 'u' :: rest => match coded? rest with
      | some (c, rest) =>
        let (more, rest) := bareKey false fuel rest
        (c :: more, rest)
      | none => ([], text)
    | c :: rest =>
      if if first then isKeyStart c else isKeyPart c then
        let (more, rest) := bareKey false fuel rest
        (c :: more, rest)
      else ([], text)
    | [] => ([], [])

def key? (text : List Char) : Option (String × List Char) :=
  match text with
  | '"' :: rest => (string? '"' (rest.length + 1) rest).map fun r => (String.ofList r.1, r.2)
  | '\'' :: rest => (string? '\'' (rest.length + 1) rest).map fun r => (String.ofList r.1, r.2)
  | text =>
    let (name, rest) := bareKey true (text.length + 1) text
    if name.isEmpty then none else some (String.ofList name, rest)

/-! ### Numbers -/

/-- The digits behind the mark of a hexadecimal number. -/
def hexadecimal? (text : List Char) : Option (List Char × List Char) :=
  match text with
  | '0' :: mark :: rest =>
    let digits := rest.takeWhile fun c => (hexValue? c).isSome
    if (mark = 'x' || mark = 'X') && !digits.isEmpty then some (digits, rest.drop digits.length)
    else none
  | _ => none

/-- An exponent with its mark, if there is one. -/
def exponentText (text : List Char) : List Char × List Char :=
  match text with
  | mark :: rest =>
    let (sign, digits) := match rest with
      | '+' :: more => (['+'], more)
      | '-' :: more => (['-'], more)
      | more => ([], more)
    let (digits, after) := Decimal.digitRun digits
    if (mark = 'e' || mark = 'E') && !digits.isEmpty then ('e' :: sign ++ digits, after)
    else ([], text)
  | [] => ([], [])

/-- The text of a decimal number and what follows it. No digit follows a leading zero. -/
def decimalText? (text : List Char) : Option (List Char × List Char) :=
  let (whole, rest) := match text with
    | '0' :: rest => (['0'], rest)
    | text => Decimal.digitRun text
  let (fraction, rest) := match rest with
    | '.' :: more =>
      let (digits, more) := Decimal.digitRun more
      if whole.isEmpty && digits.isEmpty then ([], rest) else ('.' :: digits, more)
    | rest => ([], rest)
  if whole.isEmpty && fraction.isEmpty then none
  else
    let (exponent, rest) := exponentText rest
    some (whole ++ fraction ++ exponent, rest)

def ofInteger : Int → Tree
  | .ofNat n => .natural n
  | .negSucc n => .leaf (.negative (n + 1)) 0

/-- The value of a decimal number with its sign. -/
def decimal? (text : List Char) : Option Tree :=
  let s := String.ofList text
  if text.contains '.' || text.contains 'e' then
    match Decimal.doubleOfText? s with
    | some x => if x.value.isInf then none else some (.double x)
    | none => none
  else (Decimal.integer? s).map ofInteger

/-- A number. A hexadecimal one has no sign. -/
def number? (text : List Char) : Option (Tree × List Char) := do
  let (sign, rest) := match text with
    | '+' :: rest => (['+'], rest)
    | '-' :: rest => (['-'], rest)
    | rest => ([], rest)
  match hexadecimal? rest with
  | some (digits, rest) =>
    let n := digits.foldl (fun n c => 16 * n + (hexValue? c).getD 0) 0
    if sign.isEmpty && n < Nat.pow 2 32 then some (.natural n, rest) else none
  | none => match decimalText? rest with
    | some (digits, rest) => some (← decimal? (sign ++ digits), rest)
    | none =>
      if sign = ['+'] then none
      else match keyword? "Infinity" rest, keyword? "NaN" rest with
        | some rest, _ =>
          some (.float (if sign.isEmpty then Decimal.infinity else -Decimal.infinity), rest)
        | none, some rest => some (.float Decimal.notANumber, rest)
        | none, none => none

/-! ### Values -/

/-- A value that is neither a list nor a table. -/
def scalar? (text : List Char) : Option (Tree × List Char) :=
  match text with
  | '"' :: rest =>
    (string? '"' (rest.length + 1) rest).map fun r => (.text (String.ofList r.1), r.2)
  | '\'' :: rest =>
    (string? '\'' (rest.length + 1) rest).map fun r => (.text (String.ofList r.1), r.2)
  | text => match keyword? "null" text, keyword? "true" text, keyword? "false" text with
    | some rest, _, _ => some (.null, rest)
    | _, some rest, _ => some (.truth true, rest)
    | _, _, some rest => some (.truth false, rest)
    | none, none, none => number? text

mutual

def value? : Nat → List Char → Option (Tree × List Char)
  | 0, _ => none
  | fuel + 1, text =>
    match skipAll text with
    | '[' :: rest => (items? fuel rest).map fun r => (.list r.1, r.2)
    | '\x7b' :: rest => (entries? fuel rest).map fun r => (.table r.1, r.2)
    | rest => scalar? rest

/-- Items up to the closing bracket, each but the last with a comma behind it. -/
def items? : Nat → List Char → Option (List Tree × List Char)
  | 0, _ => none
  | fuel + 1, text =>
    match skipAll text with
    | ']' :: rest => some ([], rest)
    | rest => do
      let (item, rest) ← value? fuel rest
      match skipAll rest with
      | ',' :: rest => (items? fuel rest).map fun r => (item :: r.1, r.2)
      | ']' :: rest => some ([item], rest)
      | _ => none

/-- Entries up to the closing brace. -/
def entries? : Nat → List Char → Option (List (String × Tree) × List Char)
  | 0, _ => none
  | fuel + 1, text =>
    match skipAll text with
    | '\x7d' :: rest => some ([], rest)
    | rest => do
      let (key, rest) ← key? rest
      match skipAll rest with
      | ':' :: rest =>
        let (value, rest) ← value? fuel rest
        match skipAll rest with
        | ',' :: rest => (entries? fuel rest).map fun r => ((key, value) :: r.1, r.2)
        | '\x7d' :: rest => some ([(key, value)], rest)
        | _ => none
      | _ => none

end

/-- The one value of a text. -/
def read? (text : String) : Option Tree := do
  let (t, rest) ← value? (2 * text.length + 2) text.toList
  if (skipAll rest).isEmpty then some t else none

end Gradebook.Json5
