/-
# Gradebook.Ron — reading RON texts

Structures with or without a name hold fields under names (a table) or values alone (a
list). A key of a map can be any value, but only texts can name an entry of a table, so
entries under other keys are left out. An optional value is its value or null, as is a
name alone; a single character is a text. Comments nest. A whole number beyond 64 bits
is the nearest double.
-/
import Gradebook.Document
import Gradebook.Json

namespace Gradebook.Ron

open Gradebook.Json (hexValue?)

set_option autoImplicit false

/-! ### White space and comments -/

def isSpace (c : Char) : Bool := c == ' ' || c == '\n' || c == '\t' || c == '\r'

/-- The text behind a comment that is so many levels deep. -/
def afterComment? : Nat → List Char → Option (List Char)
  | depth, '/' :: '*' :: rest => afterComment? (depth + 1) rest
  | 0, '*' :: '/' :: rest => some rest
  | depth + 1, '*' :: '/' :: rest => afterComment? depth rest
  | depth, _ :: rest => afterComment? depth rest
  | _, [] => none

/-- White space and comments; a comment without an end stays. -/
def skip : Nat → List Char → List Char
  | 0, text => text
  | fuel + 1, text =>
    match text.dropWhile isSpace with
    | '/' :: '/' :: rest => skip fuel (rest.dropWhile (· != '\n'))
    | '/' :: '*' :: rest => match afterComment? 0 rest with
      | some rest => skip fuel rest
      | none => '/' :: '*' :: rest
    | rest => rest

def skipAll (text : List Char) : List Char := skip (text.length + 1) text

/-! ### Names -/

def isNameStart (c : Char) : Bool := c.isAlpha || c == '_'

def isNamePart (c : Char) : Bool := c.isAlphanum || c == '_'

def isRawPart (c : Char) : Bool := isNamePart c || c == '.' || c == '+' || c == '-'

/-- Whether a text begins with the mark of raw names, which makes any word a plain name. -/
def isRaw : List Char → Bool
  | 'r' :: '#' :: _ => true
  | _ => false

/-- A name, or one behind the mark of raw names. The mark of a raw text is no name. -/
def name? (text : List Char) : Option (List Char × List Char) :=
  match text with
  | 'r' :: '"' :: _ => none
  | 'r' :: '#' :: rest =>
    let name := rest.takeWhile isRawPart
    if name.isEmpty then none else some (name, rest.drop name.length)
  | c :: _ => if isNameStart c then some (text.span isNamePart) else none
  | [] => none

/-! ### Texts -/

def simpleEscapes : List (Char × Char) :=
  [('\'', '\''), ('"', '"'), ('\\', '\\'), ('n', '\n'), ('r', '\r'), ('t', '\t'), ('0', '\x00')]

/-- What an escape stands for, behind its backslash. -/
def escape? : List Char → Option (Char × List Char)
  | 'x' :: a :: b :: rest => do
    some (Char.ofNat (16 * (← hexValue? a) + (← hexValue? b)), rest)
  | 'u' :: '\x7b' :: rest => do
    let digits := rest.takeWhile (· != '\x7d')
    let values ← digits.mapM hexValue?
    let code := values.foldl (fun n d => 16 * n + d) 0
    if 1 ≤ values.length ∧ values.length ≤ 6 ∧
        (code < 0xd800 ∨ (0xdfff < code ∧ code < 0x110000)) then
      match rest.drop digits.length with
      | '\x7d' :: rest => some (Char.ofNat code, rest)
      | _ => none
    else none
  | c :: rest => (simpleEscapes.lookup c).map (·, rest)
  | [] => none

/-- A text up to its closing quote. -/
def string? : Nat → List Char → Option (List Char × List Char)
  | fuel + 1, c :: rest =>
    if c = '"' then some ([], rest)
    else do
      let (d, rest) ← if c = '\\' then escape? rest else some (c, rest)
      let (more, rest) ← string? fuel rest
      some (d :: more, rest)
  | _, _ => none

/-- A raw text behind its first quote, which ends with a quote and so many marks. -/
def rawString? (marks : Nat) : List Char → Option (List Char × List Char)
  | [] => none
  | c :: rest =>
    if c = '"' && rest.take marks == List.replicate marks '#' then some ([], rest.drop marks)
    else (rawString? marks rest).map fun r => (c :: r.1, r.2)

/-- A single character behind its first quote. -/
def char? (text : List Char) : Option (Char × List Char) := do
  let (c, rest) ← match text with
    | '\\' :: rest => escape? rest
    | '\'' :: _ => none
    | c :: rest => some (c, rest)
    | [] => none
  match rest with
  | '\'' :: rest => some (c, rest)
  | _ => none

/-- A text of any kind. -/
def text? (text : List Char) : Option (String × List Char) :=
  match text with
  | '"' :: rest => (string? (rest.length + 1) rest).map fun r => (String.ofList r.1, r.2)
  | '\'' :: rest => (char? rest).map fun r => (String.ofList [r.1], r.2)
  | 'r' :: rest =>
    let marks := rest.takeWhile (· == '#')
    match rest.drop marks.length with
    | '"' :: rest => (rawString? marks.length rest).map fun r => (String.ofList r.1, r.2)
    | _ => none
  | _ => none

/-! ### Numbers -/

def isFloatChar (c : Char) : Bool :=
  c.isDigit || c == 'e' || c == 'E' || c == '.' || c == '+' || c == '-'

def isWholeChar (c : Char) : Bool := (hexValue? c).isSome || c == '_'

/-- A whole number of 64 bits behind its sign, in the base that its mark tells. Low lines
between digits are left out. -/
def whole? (negative : Bool) (text : List Char) : Option (Int × List Char) := do
  let (base, digits) := match text with
    | '0' :: 'x' :: rest => (16, rest)
    | '0' :: 'b' :: rest => (2, rest)
    | '0' :: 'o' :: rest => (8, rest)
    | rest => (10, rest)
  let (digits, rest) := digits.span isWholeChar
  let values ← (digits.filter (· != '_')).mapM hexValue?
  if digits.isEmpty || digits.head? == some '_' || values.any (base ≤ ·) then none
  else
    let n := values.foldl (fun n d => base * n + d) 0
    if negative then if n ≤ Nat.pow 2 63 then some (-(n : Int), rest) else none
    else if n < Nat.pow 2 64 then some ((n : Int), rest) else none

/-- The numbers that are words. -/
def numberWords : List (String × Float) :=
  [("inf", Decimal.infinity), ("NaN", Decimal.notANumber)]

/-- A number that is a word behind its sign. -/
def signedWord? (text : List Char) : Option (Tree × List Char) :=
  match text with
  | sign :: rest =>
    if sign = '+' || sign = '-' then do
      let (word, rest) := rest.span isNamePart
      let x ← numberWords.lookup (String.ofList word)
      some (.float (if sign = '-' then -x else x), rest)
    else none
  | [] => none

def float? (text : List Char) : Option (Tree × List Char) :=
  match signedWord? text with
  | some r => some r
  | none => do
    let (digits, rest) := text.span isFloatChar
    some (.double (← Decimal.doubleOfText? (String.ofList digits)), rest)

def ofInteger : Int → Tree
  | .ofNat n => .natural n
  | .negSucc n => .leaf (.negative (n + 1)) 0

/-- A number: a double if its text is longer than that of a whole number. -/
def number? (text : List Char) : Option (Tree × List Char) :=
  let (signed, digits) := match text with
    | '-' :: rest => (true, rest)
    | '+' :: rest => (false, rest)
    | rest => (false, rest)
  if (digits.takeWhile isWholeChar).length < (digits.takeWhile isFloatChar).length then
    float? text
  else match whole? signed digits with
    | some (n, rest) => some (ofInteger n, rest)
    | none => float? text

/-! ### Values -/

/-- Whether a structure has names for its fields. -/
def hasFieldNames (text : List Char) : Bool :=
  match name? (skipAll text) with
  | some (_, rest) => (skipAll rest).head? == some ':'
  | none => false

/-- Go over a mark, if it is there. -/
def mark? (c : Char) (text : List Char) : Option (List Char) :=
  match text with
  | d :: rest => if d = c then some rest else none
  | [] => none

/-- How deep values may be nested in one another. -/
def depthLimit : Nat := 128

mutual

/-- A value with at most `room` levels within. -/
def value? : Nat → Nat → List Char → Option (Tree × List Char)
  | 0, _, _ => none
  | fuel + 1, room, text =>
    match text with
    | '(' :: ')' :: rest => some (.null, rest)
    | '(' :: rest => structure? fuel room rest
    | '[' :: rest => (items? fuel room ']' rest).map fun r => (.list r.1, r.2)
    | '\x7b' :: rest => (entries? fuel room false rest).map fun r => (.table r.1, r.2)
    | text => match name? text with
      | some (name, rest) => word? fuel room (if isRaw text then "" else String.ofList name) rest
      | none => match text? text with
        | some (s, rest) => some (.text s, rest)
        | none => number? text

/-- A value within another one. -/
def inner? : Nat → Nat → List Char → Option (Tree × List Char)
  | 0, _, _ => none
  | _, 0, _ => none
  | fuel + 1, room + 1, text => value? fuel room (skipAll text)

/-- What begins with a word; a name that only stands for itself is the empty word. -/
def word? : Nat → Nat → String → List Char → Option (Tree × List Char)
  | 0, _, _, _ => none
  | fuel + 1, room, word, rest =>
    if word = "true" then some (.truth true, rest)
    else if word = "false" then some (.truth false, rest)
    else if word = "None" then some (.null, rest)
    else if word = "Some" then do
      let (t, rest) ← inner? fuel room (← mark? '(' (skipAll rest))
      let rest := skipAll rest
      let rest := skipAll ((mark? ',' rest).getD rest)
      some (t, ← mark? ')' rest)
    else match numberWords.lookup word, skipAll rest with
      | some x, _ => some (.float x, rest)
      | none, '(' :: rest => structure? fuel room rest
      | none, rest => some (.null, rest)

/-- The fields of a structure behind its opening bracket. -/
def structure? : Nat → Nat → List Char → Option (Tree × List Char)
  | 0, _, _ => none
  | fuel + 1, room, text =>
    if hasFieldNames text then (entries? fuel room true text).map fun r => (.table r.1, r.2)
    else (items? fuel room ')' text).map fun r => (.list r.1, r.2)

/-- Values up to a closing bracket, each but the last with a comma behind it. -/
def items? : Nat → Nat → Char → List Char → Option (List Tree × List Char)
  | 0, _, _, _ => none
  | fuel + 1, room, close, text =>
    match mark? close (skipAll text) with
    | some rest => some ([], rest)
    | none => do
      let (item, rest) ← inner? fuel room text
      match mark? ',' (skipAll rest) with
      | some rest => (items? fuel room close rest).map fun r => (item :: r.1, r.2)
      | none => some ([item], ← mark? close (skipAll rest))

/-- Fields or entries up to the closing bracket. -/
def entries? : Nat → Nat → Bool → List Char → Option (List (String × Tree) × List Char)
  | 0, _, _, _ => none
  | fuel + 1, room, named, text =>
    let close := if named then ')' else '\x7d'
    match mark? close (skipAll text) with
    | some rest => some ([], rest)
    | none => do
      let (key, rest) ← key? fuel room named (skipAll text)
      let (value, rest) ← inner? fuel room (← mark? ':' (skipAll rest))
      let entry := (key.map (·, value)).toList
      match mark? ',' (skipAll rest) with
      | some rest => (entries? fuel room named rest).map fun r => (entry ++ r.1, r.2)
      | none => some (entry, ← mark? close (skipAll rest))

/-- The key of an entry, if it is a name or a text. -/
def key? : Nat → Nat → Bool → List Char → Option (Option String × List Char)
  | 0, _, _, _ => none
  | fuel + 1, room, named, text =>
    if named then (name? text).map fun r => (some (String.ofList r.1), r.2)
    else match text? text with
    | some (key, rest) => some (some key, rest)
    | none => (inner? fuel room text).map fun r => (none, r.2)

end

/-! ### Attributes -/

/-- The rules of reading that a text can switch on. They change nothing here. -/
def extensionNames : List String :=
  ["unwrap_newtypes", "implicit_some", "unwrap_variant_newtypes"]

/-- The names in an attribute up to its closing brackets. -/
def attributeNames? : Nat → List Char → Option (List Char)
  | 0, _ => none
  | fuel + 1, text => do
    let (name, rest) ← name? (skipAll text)
    if !extensionNames.contains (String.ofList name) then none
    else
      let close? := fun text => do
        let rest ← mark? ')' (skipAll text)
        mark? ']' (skipAll rest)
      match mark? ',' (skipAll rest) with
      | none => close? rest
      | some rest => match close? rest with
        | some rest => some rest
        | none => attributeNames? fuel rest

/-- Go over the attributes before the value. -/
def attributes? : Nat → List Char → Option (List Char)
  | 0, _ => none
  | fuel + 1, text =>
    match skipAll text with
    | '#' :: rest => do
      let rest ← mark? '!' (skipAll rest)
      let rest ← mark? '[' (skipAll rest)
      let rest ← Json.keyword? "enable" (skipAll rest)
      let rest ← mark? '(' (skipAll rest)
      attributes? fuel (← attributeNames? (rest.length + 1) rest)
    | rest => some rest

/-- The one value of a text. -/
def read? (text : String) : Option Tree := do
  let rest ← attributes? (text.length + 1) text.toList
  let (t, rest) ← value? (5 * text.length + 5) depthLimit rest
  if (skipAll rest).isEmpty then some t else none

end Gradebook.Ron
