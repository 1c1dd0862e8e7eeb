/-
# Gradebook.Toml.Number — numbers, dates and times of TOML texts

A date may be followed by a time and a time by an offset; both are checked against
the calendar and kept as their usual text. Numbers have a sign, underscores
between digits and, for whole numbers, three more bases. Whole numbers have 64
bits. A number too large for a double is refused, one too small is not: a
positive overflow is no infinity, a negative one is.
-/
import Gradebook.Decimal.Reading
import Gradebook.Instant
import Gradebook.Toml.Scan

namespace Gradebook.Toml

set_option autoImplicit false

/-- A number of exactly so many digits, within bounds. -/
def field? (count low high : Nat) (text : List Char) : Option (Nat × List Char) :=
  let digits := text.take count
  let n := Decimal.numberOf digits
  if digits.length = count ∧ digits.all Char.isDigit ∧ low ≤ n ∧ n ≤ high then
    some (n, text.drop count)
  else none

def mark? (c : Char) : List Char → Option (List Char)
  | d :: rest => if d = c then some rest else none
  | [] => none

def date? : Scan String := fun text => do
  let (year, rest) ← field? 4 0 9999 text
  let (month, rest) ← field? 2 1 12 (← mark? '-' rest)
  let (day, rest) ← field? 2 1 (Instant.daysInMonth year month) (← mark? '-' rest)
  let text := Decimal.paddedText 4 year ++ "-" ++ Decimal.paddedText 2 month ++ "-"
    ++ Decimal.paddedText 2 day
  some (text, rest)

/-- Digits of a second behind the point, as far as nanoseconds, without trailing zeros. -/
def secondFraction : Scan String
  | '.' :: rest =>
    let (digits, after) := Decimal.digitRun rest
    if digits.isEmpty then some ("", '.' :: rest)
    else
      let kept := ((digits.take 9).reverse.dropWhile (· = '0')).reverse
      some (if kept.isEmpty then "" else "." ++ String.ofList kept, after)
  | rest => some ("", rest)

def time? : Scan String := fun text => do
  let (hour, rest) ← field? 2 0 23 text
  let (minute, rest) ← field? 2 0 59 (← mark? ':' rest)
  let (second, rest) ← field? 2 0 60 (← mark? ':' rest)
  let (fraction, rest) ← secondFraction rest
  let text := Decimal.paddedText 2 hour ++ ":" ++ Decimal.paddedText 2 minute ++ ":"
    ++ Decimal.paddedText 2 second ++ fraction
  some (text, rest)

/-- An offset, if there is one. -/
def offset? (text : List Char) : Option (String × List Char) :=
  match text with
  | 'Z' :: rest => some ("Z", rest)
  | 'z' :: rest => some ("Z", rest)
  | sign :: rest =>
    if sign = '+' ∨ sign = '-' then do
      let (hours, rest) ← field? 2 0 23 rest
      let (minutes, rest) ← field? 2 0 59 (← mark? ':' rest)
      let sign := if sign = '-' ∧ hours + minutes ≠ 0 then "-" else "+"
      some (sign ++ Decimal.paddedText 2 hours ++ ":" ++ Decimal.paddedText 2 minutes, rest)
    else some ("", text)
  | [] => some ("", text)

/-- A time behind its date, if there is one. -/
def timePart? : List Char → Option (String × List Char)
  | c :: rest =>
    if c = 'T' ∨ c = 't' ∨ c = ' ' then do
      let (time, rest) ← time? rest
      let (offset, rest) ← offset? rest
      some ("T" ++ time ++ offset, rest)
    else none
  | [] => none

/-- A date, a time, or both. -/
def moment? (text : List Char) : Option (String × List Char) :=
  match date? text with
  | some (date, rest) => match timePart? rest with
    | some (time, rest) => some (date ++ time, rest)
    | none => some (date, rest)
  | none => time? text

/-- Digits with single underscores between them, which are left out. -/
def groupedDigits? (isDigit : Char → Bool) : Nat → Scan (List Char)
  | fuel + 1, c :: rest =>
    if !isDigit c then none
    else match rest with
      | '_' :: rest => do
        let (digits, rest) ← groupedDigits? isDigit fuel rest
        some (c :: digits, rest)
      | d :: rest =>
        if isDigit d then do
          let (digits, rest) ← groupedDigits? isDigit fuel (d :: rest)
          some (c :: digits, rest)
        else some ([c], d :: rest)
      | [] => some ([c], [])
  | _, _ => none

def digits? (text : List Char) : Option (List Char × List Char) :=
  groupedDigits? Char.isDigit (text.length + 1) text

/-- The digits of a whole number; a leading zero stands alone. -/
def wholeDigits? : Scan (List Char)
  | '0' :: rest => some (['0'], rest)
  | text => digits? text

/-- The part of a number that makes it a double: its text, empty if there is none. -/
def fractionText? : Scan (List Char)
  | '.' :: rest => do
    let (digits, rest) ← digits? rest
    some ('.' :: digits, rest)
  | rest => some ([], rest)

def exponentText? : Scan (List Char)
  | c :: rest =>
    if c = 'e' ∨ c = 'E' then
      let (negative, rest) := Decimal.signOf rest
      do
        let (digits, rest) ← digits? rest
        some ('e' :: (if negative then '-' :: digits else digits), rest)
    else some ([], c :: rest)
  | [] => some ([], [])

/-- A number of either sign; a NaN has one too. -/
def signed (negative : Bool) (x : Float) : Double :=
  if negative then (Double.ofFloat x).negated else .ofFloat x

/-- A whole number of 64 bits with a sign. -/
def whole? (negative : Bool) (n : Nat) : Option Scalar :=
  if negative then
    if n = 0 then some (.natural 0) else if n ≤ Nat.pow 2 63 then some (.negative n) else none
  else if n < Nat.pow 2 63 then some (.natural n) else none

def decimal? (text : List Char) : Option (Scalar × List Char) := do
  let (negative, rest) := Decimal.signOf text
  let (whole, rest) ← wholeDigits? rest
  let (fraction, rest) ← fractionText? rest
  let (exponent, rest) ← exponentText? rest
  if fraction.isEmpty && exponent.isEmpty then
    some (← whole? negative (Decimal.numberOf whole), rest)
  else
    let x := signed negative (← Decimal.ofText? (String.ofList (whole ++ fraction ++ exponent)))
    if x.value == Decimal.infinity then none else some (.double x, rest)

/-- A whole number in another base, behind its mark. -/
def based? (base : Nat) (text : List Char) : Option (Scalar × List Char) := do
  let isDigit := fun c => match Json.hexValue? c with
    | some d => decide (d < base)
    | none => false
  let (digits, rest) ← groupedDigits? isDigit (text.length + 1) text
  let n := digits.foldl (fun n c => base * n + (Json.hexValue? c).getD 0) 0
  some (← whole? false n, rest)

/-- Infinity or not a number, with or without a sign. -/
def special? (text : List Char) : Option (Scalar × List Char) :=
  let (negative, rest) := Decimal.signOf text
  match rest with
  | 'i' :: 'n' :: 'f' :: rest => some (.double (signed negative Decimal.infinity), rest)
  | 'n' :: 'a' :: 'n' :: rest => some (.double (signed negative Decimal.notANumber), rest)
  | _ => none

/-- A number, date or time. -/
def number? (text : List Char) : Option (Scalar × List Char) :=
  match moment? text with
  | some (moment, rest) => some (.moment moment, rest)
  | none => match text with
    | '0' :: 'x' :: rest => based? 16 rest
    | '0' :: 'o' :: rest => based? 8 rest
    | '0' :: 'b' :: rest => based? 2 rest
    | text => match special? text with
      | some r => some r
      | none => decimal? text

end Gradebook.Toml
