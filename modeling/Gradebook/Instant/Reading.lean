/-
# Gradebook.Instant.Reading — reading a date, a time of day and an offset

A relaxed reading of RFC 3339: blanks may stand before every number and before
`-` and `:`, the time may follow a blank instead of a `T`, the zone may be `Z`,
`UTC` or an offset with or without its colon, and fraction digits beyond the
ninth are dropped. The parts must exist in the calendar; a second 60 is a leap
second.
-/
import Gradebook.Instant
import Gradebook.Decimal.Reading
import Gradebook.Text.Blank

namespace Gradebook.Instant

open Gradebook.Text (isBlank dropBlanks)
open Gradebook.Decimal (numberOf digitValue)

set_option autoImplicit false

/-- A number of one to `width` digits, after blanks. -/
def number? (width : Nat) (text : List Char) : Option (Nat × List Char) :=
  let text := dropBlanks text
  let digits := (text.take width).takeWhile Char.isDigit
  if digits.isEmpty then none else some (numberOf digits, text.drop digits.length)

/-- A year: four digits at most, or any number of them after a sign. -/
def year? (text : List Char) : Option (Int × List Char) :=
  match dropBlanks text with
  | '-' :: rest => (signedYear? rest).map fun (n, rest) => (-(n : Int), rest)
  | '+' :: rest => (signedYear? rest).map fun (n, rest) => ((n : Int), rest)
  | rest => (number? 4 rest).map fun (n, rest) => ((n : Int), rest)
where
  signedYear? (text : List Char) : Option (Nat × List Char) :=
    let digits := text.takeWhile Char.isDigit
    if digits.isEmpty then none else some (numberOf digits, text.drop digits.length)

/-- A mark after blanks. -/
def mark? (mark : Char) (text : List Char) : Option (List Char) :=
  match dropBlanks text with
  | c :: rest => if c = mark then some rest else none
  | [] => none

/-- The mark between date and time. -/
def separator? : List Char → Option (List Char)
  | c :: rest => if c = 'T' ∨ c = 't' ∨ c = ' ' then some rest else none
  | [] => none

/-- The nanoseconds of a fraction; no fraction is zero. -/
def fraction? : List Char → Option (Nat × List Char)
  | '.' :: rest =>
    let digits := rest.takeWhile Char.isDigit
    let kept := digits.take 9
    if digits.isEmpty then none
    else some (numberOf kept * Nat.pow 10 (9 - kept.length), rest.drop digits.length)
  | rest => some (0, rest)

/-- Two digits of an offset, the first one at most `limit`. -/
def twoDigits? (limit : Char) : List Char → Option (Nat × List Char)
  | a :: b :: rest =>
    if a.isDigit && b.isDigit && decide (a ≤ limit) then
      some (10 * digitValue a + digitValue b, rest)
    else none
  | _ => none

/-- Seconds east of UTC. -/
def offset? (text : List Char) : Option (Int × List Char) :=
  match dropBlanks text with
  | c :: rest =>
    if c = 'Z' ∨ c = 'z' then some (0, rest)
    else if (c :: rest).take 3 |>.map Char.toLower |> (· == ['u', 't', 'c']) then
      some (0, rest.drop 2)
    else if c = '+' ∨ c = '-' ∨ c = '−' then do
      let (hours, rest) ← twoDigits? '9' rest
      let rest := rest.dropWhile fun c => c == ':' || isBlank c
      let (minutes, rest) ← twoDigits? '5' rest
      let seconds : Int := ((hours * 3600 + minutes * 60 : Nat) : Int)
      some (if c = '+' then seconds else -seconds, rest)
    else none
  | [] => none

/-- The years the calendar covers. -/
def leastYear : Int := -262143
def greatestYear : Int := 262142

def isDate (year : Int) (month day : Nat) : Bool :=
  leastYear ≤ year && year ≤ greatestYear && 1 ≤ month && month ≤ 12 && 1 ≤ day &&
    day ≤ daysInMonth year month

/-- The instant a text denotes. -/
def ofText? (text : String) : Option Instant := do
  let (year, rest) ← year? text.toList
  let rest ← mark? '-' rest
  let (month, rest) ← number? 2 rest
  let rest ← mark? '-' rest
  let (day, rest) ← number? 2 rest
  let rest ← separator? rest
  let (hour, rest) ← number? 2 rest
  let rest ← mark? ':' rest
  let (minute, rest) ← number? 2 rest
  let rest ← mark? ':' rest
  let (second, rest) ← number? 2 rest
  let (nanoseconds, rest) ← fraction? rest
  let (offset, rest) ← offset? rest
  if !(dropBlanks rest).isEmpty then none
  else if !isDate year month day || 23 < hour || 59 < minute || 60 < second then none
  else if 86400 ≤ offset.natAbs then none
  else
    let leap := second = 60
    let local' := ofParts year month day hour minute (if leap then 59 else second)
      (if leap then nanoseconds + 1000000000 else nanoseconds)
    let t : Instant := ⟨local'.seconds - offset, local'.nanoseconds⟩
    let (utcYear, _, _) := dateOfDays (t.seconds.fdiv 86400)
    if leastYear ≤ utcYear ∧ utcYear ≤ greatestYear then some t else none

end Gradebook.Instant
