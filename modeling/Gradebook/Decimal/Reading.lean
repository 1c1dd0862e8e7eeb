/-
# Gradebook.Decimal.Reading — from digits to doubles

Two readings of `digits · 10 ^ exponent`:

* `nearest`: the double nearest to the decimal, for course files, settings and
  the command line;
* `scaled?`: the quick reading used for stored documents. It turns the digits
  into a double, then multiplies or divides once by a power of ten; the result
  can be one step away from the nearest double, and a number too large for a
  double is refused instead of becoming infinite.

`ofText?` reads the whole-text notation of the command line: an optional sign,
digits with an optional point and exponent, or `inf`, `infinity`, `nan`.
-/
import Gradebook.Decimal.Double
import Gradebook.Decimal.Layout

namespace Gradebook.Decimal

set_option autoImplicit false

def infinity : Float := Float.ofBits 0x7ff0000000000000

def notANumber : Float := Float.ofBits 0x7ff8000000000000

/-- The double nearest to `digits · 10 ^ exponent`. A decimal of 10 ^ 310 and more is
infinite and one below 10 ^ -330 is zero, whatever its digits. -/
def nearest (digits : Nat) (exponent : Int) : Float :=
  if digits = 0 then 0.0
  else
    let leading := (⟨digits, exponent⟩ : Numeral).leading
    if 310 ≤ leading then infinity
    else if leading ≤ -330 then 0.0
    else Float.ofScientific (if 0 ≤ exponent then digits * Nat.pow 10 exponent.toNat else digits)
      true (if 0 ≤ exponent then 0 else exponent.natAbs)

/-- `10 ^ n` as the nearest double. -/
def powerOfTen (n : Nat) : Float := nearest 1 n

/-- Multiply or divide by a power of ten, in steps of at most `10 ^ 308`.
Refused when the product is infinite. -/
def scaleBy? (x : Float) (exponent : Int) : Option Float :=
  if exponent.natAbs ≤ 308 then
    if 0 ≤ exponent then
      let product := x * powerOfTen exponent.natAbs
      if product.isInf then none else some product
    else some (x / powerOfTen exponent.natAbs)
  else if x == 0.0 then some x
  else if 0 ≤ exponent then none
  else scaleBy? (x / powerOfTen 308) (exponent + 308)
termination_by exponent.natAbs
decreasing_by omega

/-- The quick reading of `± digits · 10 ^ exponent`. -/
def scaled? (negative : Bool) (digits : Nat) (exponent : Int) : Option Float :=
  (scaleBy? (Float.ofNat digits) exponent).map fun x => if negative then -x else x

/-- The leading ASCII digits of a text, and the rest. -/
def digitRun (text : List Char) : List Char × List Char :=
  (text.takeWhile Char.isDigit, text.dropWhile Char.isDigit)

def digitValue (c : Char) : Nat := c.toNat - '0'.toNat

/-- The number written by decimal digits. -/
def numberOf (digits : List Char) : Nat := digits.foldl (fun n c => 10 * n + digitValue c) 0

/-- An optional sign and the rest; `true` for a minus. -/
def signOf : List Char → Bool × List Char
  | '-' :: rest => (true, rest)
  | '+' :: rest => (false, rest)
  | text => (false, text)

/-- An exponent part, which must have digits; no part at all is the exponent zero. -/
def exponentOf? : List Char → Option Int
  | [] => some 0
  | mark :: rest =>
    if mark = 'e' ∨ mark = 'E' then
      let (negative, rest) := signOf rest
      let (digits, rest) := digitRun rest
      if digits.isEmpty || !rest.isEmpty then none
      else some (if negative then -(numberOf digits : Int) else numberOf digits)
    else none

/-- Digits with an optional point and exponent; a digit must stand on one side
of the point. -/
def magnitudeOf? (text : List Char) : Option Float :=
  let (whole, rest) := digitRun text
  let (fraction, rest) := match rest with
    | '.' :: rest => digitRun rest
    | rest => ([], rest)
  if whole.isEmpty && fraction.isEmpty then none
  else (exponentOf? rest).map fun exponent =>
    nearest (numberOf (whole ++ fraction)) (exponent - fraction.length)

/-- The double a text denotes, with the sign it is written with. -/
def doubleOfText? (text : String) : Option Double :=
  let (negative, rest) := signOf text.toList
  let word := String.ofList (rest.map Char.toLower)
  let magnitude :=
    if word = "inf" ∨ word = "infinity" then some infinity
    else if word = "nan" then some notANumber
    else magnitudeOf? rest
  magnitude.map fun x => if negative then (Double.ofFloat x).negated else .ofFloat x

/-- The number a text denotes. -/
def ofText? (text : String) : Option Float := (doubleOfText? text).map (·.value)

/-- The natural number below `limit` that a text denotes: digits after an optional plus. -/
def naturalBelow? (limit : Nat) (text : String) : Option Nat :=
  let digits := match text.toList with
    | '+' :: rest => rest
    | rest => rest
  if digits.isEmpty || !digits.all Char.isDigit then none
  else
    let n := numberOf digits
    if n < limit then some n else none

/-- The 64-bit signed integer a text denotes. -/
def integer? (text : String) : Option Int :=
  let (negative, digits) := signOf text.toList
  if digits.isEmpty || !digits.all Char.isDigit then none
  else
    let n := numberOf digits
    if negative then if n ≤ Nat.pow 2 63 then some (-(n : Int)) else none
    else if n < Nat.pow 2 63 then some n else none

end Gradebook.Decimal
