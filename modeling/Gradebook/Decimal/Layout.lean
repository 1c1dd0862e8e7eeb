/-
# Gradebook.Decimal.Layout — how doubles are written

Three written forms, each a record of its decisions:

* `plain` — messages and reports: positional at every size, no trailing `.0`;
* `exchange` — stored and exchanged documents: a point or an exponent is always
  there, so that a number read back is again a double; positional from `1e-5`
  up to and including `1e15`;
* `fixed` — tables: a fixed number of places, a half going to the even digit.

`shown` and `exchanged` apply the first two to a double.
-/
import Gradebook.Decimal.Shortest

namespace Gradebook.Decimal

set_option autoImplicit false

/-- The decisions of a written form. Exponents are those of the leading digit. -/
structure Layout where
  /-- The exponents written positionally; outside them an exponent is written. -/
  positional : Int → Bool
  /-- What follows a whole number written positionally. -/
  wholeSuffix : String
  tie : Tie

/-- Positional at every size; a halfway value shows the larger digits. -/
def plain : Layout := ⟨fun _ => true, "", .up⟩

/-- Positional from `1e-5` up to and including `1e15`; `1.0`, `1e+16`, `1.5e-7`. -/
def exchange : Layout := ⟨fun e => decide (-5 ≤ e) && decide (e ≤ 15), ".0", .toEven⟩

/-- The decimal digits of a natural number. -/
def naturalText (n : Nat) : String := String.ofList (Nat.toDigits 10 n)

def zeros (n : Nat) : String := String.ofList (List.replicate n '0')

/-- `n` padded on the left with zeros to `width` digits. -/
def paddedText (width n : Nat) : String :=
  let text := naturalText n
  zeros (width - text.length) ++ text

/-- Digits with a point `places` from the right. -/
def withPoint (places digits : Nat) : String :=
  if places = 0 then naturalText digits
  else
    naturalText (digits / Nat.pow 10 places) ++ "."
      ++ paddedText places (digits % Nat.pow 10 places)

namespace Numeral

/-- The exponent of the leading digit. -/
def leading (n : Numeral) : Int := n.exponent + ((naturalText n.digits).length : Int) - 1

/-- Positional digits. -/
def positionalText (wholeSuffix : String) (n : Numeral) : String :=
  if 0 ≤ n.exponent then naturalText (n.digits * Nat.pow 10 n.exponent.toNat) ++ wholeSuffix
  else withPoint n.exponent.natAbs n.digits

/-- One digit, the others behind a point, and a signed exponent. -/
def scientificText (n : Numeral) : String :=
  let places := (naturalText n.digits).length - 1
  withPoint places n.digits ++ "e" ++ (if n.leading < 0 then "-" else "+") ++
    naturalText n.leading.natAbs

def text (layout : Layout) (n : Numeral) : String :=
  if layout.positional n.leading then n.positionalText layout.wholeSuffix else n.scientificText

end Numeral

def signed (negative : Bool) (text : String) : String := if negative then "-" ++ text else text

/-- A finite double in a layout; zeros keep their sign. -/
def finiteText (layout : Layout) (b : Binary) : String :=
  signed b.negative ((Numeral.shortest layout.tie b).text layout)

/-- The plain form, with `NaN`, `inf` and `-inf`. -/
def shown (x : Float) : String :=
  match kind x with
  | .finite b => finiteText plain b
  | .infinite negative => signed negative "inf"
  | .nan => "NaN"

/-- The exchange form; a document has no number for NaN and the infinities. -/
def exchanged? (x : Float) : Option String :=
  match kind x with
  | .finite b => some (finiteText exchange b)
  | _ => none

/-- A quotient rounded to the nearest natural number, a half to the even one. -/
def roundHalfEven (numerator denominator : Nat) : Nat :=
  let whole := numerator / denominator
  let twice := 2 * (numerator % denominator)
  if twice < denominator then whole
  else if denominator < twice then whole + 1
  else if whole % 2 = 0 then whole else whole + 1

/-- A fixed number of places, rounded from the exact value of the double. -/
def fixed (places : Nat) (x : Float) : String :=
  match kind x with
  | .finite b =>
    let value := b.magnitude
    signed b.negative
      (withPoint places (roundHalfEven (value.numerator * Nat.pow 10 places) value.denominator))
  | .infinite negative => signed negative "inf"
  | .nan => "NaN"

end Gradebook.Decimal
