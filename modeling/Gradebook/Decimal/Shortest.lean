/-
# Gradebook.Decimal.Shortest — the fewest digits that read back

A reader turns a decimal into the nearest double, so every double owns an
interval of decimals: the ones that read back as it. `Numeral.shortest` takes
the coarsest decimal grid with a point in that interval and, on it, the point
nearest to the double. The search looks at the two neighbours of the double on
each grid, which is enough: if a grid has a point in the interval, then so is
one of the two neighbours. An exact tie between them is the caller's choice.

Everything is exact arithmetic on `Nat`; no power of ten is ever rounded.
-/
import Gradebook.Decimal.Binary

namespace Gradebook.Decimal

set_option autoImplicit false

/-- A decimal: `digits · 10 ^ exponent`. -/
structure Numeral where
  digits : Nat
  exponent : Int
  deriving DecidableEq, Repr

/-- Where a value halfway between two decimals goes. -/
inductive Tie where
  | up
  | toEven
  deriving DecidableEq, Repr

/-- A nonnegative quotient, kept as numerator and denominator. -/
structure Ratio where
  numerator : Nat
  denominator : Nat

namespace Ratio

/-- `significand · base ^ exponent`. -/
def scaled (significand base : Nat) (exponent : Int) : Ratio :=
  if 0 ≤ exponent then ⟨significand * base.pow exponent.toNat, 1⟩
  else ⟨significand, base.pow exponent.natAbs⟩

def le (a b : Ratio) : Bool := a.numerator * b.denominator ≤ b.numerator * a.denominator

def lt (a b : Ratio) : Bool := a.numerator * b.denominator < b.numerator * a.denominator

/-- Twice the distance is never needed: this is `|a - b|` over the product of
the denominators. -/
def distance (a b : Ratio) : Ratio :=
  let left := a.numerator * b.denominator
  let right := b.numerator * a.denominator
  ⟨(left - right) + (right - left), a.denominator * b.denominator⟩

/-- The whole part of `a / 10 ^ exponent`. -/
def floorAt (a : Ratio) (exponent : Int) : Nat :=
  if 0 ≤ exponent then a.numerator / (a.denominator * Nat.pow 10 exponent.toNat)
  else a.numerator * Nat.pow 10 exponent.natAbs / a.denominator

end Ratio

namespace Binary

/-- The magnitude of a double. -/
def magnitude (b : Binary) : Ratio := .scaled b.significand 2 b.exponent

/-- The lower end of the interval of decimals that read back as `b`. The gap
below a power of two is half the gap above it, except at the least exponent. -/
def lowerEnd (b : Binary) : Ratio :=
  let gap := if b.significand = Nat.pow 2 52 ∧ b.exponent ≠ -1074 then 1 else 2
  .scaled (4 * b.significand - gap) 2 (b.exponent - 2)

/-- The upper end of that interval. -/
def upperEnd (b : Binary) : Ratio := .scaled (4 * b.significand + 2) 2 (b.exponent - 2)

/-- Whether a decimal reads back as `b`: a tie goes to the even significand, so
the ends belong to `b` exactly when its significand is even. -/
def owns (b : Binary) (n : Numeral) : Bool :=
  let value := Ratio.scaled n.digits 10 n.exponent
  if b.significand % 2 = 0 then b.lowerEnd.le value && value.le b.upperEnd
  else b.lowerEnd.lt value && value.lt b.upperEnd

/-- The exponent of the leading decimal digit, from the number of bits: one of
three neighbouring powers of ten is the largest not above the value. -/
def leadingExponent (b : Binary) : Int :=
  let guess := ((b.significand.log2 : Int) + b.exponent) * 30103 / 100000
  let fits (e : Int) := (Ratio.scaled 1 10 e).le b.magnitude
  if fits (guess + 1) then guess + 1 else if fits guess then guess else guess - 1

/-- The neighbour of `b` on the grid of multiples of `10 ^ exponent` that reads
back as `b`, the nearer one if both do. -/
def onGrid? (tie : Tie) (b : Binary) (exponent : Int) : Option Numeral :=
  let below : Numeral := ⟨b.magnitude.floorAt exponent, exponent⟩
  let above : Numeral := ⟨below.digits + 1, exponent⟩
  let reach (n : Numeral) := b.magnitude.distance (.scaled n.digits 10 n.exponent)
  match b.owns below, b.owns above with
  | true, false => some below
  | false, true => some above
  | false, false => none
  | true, true =>
    if (reach below).lt (reach above) then some below
    else if (reach above).lt (reach below) then some above
    else match tie with
      | .up => some above
      | .toEven => some (if below.digits % 2 = 0 then below else above)

/-- The first hit on the grids `exponent`, `exponent - 1`, …; seventeen digits
always tell two doubles apart, so the last grid needs no test. -/
def search (tie : Tie) (b : Binary) : Nat → Int → Numeral
  | 0, exponent => ⟨b.magnitude.floorAt exponent, exponent⟩
  | grids + 1, exponent => (onGrid? tie b exponent).getD (search tie b grids (exponent - 1))

end Binary

namespace Numeral

/-- The same decimal without trailing zeros; `fuel` bounds their number. -/
def trim : Nat → Numeral → Numeral
  | 0, n => n
  | fuel + 1, n =>
    if n.digits ≠ 0 ∧ n.digits % 10 = 0 then trim fuel ⟨n.digits / 10, n.exponent + 1⟩ else n

/-- The shortest decimal that reads back as a nonzero double, zero as itself. -/
def shortest (tie : Tie) (b : Binary) : Numeral :=
  if b.significand = 0 then ⟨0, 0⟩
  else trim 20 (b.search tie 18 b.leadingExponent)

end Numeral

end Gradebook.Decimal
