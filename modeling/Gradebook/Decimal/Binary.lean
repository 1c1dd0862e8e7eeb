/-
# Gradebook.Decimal.Binary — a double as an exact integer times a power of two

Everything that reads the digits or the nearest integer of a double does so
through `Binary`: a sign, a natural significand and a binary exponent. All
arithmetic below is on `Nat` and `Int`, so statements about printed grades never
depend on the floating-point unit. `nearestInteger` is the nearest integral
double, a half going away from zero.
-/

namespace Gradebook.Decimal

set_option autoImplicit false

/-- A finite double: `± significand · 2 ^ exponent`. -/
structure Binary where
  negative : Bool
  significand : Nat
  exponent : Int
  deriving DecidableEq, Repr

/-- What a double stands for. -/
inductive Kind where
  | finite (value : Binary)
  | infinite (negative : Bool)
  | nan
  deriving DecidableEq, Repr

/-- The sign bit, the eleven exponent bits and the fraction of a bit pattern. -/
def fieldsOfBits (bits : Nat) : Bool × Nat × Nat :=
  (bits / Nat.pow 2 63 % 2 == 1, bits / Nat.pow 2 52 % Nat.pow 2 11, bits % Nat.pow 2 52)

/-- The value of a bit pattern; a zero exponent field drops the implicit bit. -/
def kindOfBits (bits : Nat) : Kind :=
  match fieldsOfBits bits with
  | (negative, field, fraction) =>
    if field = 2047 then
      if fraction = 0 then .infinite negative else .nan
    else if field = 0 then .finite ⟨negative, fraction, -1074⟩
    else .finite ⟨negative, fraction + Nat.pow 2 52, (field : Int) - 1075⟩

/-- The value of a double. -/
def kind (x : Float) : Kind := kindOfBits x.toBits.toNat

/-- A positive or negative quotient rounded to the nearest natural number, a
half going up. -/
def roundHalfUp (numerator denominator : Nat) : Nat :=
  (2 * numerator + denominator) / (2 * denominator)

/-- The nearest integral double; a half goes away from zero and the sign of a
zero result is the sign of `x`. Doubles of 2 ^ 52 and more are integral. -/
def nearestInteger (x : Float) : Float :=
  match kind x with
  | .finite ⟨negative, significand, exponent⟩ =>
    if 0 ≤ exponent then x
    else
      let magnitude := Float.ofNat (roundHalfUp significand (Nat.pow 2 exponent.natAbs))
      if negative then -magnitude else magnitude
  | _ => x

end Gradebook.Decimal
