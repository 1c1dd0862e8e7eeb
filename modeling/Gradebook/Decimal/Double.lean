/-
# Gradebook.Decimal.Double — a double as its bit pattern

Scores, weights and cutoffs are kept as bit patterns. Arithmetic goes through
`value`; what only the pattern shows — the sign of a NaN — is settled here.

* `orderKey`: an integer key whose order is the total order of doubles, with
  `-0.0` below `0.0` and NaNs at the two ends, by their sign;
* `over`: the quotient, where a NaN operand passes on its pattern and a quotient
  that is not defined is the negative NaN.
-/

namespace Gradebook

set_option autoImplicit false

structure Double where
  bits : UInt64
  deriving DecidableEq, Repr

namespace Double

/-- The pattern of a number; every NaN becomes the positive one. -/
def ofFloat (x : Float) : Double := ⟨x.toBits⟩

def value (x : Double) : Float := Float.ofBits x.bits

def isNaN (x : Double) : Bool := x.value.isNaN

/-- The same pattern with the other sign. -/
def negated (x : Double) : Double := ⟨x.bits ^^^ 0x8000000000000000⟩

/-- The NaN of an operation that has no result. -/
def undefined : Double := ⟨0xfff8000000000000⟩

/-- The quotient of two doubles. -/
def dividedBy (x y : Double) : Double :=
  let quotient := x.value / y.value
  if !quotient.isNaN then ofFloat quotient
  else if x.isNaN then x
  else if y.isNaN then y
  else undefined

/-- Bit patterns in numeric order on the positive side, reversed below it. -/
def orderKeyOfBits (bits : Nat) : Int :=
  if bits < Nat.pow 2 63 then (bits : Int) else -((bits - Nat.pow 2 63 : Nat) : Int) - 1

/-- The key of the total order of doubles. -/
def orderKey (x : Double) : Int := orderKeyOfBits x.bits.toNat

/-- `x` comes no later than `y` in the total order. -/
def atMost (x y : Double) : Bool := decide (orderKey x ≤ orderKey y)

/-- Distinct bit patterns of 64 bits have distinct keys. -/
theorem orderKeyOfBits_inj {a b : Nat} (h : orderKeyOfBits a = orderKeyOfBits b) : a = b := by
  unfold orderKeyOfBits at h
  split at h <;> split at h <;> omega

theorem orderKey_inj {x y : Double} (h : orderKey x = orderKey y) : x = y := by
  cases x
  cases y
  exact congrArg Double.mk (UInt64.toNat_inj.1 (orderKeyOfBits_inj h))

theorem atMost_refl (x : Double) : atMost x x = true := by simp [atMost]

theorem atMost_total (x y : Double) : (atMost x y || atMost y x) = true := by
  simp only [atMost, Bool.or_eq_true, decide_eq_true_eq]
  omega

theorem atMost_trans {x y z : Double} (h : atMost x y = true) (k : atMost y z = true) :
    atMost x z = true := by
  simp only [atMost, decide_eq_true_eq] at *
  omega

end Double

end Gradebook
