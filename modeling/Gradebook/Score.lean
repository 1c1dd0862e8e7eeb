/-
# Gradebook.Score — what a learner earned on a block
-/
import Gradebook.Decimal.Double
import Gradebook.Instant

namespace Gradebook

set_option autoImplicit false

/-- The raw score of one block. -/
structure Score where
  earned : Double
  possible : Double
  attempted : Bool
  recordedAt : Instant
  deriving DecidableEq, Repr

namespace Score

/-- A number moved into the range from zero to one; NaN stays. -/
def clamped (x : Double) : Double :=
  if x.value < 0.0 then .ofFloat 0.0 else if 1.0 < x.value then .ofFloat 1.0 else x

/-- The earned fraction, between zero and one; zero when nothing is possible. -/
def fraction (s : Score) : Double :=
  if s.possible.value ≤ 0.0 then .ofFloat 0.0 else clamped (s.earned.dividedBy s.possible)

end Score

end Gradebook
