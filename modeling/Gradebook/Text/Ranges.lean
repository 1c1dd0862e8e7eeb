/-
# Gradebook.Text.Ranges — character properties as ranges of codes

The tables below this module list the codes of a Unicode 17 property as closed
ranges in ascending order. `isIn` looks a character up.
-/

namespace Gradebook.Text.Ranges

set_option autoImplicit false

def isIn (ranges : List (Nat × Nat)) (c : Char) : Bool :=
  ranges.any fun r => r.1 ≤ c.toNat && c.toNat ≤ r.2

end Gradebook.Text.Ranges
