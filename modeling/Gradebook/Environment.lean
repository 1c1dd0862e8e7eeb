/-
# Gradebook.Environment — named texts from outside
-/

namespace Gradebook

set_option autoImplicit false

/-- Variables and their values. -/
abbrev Environment : Type := List (String × String)

namespace Environment

def find? (env : Environment) (name : String) : Option String := env.lookup name

end Environment

end Gradebook
