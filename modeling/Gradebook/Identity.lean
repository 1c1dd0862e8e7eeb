/-
# Gradebook.Identity — learners, courses and policy fingerprints by name

The identifiers that every other module passes around. They are wrapped so that
a course key is never mistaken for a letter or a fingerprint.
-/

namespace Gradebook

set_option autoImplicit false

/-- The number of a learner. -/
structure LearnerId where
  number : UInt64
  deriving DecidableEq, Repr, Inhabited

namespace LearnerId

def text (id : LearnerId) : String := toString id.number.toNat

end LearnerId

/-- A learner being graded. -/
structure Learner where
  id : LearnerId
  username : String
  deriving DecidableEq, Repr

namespace Learner

/-- The username of a learner known by number only. -/
def defaultUsername (id : LearnerId) : String := "learner-" ++ id.text

def ofId (id : LearnerId) : Learner := ⟨id, defaultUsername id⟩

end Learner

/-- The key of a course, such as `course-v1:Org+Num+Run`. -/
structure CourseKey where
  text : String
  deriving DecidableEq, Repr, Inhabited

/-- The fingerprint of a grading policy, as stored beside a grade. -/
structure PolicyHash where
  text : String
  deriving DecidableEq, Repr, Inhabited

/-- The name of a content block. -/
abbrev BlockId : Type := String

end Gradebook
