/-
# Gradebook.Course — courses, their blocks and their graded work

A definition is what an author writes. It is seen in two ways: as a `Course`, the
descriptor that knows the end of the course, and as a `ContentStructure`, the
blocks that can carry scores. `gradedBlocksByFormat` is the derived data of a
structure: its graded blocks by assignment format, each group in structure order.
-/
import Gradebook.Identity
import Gradebook.Instant
import Gradebook.Policy

namespace Gradebook

set_option autoImplicit false

/-- A course as announced. -/
structure Course where
  key : CourseKey
  displayName : String
  /-- The end of the course, forwarded to listeners as the deadline. -/
  ends : Option Instant
  version : Option String
  editedOn : Option Instant
  gradingPolicy : GradingPolicy
  deriving BEq, Repr

/-- A block of the course that may carry a score. -/
structure GradedBlock where
  id : BlockId
  displayName : String
  /-- The assignment type the block counts toward. -/
  format : Option String
  graded : Bool
  deriving DecidableEq, Repr

/-- A snapshot of the content of a course, as collected for grading. -/
structure ContentStructure where
  courseKey : CourseKey
  version : Option String
  editedOn : Option Instant
  gradingPolicy : GradingPolicy
  blocks : List GradedBlock
  deriving BEq, Repr

/-- A course with its content, as authored. -/
structure CourseDefinition where
  key : CourseKey
  displayName : String
  ends : Option Instant
  version : Option String
  editedOn : Option Instant
  gradingPolicy : GradingPolicy
  blocks : List GradedBlock
  deriving BEq, Repr

namespace CourseDefinition

def course (d : CourseDefinition) : Course :=
  ⟨d.key, d.displayName, d.ends, d.version, d.editedOn, d.gradingPolicy⟩

def content (d : CourseDefinition) : ContentStructure :=
  ⟨d.key, d.version, d.editedOn, d.gradingPolicy, d.blocks⟩

end CourseDefinition

/-- Block names by assignment format. -/
abbrev GradedBlocks : Type := Dictionary (List BlockId)

namespace GradedBlock

/-- Add a block at the end of the group of its format, if it is graded and has one. -/
def addTo (groups : GradedBlocks) (b : GradedBlock) : GradedBlocks :=
  match b.graded, b.format with
  | true, some format => groups.insert format ((groups.find? format).getD [] ++ [b.id])
  | _, _ => groups

end GradedBlock

namespace ContentStructure

/-- The graded blocks by format, each group in structure order. -/
def gradedBlocksByFormat (s : ContentStructure) : GradedBlocks :=
  s.blocks.foldl GradedBlock.addTo ∅

end ContentStructure

end Gradebook
