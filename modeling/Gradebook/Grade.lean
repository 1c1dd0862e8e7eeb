/-
# Gradebook.Grade — computed, stored and resolved grades

A calculation yields a `GradeBreakdown`. The row kept for a learner in a course is
a `StoredGrade`, stamped with the fingerprint and version it was computed under.
A `ResolvedGrade` is what a resolution answers, and says where it comes from.
-/
import Gradebook.Identity
import Gradebook.Instant
import Gradebook.Decimal.Layout

namespace Gradebook

set_option autoImplicit false

/-- What one assignment type contributed. -/
structure SectionSummary where
  kind : String
  weight : Float
  /-- The average fraction after padding and drops. -/
  average : Float
  counted : Nat
  dropped : Nat
  deriving BEq, Repr

/-- The outcome of a calculation. -/
structure GradeBreakdown where
  percent : Float
  letterGrade : Option String
  passed : Bool
  attempted : Bool
  sections : List SectionSummary
  deriving BEq, Repr

/-- Where a resolved grade comes from. -/
inductive GradeSource where
  /-- From the store. -/
  | stored
  /-- Nothing is on record and the course assumes zero. -/
  | zero
  | computed (persisted : Bool)
  deriving DecidableEq, Repr

inductive PassStatus where
  | passed
  | notPassed
  | notAttempted
  deriving DecidableEq, Repr

namespace PassStatus

def text : PassStatus → String
  | .passed => "passed"
  | .notPassed => "not passed"
  | .notAttempted => "not attempted"

end PassStatus

/-- The row kept for a learner in a course. `passedAt` is there exactly when the
grade is passing; an empty letter means that none was reached. -/
structure StoredGrade where
  learner : LearnerId
  courseKey : CourseKey
  contentVersion : Option String
  contentEditedAt : Option Instant
  policyHash : PolicyHash
  percent : Float
  letterGrade : String
  passedAt : Option Instant
  attempted : Bool
  createdAt : Instant
  modifiedAt : Instant
  deriving BEq, Repr

def boolText (b : Bool) : String := if b then "true" else "false"

namespace StoredGrade

def passed (row : StoredGrade) : Bool := row.passedAt.isSome

/-- The row as log lines show it. -/
def text (row : StoredGrade) : String :=
  "StoredGrade(percent: " ++ Decimal.shown row.percent ++ ", letter_grade: " ++ row.letterGrade ++
    ", passed: " ++ boolText row.passed ++ ", grading_policy: " ++ row.policyHash.text ++ ")"

end StoredGrade

/-- A grade as a resolution answers it. -/
structure ResolvedGrade where
  learner : LearnerId
  courseKey : CourseKey
  percent : Float
  letterGrade : Option String
  passed : Bool
  attempted : Bool
  sections : List SectionSummary
  source : GradeSource
  deriving BEq, Repr

namespace ResolvedGrade

/-- Nothing earned, nothing attempted. -/
def zero (learner : LearnerId) (key : CourseKey) : ResolvedGrade :=
  ⟨learner, key, 0.0, none, false, false, [], .zero⟩

def ofBreakdown (learner : LearnerId) (key : CourseKey) (b : GradeBreakdown)
    (persisted : Bool) : ResolvedGrade :=
  ⟨learner, key, b.percent, b.letterGrade, b.passed, b.attempted, b.sections, .computed persisted⟩

def ofStored (row : StoredGrade) : ResolvedGrade :=
  ⟨row.learner, row.courseKey, row.percent,
    if row.letterGrade.isEmpty then none else some row.letterGrade,
    row.passed, row.attempted, [], .stored⟩

def passStatus (g : ResolvedGrade) : PassStatus :=
  if g.passed then .passed else if g.attempted then .notPassed else .notAttempted

theorem passStatus_congr {g h : ResolvedGrade} (passed : g.passed = h.passed)
    (attempted : g.attempted = h.attempted) : g.passStatus = h.passStatus := by
  rw [passStatus, passStatus, passed, attempted]

def isZero (g : ResolvedGrade) : Bool := g.source = .zero

/-- The grade as log lines show it. -/
def text (g : ResolvedGrade) : String :=
  "percent: " ++ Decimal.shown g.percent ++ ", letter_grade: " ++ g.letterGrade.getD "" ++
    ", passed: " ++ boolText g.passed ++ ", attempted: " ++ boolText g.attempted

end ResolvedGrade

end Gradebook
