/-
# Gradebook.Flags — which courses keep grades, and which assume zero
-/
import Gradebook.Identity
import Gradebook.Error
import Gradebook.Text.Blank

namespace Gradebook

set_option autoImplicit false

/-- The switches a resolution consults, per course or for all courses. -/
structure GradeFlags where
  persistentGradesEnabled : Bool := true
  /-- Keep grades for every course, not only for those listed. -/
  enabledForAllCourses : Bool := true
  persistentGradesCourses : List String := []
  assumeZeroIfAbsent : Bool := false
  assumeZeroCourses : List String := []
  /-- Keep grades only for learners who attempted graded work. -/
  writeOnlyIfEngaged : Bool := false
  deriving DecidableEq, Repr

namespace GradeFlags

/-- An absent grade is a zero grade and is not computed. -/
def assumesZero (f : GradeFlags) (key : CourseKey) : Bool :=
  f.assumeZeroIfAbsent || f.assumeZeroCourses.contains key.text

/-- Grades of the course are read from the store and written to it. -/
def persists (f : GradeFlags) (key : CourseKey) : Bool :=
  f.persistentGradesEnabled &&
    (f.enabledForAllCourses || f.persistentGradesCourses.contains key.text)

/-- A listed course must have a key. -/
def fault? (f : GradeFlags) : Option SettingsFault :=
  if (f.persistentGradesCourses ++ f.assumeZeroCourses).any Text.isAllBlank then
    some .emptyCourseKey
  else none

end GradeFlags

end Gradebook
