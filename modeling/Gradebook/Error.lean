/-
# Gradebook.Error — what can go wrong, and how it is said

Errors are causes. The wording of each cause is in one `message` function, so a
statement about an error never mentions its text. A `Failure` is either an error
that an operation reports or the crash of a component it called.
-/
import Gradebook.Identity
import Gradebook.Policy

namespace Gradebook

set_option autoImplicit false

namespace PolicyError

def message : PolicyError → String
  | .emptyType => "Assignment type cannot be empty"
  | .weightOutside kind weight =>
    "Assignment type '" ++ kind ++ "' has weight " ++ Decimal.shown weight ++ " outside 0..=1"
  | .countsExceed kind =>
    "Assignment type '" ++ kind ++ "' counts exceed " ++
      Decimal.naturalText GradingPolicy.maxAssignments.toNat
  | .weightsAbove total => "Assignment weights sum to " ++ Decimal.shown total ++ ", above 1"
  | .cutoffOutside letter cutoff =>
    "Cutoff for '" ++ letter ++ "' is " ++ Decimal.shown cutoff ++ " outside 0..=1"

end PolicyError

/-- What a store reports. -/
inductive StorageError where
  /-- Files cannot be read or written. -/
  | files (text : String)
  /-- A value cannot be written or read, in the store's words. -/
  | encoding (text : String)
  /-- A stored value does not read back as what it should be. -/
  | undecodable (reason : String)
  | backend (text : String)
  deriving DecidableEq

namespace StorageError

def message : StorageError → String
  | .files text => "Storage I/O error: " ++ text
  | .encoding text => "Serialization error: " ++ text
  | .undecodable reason => "Serialization error: " ++ reason
  | .backend text => "Storage backend error: " ++ text

/-- What lies behind the error. -/
def causes : StorageError → List String
  | .files text => [text]
  | _ => []

end StorageError

/-- What a component leaves behind when it crashes: a text or something else. -/
inductive Crash where
  | text (s : String)
  | other
  deriving DecidableEq

namespace Crash

def message : Crash → String
  | .text s => s
  | .other => "unknown panic"

end Crash

/-- Why the inputs do not establish a course. -/
inductive InputError where
  | noCourse
  | conflictingKeys (first other : CourseKey)
  | reported (text : String)

namespace InputError

def message : InputError → String
  | .noCourse => "One of course, content structure, or course key must be provided"
  | .conflictingKeys first other =>
    "Conflicting course keys supplied: " ++ first.text ++ " and " ++ other.text
  | .reported text => text

end InputError

/-- Why a grade could not be computed. -/
inductive CalculationError where
  | invalidPolicy (cause : PolicyError)
  | scoresUnavailable (cause : StorageError)
  | crashed (crash : Crash)
  | reported (text : String)

namespace CalculationError

def message : CalculationError → String
  | .invalidPolicy cause => "Invalid grading policy: " ++ cause.message
  | .scoresUnavailable cause => "Failed to read scores: " ++ cause.message
  | .crashed crash => "grading panicked: " ++ crash.message
  | .reported text => text

end CalculationError

/-- Why course content could not be loaded. -/
inductive ContentError where
  | unknownCourse (key : CourseKey)
  | unknownUnder (key : CourseKey) (root : String)
  | unreadableFile (path reason : String)
  | malformedFile (path reason : String)
  | invalidPolicy (path : String) (cause : PolicyError)
  | reported (text : String)

namespace ContentError

def message : ContentError → String
  | .unknownCourse key => "Course " ++ key.text ++ " not found"
  | .unknownUnder key root => "Course " ++ key.text ++ " not found under " ++ root
  | .unreadableFile path reason => "Failed to read " ++ path ++ ": " ++ reason
  | .malformedFile path reason => "Invalid course file " ++ path ++ ": " ++ reason
  | .invalidPolicy path cause => "Invalid grading policy in " ++ path ++ ": " ++ cause.message
  | .reported text => text

end ContentError

/-- A value that the settings may not have. -/
inductive SettingsFault where
  | emptyStorePath
  | emptyCoursesPath
  | emptyCourseKey
  | logFormat (format : String)
  | logOutput (output : String)
  deriving DecidableEq, Repr

namespace SettingsFault

/-- The section of the settings the value stands in. -/
def part : SettingsFault → String
  | .emptyStorePath => "Storage"
  | .emptyCoursesPath => "Storage"
  | .emptyCourseKey => "Grades"
  | .logFormat _ => "Logging"
  | .logOutput _ => "Logging"

def text : SettingsFault → String
  | .emptyStorePath => "Store path cannot be empty"
  | .emptyCoursesPath => "Courses path cannot be empty"
  | .emptyCourseKey => "Course lists cannot contain empty course keys"
  | .logFormat format => "Invalid log format: " ++ format ++ " (must be 'json' or 'text')"
  | .logOutput output =>
    "Invalid log output: " ++ output ++ " (must be 'stdout', 'stderr', or 'file')"

def message (f : SettingsFault) : String := f.part ++ ": " ++ f.text

end SettingsFault

/-- Why settings or arguments are refused. -/
inductive SettingsError where
  | fileNotFound (path : String)
  | unreadable (reason : String)
  | invalid (faults : List SettingsFault)
  | logging (fault : SettingsFault)
  | logDirective (reason : String)
  | logDirectiveFromEnvironment (reason : String)
  | logDirectory (reason : String)
  | logFile (path reason : String)
  | store (path reason : String)
  | negativeScore
  /-- A reader of settings crashed. -/
  | crashed (crash : Crash)
  | reported (text : String)

namespace SettingsError

def message : SettingsError → String
  | .fileNotFound path => "Config file not found: " ++ path
  | .unreadable reason => reason
  | .invalid faults =>
    "Configuration validation failed:\n" ++ "\n".intercalate (faults.map SettingsFault.message)
  | .logging fault => fault.text
  | .logDirective reason => "Invalid log directive: " ++ reason
  | .logDirectiveFromEnvironment reason => "Invalid log directive from env: " ++ reason
  | .logDirectory reason => "Failed to create log directory: " ++ reason
  | .logFile path reason => "Failed to open log file " ++ path ++ ": " ++ reason
  | .store path reason => "Failed to open store at " ++ path ++ ": " ++ reason
  | .negativeScore => "Scores cannot be negative"
  | .crashed crash => crash.message
  | .reported text => text

end SettingsError

/-- What an operation on grades reports. -/
inductive GradeError where
  | configuration (cause : InputError)
  | notFound (learner : LearnerId) (key : CourseKey)
  | calculation (cause : CalculationError)
  | content (cause : ContentError)
  | storage (cause : StorageError)
  | settings (cause : SettingsError)

namespace GradeError

def message : GradeError → String
  | .configuration cause => "Configuration error: " ++ cause.message
  | .notFound learner key =>
    "No stored grade for learner " ++ learner.text ++ " in course " ++ key.text
  | .calculation cause => "Grade calculation failed: " ++ cause.message
  | .content cause => "Course content error: " ++ cause.message
  | .storage cause => "Storage error: " ++ cause.message
  | .settings cause => "Settings error: " ++ cause.message

/-- What lies behind the error, one cause after the other. -/
def causes : GradeError → List String
  | .storage cause => cause.message :: cause.causes
  | _ => []

/-- The error with all its causes. -/
def fullMessage (e : GradeError) : String := ": ".intercalate (e.message :: e.causes)

def isNotFound : GradeError → Bool
  | .notFound _ _ => true
  | _ => false

end GradeError

/-- How an operation ends without an answer. -/
inductive Failure where
  | error (e : GradeError)
  | crash (c : Crash)

namespace Failure

/-- A crash contained: it becomes an error of the calculation. -/
def contained : Failure → GradeError
  | .error e => e
  | .crash c => .calculation (.crashed c)

end Failure

end Gradebook
