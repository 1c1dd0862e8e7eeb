/-
# Gradebook.Settings — where things are, which grades are kept, what is logged

Three sections, each with defaults for all it holds. `faults` lists what is wrong
with the values, at most one fault per section, in the order of the sections.
-/
import Gradebook.Dictionary
import Gradebook.Files.Path
import Gradebook.Flags

namespace Gradebook

set_option autoImplicit false

/-- Where rows and scores are stored, and where course files are. -/
structure StorageSettings where
  storePath : String := ".coursegrade/store"
  coursesPath : String := "courses"
  deriving DecidableEq, Repr

namespace StorageSettings

def fault? (s : StorageSettings) : Option SettingsFault :=
  if s.storePath.isEmpty then some .emptyStorePath
  else if s.coursesPath.isEmpty then some .emptyCoursesPath
  else none

/-- The store of a workspace. -/
def storeIn (s : StorageSettings) (workspace : String) : String := Path.join workspace s.storePath

/-- The course directory of a workspace. -/
def coursesIn (s : StorageSettings) (workspace : String) : String :=
  Path.join workspace s.coursesPath

end StorageSettings

inductive LogFormat where
  | text
  | json
  deriving DecidableEq, Repr

namespace LogFormat

def ofName (name : String) : Except SettingsFault LogFormat :=
  if name = "text" then .ok .text
  else if name = "json" then .ok .json
  else .error (.logFormat name)

end LogFormat

inductive LogOutput where
  | stdout
  | stderr
  | file
  deriving DecidableEq, Repr

namespace LogOutput

def ofName (name : String) : Except SettingsFault LogOutput :=
  if name = "stdout" then .ok .stdout
  else if name = "stderr" then .ok .stderr
  else if name = "file" then .ok .file
  else .error (.logOutput name)

end LogOutput

/-- What is logged, how and where. -/
structure LogSettings where
  enabled : Bool := true
  level : String := "info"
  format : String := "text"
  output : String := "stderr"
  /-- The file to log to when the output is a file. -/
  file : String := ".coursegrade/coursegrade.log"
  color : Bool := true
  /-- Levels of single modules. -/
  modules : Dictionary String := ∅
  deriving DecidableEq, Repr

namespace LogSettings

def fault? (s : LogSettings) : Option SettingsFault :=
  match LogFormat.ofName s.format, LogOutput.ofName s.output with
  | .error f, _ => some f
  | .ok _, .error f => some f
  | .ok _, .ok _ => none

end LogSettings

structure Settings where
  storage : StorageSettings := {}
  grades : GradeFlags := {}
  logging : LogSettings := {}
  deriving DecidableEq, Repr

namespace Settings

/-- What is wrong, section by section. -/
def faults (s : Settings) : List SettingsFault :=
  s.storage.fault?.toList ++ s.grades.fault?.toList ++ s.logging.fault?.toList

end Settings

end Gradebook
