/-
# Gradebook.Catalog — course definitions in a directory of TOML files

Opening reads every course file below the directory and notes which file defines
which course; of two files for one course the later one in the walk counts. A
definition is read again from its file whenever it is loaded.
-/
import Gradebook.Document.Grades
import Gradebook.Error
import Gradebook.Files
import Gradebook.Toml

namespace Gradebook

set_option autoImplicit false

namespace CourseDefinition

/-- The definition that a course file holds. -/
def ofToml? (text : String) : Except String CourseDefinition :=
  match Toml.read? text with
  | none => .error "malformed document"
  | some entries => (ofTree .courseFile (.table entries)).mapError (·.reason)

/-- The definition in a file, its policy checked. -/
def inFile (files : Files) (path : String) : Except ContentError CourseDefinition :=
  match files.readText path with
  | .error reason => .error (.unreadableFile path reason)
  | .ok text => match ofToml? text with
    | .error reason => .error (.malformedFile path reason)
    | .ok d => match d.gradingPolicy.validate with
      | .error cause => .error (.invalidPolicy path cause)
      | .ok () => .ok d

/-- The policy of a definition in a file has been checked. -/
theorem valid_of_inFile {files : Files} {path : String} {d : CourseDefinition}
    (h : inFile files path = .ok d) : d.gradingPolicy.validate = .ok () := by
  unfold inFile at h
  split at h
  · cases h
  · split at h
    · cases h
    · split at h
      · cases h
      · next valid =>
        cases h
        exact valid

end CourseDefinition

/-- Which file defines which course. -/
structure Catalog where
  root : String
  index : Assoc CourseKey String

namespace Catalog

def isCourseFile (path : String) : Bool := Path.extension? path = some "toml"

/-- Index the files of a walk, in its order, given how a definition is read. -/
def indexed (read : String → Except ContentError CourseDefinition) :
    Assoc CourseKey String → List String → Except ContentError (Assoc CourseKey String)
  | index, [] => .ok index
  | index, path :: rest => match read path with
    | .error e => .error e
    | .ok d => indexed read (Assoc.put d.key path index) rest

/-- The catalog of a directory. A directory that is not there has no courses. -/
def openAt (files : Files) (root : String) : Except ContentError Catalog :=
  (indexed (CourseDefinition.inFile files) [] ((files.walk root).filter isCourseFile)).map
    fun index => ⟨root, index⟩

/-- The courses of the catalog in ascending order. -/
def courseKeys (c : Catalog) : List CourseKey :=
  (Assoc.keys c.index).mergeSort fun a b => decide (a.text ≤ b.text)

/-- The definition of a course as its file has it now. -/
def definition (c : Catalog) (files : Files) (key : CourseKey) :
    Except ContentError CourseDefinition :=
  match Assoc.find? key c.index with
  | none => .error (.unknownUnder key c.root)
  | some path => CourseDefinition.inFile files path

/-- What is served is what the indexed file defines now. -/
theorem definition_ok {c : Catalog} {files : Files} {key : CourseKey} {d : CourseDefinition} :
    c.definition files key = .ok d ↔
      ∃ path, Assoc.find? key c.index = some path ∧ CourseDefinition.inFile files path = .ok d := by
  unfold definition
  constructor
  · intro defined
    cases found : Assoc.find? key c.index with
    | none =>
      rw [found] at defined
      cases defined
    | some path =>
      rw [found] at defined
      exact ⟨path, rfl, defined⟩
  · rintro ⟨path, found, reads⟩
    rw [found]
    exact reads

end Catalog

end Gradebook
