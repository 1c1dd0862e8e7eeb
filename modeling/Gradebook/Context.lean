/-
# Gradebook.Context — one course, looked up step by step

A resolution starts from whatever its caller has: a course, a content structure or
a bare key. Everything else is loaded the first time it is needed and then kept,
so that one `Context` is one snapshot. A failed load leaves the context as it was
and is tried again by whoever needs it next.

A `Lookup` is a dialogue that reads and fills a context; it may end in a failure,
and keeps what it had loaded by then.
-/
import Gradebook.Dialogue
import Gradebook.Policy.Fingerprint
import Gradebook.Text.Quoted

namespace Gradebook

set_option autoImplicit false

/-- What a caller knows about the course. -/
structure CourseInputs where
  course : Option Course := none
  content : Option ContentStructure := none
  key : Option CourseKey := none

namespace CourseInputs

def ofKey (key : CourseKey) : CourseInputs := { key := some key }

def isEmpty (i : CourseInputs) : Bool := i.course.isNone && i.content.isNone && i.key.isNone

/-- The keys the inputs name: of the course, of the structure, the bare one. -/
def keys (i : CourseInputs) : List CourseKey :=
  (i.course.map (·.key)).toList ++ (i.content.map (·.courseKey)).toList ++ i.key.toList

/-- The one key that all inputs agree on. -/
def agreedKey (i : CourseInputs) : Except InputError CourseKey :=
  match i.keys with
  | [] => .error .noCourse
  | key :: others => match others.find? (· ≠ key) with
    | some other => .error (.conflictingKeys key other)
    | none => .ok key

end CourseInputs

/-- A course being graded, with all that was supplied or loaded so far. -/
structure Context where
  learner : Option LearnerId
  key : CourseKey
  course? : Option Course
  content? : Option ContentStructure
  hash? : Option PolicyHash

namespace Context

/-- The context of agreeing inputs. Nothing is loaded. -/
def ofInputs (learner : Option LearnerId) (i : CourseInputs) : Except GradeError Context :=
  match i.agreedKey with
  | .ok key => .ok ⟨learner, key, i.course, i.content, none⟩
  | .error cause => .error (.configuration cause)

/-- The same snapshot for another learner. -/
def forLearner (c : Context) (learner : LearnerId) : Context := { c with learner := some learner }

/-- The context as log lines show it. -/
def text (c : Context) : String := "Course: course_key: " ++ c.key.text

/-- What the context is about and what it has at hand, for diagnosis. -/
def debugText (c : Context) : String :=
  let learner := match c.learner with
    | some id => "Some(LearnerId(" ++ id.text ++ "))"
    | none => "None"
  "CourseContext \x7b learner: " ++ learner ++
    ", course_key: CourseKey(" ++ Text.quoted c.key.text ++
    "), course_loaded: " ++ boolText c.course?.isSome ++
    ", structure_loaded: " ++ boolText c.content?.isSome ++ " \x7d"

end Context

/-- An operation on a context, in dialogue with the surroundings. -/
abbrev Lookup (α : Type) : Type := ExceptT Failure (StateT Context Dialogue) α

namespace Lookup

variable {α : Type}

/-- The dialogue of a lookup from a context. -/
def dialogue (l : Lookup α) (c : Context) : Dialogue (Except Failure α × Context) :=
  StateT.run (ExceptT.run l) c

def ask (r : Request) : Lookup r.Reply := ExceptT.lift (StateT.lift (Dialogue.request r))

def fail (e : GradeError) : Lookup α := throw (.error e)

def crash (c : Crash) : Lookup α := throw (.crash c)

def log (level : LogLevel) (origin : LogOrigin) (message : String)
    (fields : List (String × String) := []) : Lookup Unit :=
  ask (.log ⟨level, origin, message, fields⟩)

def loaded : Except Failure α → Lookup α
  | .ok a => pure a
  | .error f => throw f

/-- An error becomes a value. A crash does not. -/
def attempt (l : Lookup α) : Lookup (Except GradeError α) :=
  tryCatch (Except.ok <$> l) fun
    | .error e => pure (.error e)
    | .crash c => crash c

/-- An error becomes nothing. -/
def attempt? (l : Lookup α) : Lookup (Option α) := Except.toOption <$> attempt l

end Lookup

namespace Context

open Lookup

def keyField (c : Context) : String × String := ("course_key", c.key.text)

/-- The descriptor, loaded on first use. -/
def course : Lookup Course := do
  let c ← get
  match c.course? with
  | some course => pure course
  | none =>
    log .debug .context "Loading course descriptor" [c.keyField]
    let course ← loaded (← ask (.loadCourse c.key))
    modify fun c => { c with course? := some course }
    pure course

/-- The content structure, loaded on first use. -/
def content : Lookup ContentStructure := do
  let c ← get
  match c.content? with
  | some content => pure content
  | none =>
    log .debug .context "Loading content structure" [c.keyField]
    let content ← loaded (← ask (.loadContent c.key))
    modify fun c => { c with content? := some content }
    pure content

def gradingPolicy : Lookup GradingPolicy := (·.gradingPolicy) <$> content

/-- The fingerprint of the policy of the content structure. -/
def policyHash : Lookup PolicyHash := do
  match (← get).hash? with
  | some hash => pure hash
  | none =>
    let hash := (← gradingPolicy).hash
    modify fun c => { c with hash? := some hash }
    pure hash

/-- The version of the descriptor if it is at hand, else of the structure. -/
def contentVersion : Lookup (Option String) := do
  match (← get).course? with
  | some course => pure course.version
  | none => (·.version) <$> content

def contentEditedAt : Lookup (Option Instant) := do
  match (← get).course? with
  | some course => pure course.editedOn
  | none => (·.editedOn) <$> content

/-- The end of the course, announced with every grade. -/
def deadline : Lookup (Option Instant) := (·.ends) <$> course

/-- Key, version and fingerprint in one line. What cannot be loaded is left open. -/
def fullText : Lookup String := do
  let version ← attempt? contentVersion
  let editedOn ← attempt? contentEditedAt
  let hash ← attempt? policyHash
  let c ← get
  pure (c.text ++ ", version: " ++ (version.join.getD "none") ++
    ", edited_on: " ++ ((editedOn.join.map (·.textWithOffset)).getD "none") ++
    ", grading_policy: " ++ ((hash.map (·.text)).getD "unknown"))

/-- What can be looked up on a context. -/
inductive Query where
  | course
  | content
  | gradingPolicy
  | policyHash
  | contentVersion
  | contentEditedAt
  | deadline
  | fullText
  deriving DecidableEq, Repr

/-- What a query finds. -/
inductive Finding where
  | course (x : Course)
  | content (x : ContentStructure)
  | gradingPolicy (p : GradingPolicy)
  | policyHash (h : PolicyHash)
  | version (v : Option String)
  | instant (t : Option Instant)
  | text (s : String)

/-- Look something up. -/
def consult : Query → Lookup Finding
  | .course => .course <$> course
  | .content => .content <$> content
  | .gradingPolicy => .gradingPolicy <$> gradingPolicy
  | .policyHash => .policyHash <$> policyHash
  | .contentVersion => .version <$> contentVersion
  | .contentEditedAt => .instant <$> contentEditedAt
  | .deadline => .instant <$> deadline
  | .fullText => .text <$> fullText

end Context

end Gradebook
