/-
# Gradebook.Engine — resolving the grade of a learner in a course

A stored grade is served while the fingerprint it was computed under is the
current one. Without a row a course may assume zero. Everything else computes:

  stored, fingerprint current   served as it is
  no row, course assumes zero   zero grade
  otherwise                     compute, keep (or not), announce

`read` never looks at fingerprints, `update` always computes. First computations
by `create` are not kept, since there is no row to bring up to date.
-/
import Gradebook.Calculator
import Gradebook.Flags

namespace Gradebook

set_option autoImplicit false

namespace StoredGrade

open Lookup

/-- The row of a fresh breakdown. A passing grade keeps the first moment it passed
at, a failing one forgets it; the row keeps the moment it was created. -/
def record (learner : LearnerId) (b : GradeBreakdown) (previous : Option StoredGrade)
    (now : Instant) : Lookup StoredGrade := do
  let version ← Context.contentVersion
  let editedAt ← Context.contentEditedAt
  let hash ← Context.policyHash
  let c ← get
  pure {
    learner
    courseKey := c.key
    contentVersion := version
    contentEditedAt := editedAt
    policyHash := hash
    percent := b.percent
    letterGrade := b.letterGrade.getD ""
    passedAt := if b.passed then some ((previous.bind (·.passedAt)).getD now) else none
    attempted := b.attempted
    createdAt := (previous.map (·.createdAt)).getD now
    modifiedAt := now }

end StoredGrade

/-- How a batch treats each learner. -/
inductive Strategy where
  /-- Serve current grades, compute the others. -/
  | createIfStale
  /-- Compute every grade. -/
  | forceUpdate
  deriving DecidableEq, Repr

namespace Strategy

def ofForce (force : Bool) : Strategy := if force then .forceUpdate else .createIfStale

end Strategy

/-- The parts of a resolution that do not change while it runs. -/
structure GradeEngine where
  flags : GradeFlags
  calculator : Calculator
  listeners : List Listener

namespace GradeEngine

open Lookup

/-- A row or a change of one is the store's business; its errors are passed on. -/
def stored {α : Type} : Except StorageError α → Lookup α
  | .ok a => pure a
  | .error e => fail (.storage e)

/-- The row on record, whether or not the course keeps grades. -/
def rowOf (learner : LearnerId) (key : CourseKey) : Lookup (Option StoredGrade) := do
  stored (← ask (.findRow learner key))

/-- Write a row over the one on record. -/
def write (row : StoredGrade) : Lookup Unit := do
  stored (← ask (.putRow row))

/-- Tell one listener. A failure is logged and does not end the operation. -/
def tell (notice : Notice) (report : DispatchReport) (listener : Listener) :
    Lookup DispatchReport := do
  let delivery ← ask (.deliver listener notice)
  match delivery.failure? with
  | none => pure ()
  | some text =>
    log .warn .signals "Grade listener failed"
      [("signal", notice.signal), ("listener", listener.name), ("error", text)]
  pure (report.add listener.name delivery)

/-- Tell every listener, in subscription order. -/
def dispatch (e : GradeEngine) (notice : Notice) : Lookup DispatchReport :=
  e.listeners.foldlM (tell notice) {}

/-- The row kept for a learner, if the course keeps grades and there is one. -/
def readStored (e : GradeEngine) (learner : Learner) : Lookup (Option StoredGrade) := do
  let c ← get
  if !e.flags.persists c.key then pure none
  else match ← rowOf learner.id c.key with
    | none => pure none
    | some row =>
      log .info .engine
        ("Grades: Read, " ++ c.text ++ ", User: " ++ learner.id.text ++ ", " ++ row.text)
      pure (some row)

/-- The grade of a learner nothing is known about. -/
def createZero (learner : Learner) : Lookup ResolvedGrade := do
  let c ← get
  log .info .engine ("Grades: CreateZero, " ++ c.text ++ ", User: " ++ learner.id.text)
  pure (.zero learner.id c.key)

/-- Whether a breakdown is to be kept. -/
def keeps (e : GradeEngine) (key : CourseKey) (readOnly : Bool) (b : GradeBreakdown) : Bool :=
  !readOnly && e.flags.persists key && (!e.flags.writeOnlyIfEngaged || b.attempted)

/-- Write the row of a breakdown over the one known or on record. -/
def keep (learner : Learner) (known : Option StoredGrade) (b : GradeBreakdown) :
    Lookup Unit := do
  let c ← get
  let previous ← match known with
    | some row => pure (some row)
    | none => rowOf learner.id c.key
  let now ← ask .clock
  let row ← StoredGrade.record learner.id b previous now
  write row

/-- The descriptor if it can be loaded; grades go out without one. -/
def availableCourse : Lookup (Option Course) := do
  match ← attempt Context.course with
  | .ok course => pure (some course)
  | .error e =>
    log .warn .engine "Course descriptor unavailable"
      [(← get).keyField, ("error", e.message)]
    pure none

/-- Tell the listeners of a grade just computed, and log it. -/
def announce (e : GradeEngine) (learner : Learner) (key : CourseKey) (b : GradeBreakdown)
    (kept : Bool) : Lookup ResolvedGrade := do
  let grade := ResolvedGrade.ofBreakdown learner.id key b kept
  let deadline := (← availableCourse).bind (·.ends)
  let _ ← e.dispatch (.changed learner grade key deadline)
  if grade.passed then
    let _ ← e.dispatch (.nowPassed learner key)
  let full ← Context.fullText
  log .info .engine ("Grades: Update, " ++ full ++ ", User: " ++ learner.id.text ++ ", " ++
    grade.text ++ ", persisted: " ++ boolText kept)
  pure grade

/-- Keep a breakdown just computed if it is to be kept, then announce it. -/
def conclude (e : GradeEngine) (learner : Learner) (readOnly : Bool)
    (known : Option StoredGrade) (b : GradeBreakdown) : Lookup ResolvedGrade := do
  let key := (← get).key
  let kept := e.keeps key readOnly b
  if kept then keep learner known b
  e.announce learner key b kept

/-- Compute, keep if it is to be kept, announce. -/
def recompute (e : GradeEngine) (learner : Learner) (readOnly : Bool)
    (known : Option StoredGrade) : Lookup ResolvedGrade := do
  ask (.computing learner.id)
  let b ← e.calculator learner.id
  e.conclude learner readOnly known b

/-- The grade to display of a learner with a row. -/
def createStored (e : GradeEngine) (learner : Learner) (row : StoredGrade) :
    Lookup ResolvedGrade := do
  if row.policyHash = (← Context.policyHash) then pure (.ofStored row)
  else e.recompute learner false (some row)

/-- The grade to display of a learner without a row. -/
def createAbsent (e : GradeEngine) (learner : Learner) : Lookup ResolvedGrade := do
  if e.flags.assumesZero (← get).key then createZero learner
  else e.recompute learner true none

/-- The grade to display: stored and current, assumed zero, or computed. -/
def createHere (e : GradeEngine) (learner : Learner) : Lookup ResolvedGrade := do
  match ← e.readStored learner with
  | some row => e.createStored learner row
  | none => e.createAbsent learner

/-- The stored grade whatever its fingerprint, or an assumed zero. -/
def readHere (e : GradeEngine) (learner : Learner) : Lookup (Option ResolvedGrade) := do
  match ← e.readStored learner with
  | some row => pure (some (.ofStored row))
  | none =>
    if e.flags.assumesZero (← get).key then some <$> createZero learner
    else pure none

/-- A computed grade, whatever is stored. -/
def updateHere (e : GradeEngine) (learner : Learner) : Lookup ResolvedGrade :=
  e.recompute learner false none

/-- One learner in the context at hand. -/
def resolveHere (e : GradeEngine) (learner : Learner) : Strategy → Lookup ResolvedGrade
  | .createIfStale => e.createHere learner
  | .forceUpdate => e.updateHere learner

variable {α : Type}

/-- A lookup on the context of the inputs, which is then forgotten. -/
def within (learner : Learner) (i : CourseInputs) (l : Lookup α) :
    Dialogue (Except Failure α) :=
  match Context.ofInputs (some learner.id) i with
  | .error e => .done (.error (.error e))
  | .ok c => (·.1) <$> l.dialogue c

def create (e : GradeEngine) (learner : Learner) (i : CourseInputs) :
    Dialogue (Except Failure ResolvedGrade) := within learner i (e.createHere learner)

def read (e : GradeEngine) (learner : Learner) (i : CourseInputs) :
    Dialogue (Except Failure (Option ResolvedGrade)) := within learner i (e.readHere learner)

def update (e : GradeEngine) (learner : Learner) (i : CourseInputs) :
    Dialogue (Except Failure ResolvedGrade) := within learner i (e.updateHere learner)

/-- One learner in a context that was built before and stays as it is. -/
def resolve (e : GradeEngine) (learner : Learner) (c : Context) (s : Strategy) :
    Dialogue (Except Failure ResolvedGrade) :=
  (·.1) <$> (e.resolveHere learner s).dialogue c

end GradeEngine

end Gradebook
