/-
# Gradebook.Engine.Batch — many learners against one snapshot

A batch loads the content once, and the descriptor if it can, and then grades one
learner per call of `next`. What goes wrong for a learner, a crash included, is
that learner's result. When the learners run out, or at `close`, the derived data
of the course is cleared, once per batch.
-/
import Gradebook.Cache
import Gradebook.Engine

namespace Gradebook

set_option autoImplicit false

/-- One learner of a batch and how the grading ended. -/
structure GradeResult where
  learner : Learner
  outcome : Except GradeError ResolvedGrade

/-- Learners still to come. A gap is a call that yields nobody though others may
follow. -/
abbrev Supply : Type := List (Option Learner)

namespace Supply

def ofLearners (learners : List Learner) : Supply := learners.map some

/-- The learners still to come, gaps left out. -/
def learners (s : Supply) : List Learner := s.filterMap id

end Supply

/-- A batch between two calls of `next`. -/
structure Batch where
  supply : Supply
  context : Context
  strategy : Strategy
  transaction : Transaction

namespace Batch

open Lookup

/-- The snapshot of a batch: the content, and the descriptor if it is available. -/
def prepare : Lookup Unit := do
  let _ ← Context.content
  let _ ← GradeEngine.availableCourse

/-- A batch over the course of the inputs, before its first learner. -/
def start (supply : Supply) (i : CourseInputs) (s : Strategy) :
    Dialogue (Except Failure Batch) :=
  match Context.ofInputs none i with
  | .error e => .done (.error (.error e))
  | .ok c => do
    match ← prepare.dialogue c with
    | (.error f, _) => pure (.error f)
    | (.ok (), c) => pure (.ok ⟨supply, c, s, { key := c.key }⟩)

/-- Clear the derived data of the course, unless that is already done. -/
def close (b : Batch) : Dialogue Batch :=
  if b.transaction.released then pure b
  else do
    let () ← Dialogue.request (.clear b.transaction.key)
    pure { b with transaction := { b.transaction with released := true } }

/-- On the clock of a batch no time passes while a grade is resolved. -/
def logResult (b : Batch) (r : GradeResult) : Dialogue Unit := do
  match r.outcome with
  | .ok _ => pure ()
  | .error e =>
    Dialogue.request (.log {
      level := .error, origin := .engine
      message := "Cannot grade learner " ++ r.learner.id.text ++ " in course " ++ b.context.key.text
      fields := [("learner", r.learner.id.text), b.context.keyField, ("error", e.message)] })
  Dialogue.request (.log {
    level := .debug, origin := .engine, message := "Batch grade resolved"
    fields := [("learner", r.learner.id.text), ("elapsed_ms", "0")] })

/-- Grade one learner of the batch. -/
def gradeOne (e : GradeEngine) (b : Batch) (learner : Learner) : Dialogue GradeResult := do
  let outcome ← e.resolve learner (b.context.forLearner learner.id) b.strategy
  let result : GradeResult := ⟨learner, outcome.mapError Failure.contained⟩
  b.logResult result
  pure result

/-- The next result; none, and the batch is closed, when nobody comes. -/
def next (e : GradeEngine) (b : Batch) : Dialogue (Option GradeResult × Batch) :=
  match b.supply with
  | some learner :: rest => do
    let result ← b.gradeOne e learner
    pure (some result, { b with supply := rest })
  | none :: rest => do
    let b ← close { b with supply := rest }
    pure (none, b)
  | [] => do
    let b ← close b
    pure (none, b)

/-- How many results are certain to come. -/
def remaining (b : Batch) : Nat := b.supply.learners.length

end Batch

end Gradebook
