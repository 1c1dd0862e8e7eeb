/-
# Gradebook.Signal — notices about grades, and who hears them

After a computation listeners are told that a grade changed and, if it passes,
that the course is now passed. A listener may fail or crash; that is part of its
`Delivery` and never stops the others.
-/
import Gradebook.Error
import Gradebook.Grade
import Gradebook.Log

namespace Gradebook

set_option autoImplicit false

/-- What listeners are told. -/
inductive Notice where
  | changed (learner : Learner) (grade : ResolvedGrade) (key : CourseKey)
      (deadline : Option Instant)
  | nowPassed (learner : Learner) (key : CourseKey)
  deriving BEq

namespace Notice

def signal : Notice → String
  | .changed .. => "grade_changed"
  | .nowPassed .. => "grade_now_passed"

end Notice

/-- How a listener's handler ended. -/
inductive Delivery where
  | succeeded
  | failed (text : String)
  | crashed (crash : Crash)
  deriving DecidableEq

namespace Delivery

/-- What went wrong, if anything. -/
def failure? : Delivery → Option String
  | .succeeded => none
  | .failed text => some text
  | .crashed crash => some ("listener panicked: " ++ crash.message)

end Delivery

/-- A subscriber. -/
inductive Listener where
  /-- Writes every notice to the log. -/
  | logging
  /-- Hears nothing. -/
  | silent (name : String)
  | observer (name : String) (handle : Notice → Delivery)

namespace Listener

def name : Listener → String
  | .logging => "tracing"
  | .silent name => name
  | .observer name _ => name

/-- An optional instant as log fields show it. -/
def deadlineText : Option Instant → String
  | none => "None"
  | some t => "Some(" ++ t.text ++ ")"

/-- The entry the logging listener writes. -/
def entryFor : Notice → LogEntry
  | .changed learner grade key deadline =>
    { level := .info, origin := .signals, message := "Course grade changed",
      fields := [("learner", learner.id.text), ("course_key", key.text),
        ("percent", Decimal.shown grade.percent), ("passed", boolText grade.passed),
        ("deadline", deadlineText deadline)] }
  | .nowPassed learner key =>
    { level := .info, origin := .signals, message := "Course grade now passed",
      fields := [("learner", learner.id.text), ("course_key", key.text)] }

/-- What a listener logs on a notice, and how its handler ends. -/
def react : Listener → Notice → List LogEntry × Delivery
  | .logging, notice => ([entryFor notice], .succeeded)
  | .silent _, _ => ([], .succeeded)
  | .observer _ handle, notice => ([], handle notice)

end Listener

/-- The outcome of telling every listener. -/
structure DispatchReport where
  delivered : Nat := 0
  /-- Name and message of each listener that failed, in subscription order. -/
  failed : List (String × String) := []
  deriving DecidableEq, Repr

namespace DispatchReport

def allDelivered (r : DispatchReport) : Bool := r.failed.isEmpty

/-- Add the outcome of one more listener. -/
def add (r : DispatchReport) (listener : String) (d : Delivery) : DispatchReport :=
  match d.failure? with
  | none => { r with delivered := r.delivered + 1 }
  | some text => { r with failed := r.failed ++ [(listener, text)] }

end DispatchReport

end Gradebook
