/-
# Gradebook.Dialogue — what an operation asks of its surroundings

Grading reads content, rows, scores and the clock, writes rows, keeps derived
data and tells listeners. An operation is written as a `Dialogue`: a tree of
requests, each followed by what to do with the reply. `run` answers the requests
one after the other against a state; a statement about every possible
surrounding, failing or changing at will, is a statement about the tree.

`run_bind` says that running is compositional, `trace` lists the requests a run
makes.
-/
import Gradebook.Course
import Gradebook.Error
import Gradebook.Grade
import Gradebook.Log
import Gradebook.Score
import Gradebook.Signal

namespace Gradebook

set_option autoImplicit false

/-- One question to the surroundings. -/
inductive Request where
  | loadCourse (key : CourseKey)
  | loadContent (key : CourseKey)
  | findRow (learner : LearnerId) (key : CourseKey)
  | putRow (row : StoredGrade)
  | scoresOf (learner : LearnerId) (key : CourseKey)
  /-- The groups kept for a content version, which are these if none are kept. -/
  | groups (key : CourseKey) (version : Option String) (built : GradedBlocks)
  | clear (key : CourseKey)
  /-- A computation for the learner begins. -/
  | computing (learner : LearnerId)
  | deliver (listener : Listener) (notice : Notice)
  | clock
  | log (entry : LogEntry)

namespace Request

/-- What each question is answered with. -/
def Reply : Request → Type
  | .loadCourse _ => Except Failure Course
  | .loadContent _ => Except Failure ContentStructure
  | .findRow _ _ => Except StorageError (Option StoredGrade)
  | .putRow _ => Except StorageError Unit
  | .scoresOf _ _ => Except StorageError (Dictionary Score)
  | .groups _ _ _ => GradedBlocks
  | .clear _ => Unit
  | .computing _ => Unit
  | .deliver _ _ => Delivery
  | .clock => Instant
  | .log _ => Unit

end Request

/-- An operation as a tree of requests. -/
inductive Dialogue (α : Type) where
  | done (a : α)
  | ask (r : Request) (next : r.Reply → Dialogue α)

namespace Dialogue

variable {α β σ : Type}

def bind : Dialogue α → (α → Dialogue β) → Dialogue β
  | .done a, f => f a
  | .ask r next, f => .ask r fun reply => bind (next reply) f

instance : Monad Dialogue where
  pure := .done
  bind := bind

/-- The reply to one request. -/
def request (r : Request) : Dialogue r.Reply := .ask r .done

/-- Surroundings with a state of their own. -/
abbrev Answering (σ : Type) : Type := (r : Request) → σ → r.Reply × σ

/-- Answer every request in turn. -/
def run (answer : Answering σ) : Dialogue α → σ → α × σ
  | .done a, s => (a, s)
  | .ask r next, s =>
    let reply := answer r s
    run answer (next reply.1) reply.2

/-- The requests a run makes, in order. -/
def trace (answer : Answering σ) : Dialogue α → σ → List Request
  | .done _, _ => []
  | .ask r next, s =>
    let reply := answer r s
    r :: trace answer (next reply.1) reply.2

@[simp] theorem run_done (answer : Answering σ) (a : α) (s : σ) :
    run answer (.done a) s = (a, s) := rfl

@[simp] theorem run_pure (answer : Answering σ) (a : α) (s : σ) :
    run answer (pure a) s = (a, s) := rfl

theorem run_ask (answer : Answering σ) (r : Request) (next : r.Reply → Dialogue α) (s : σ) :
    run answer (.ask r next) s = run answer (next (answer r s).1) (answer r s).2 := rfl

theorem run_bind (answer : Answering σ) (d : Dialogue α) (f : α → Dialogue β) (s : σ) :
    run answer (d >>= f) s = run answer (f (run answer d s).1) (run answer d s).2 := by
  induction d generalizing s with
  | done a => rfl
  | ask r next ih => exact ih _ _

@[simp] theorem run_request (answer : Answering σ) (r : Request) (s : σ) :
    run answer (request r) s = answer r s := rfl

theorem trace_bind (answer : Answering σ) (d : Dialogue α) (f : α → Dialogue β) (s : σ) :
    trace answer (d >>= f) s =
      trace answer d s ++ trace answer (f (run answer d s).1) (run answer d s).2 := by
  induction d generalizing s with
  | done a => rfl
  | ask r next ih => exact congrArg (r :: ·) (ih _ _)

theorem bind_done (d : Dialogue α) : d.bind .done = d := by
  induction d with
  | done a => rfl
  | ask r next ih => exact congrArg (ask r) (funext ih)

theorem bind_assoc {γ : Type} (d : Dialogue α) (f : α → Dialogue β) (g : β → Dialogue γ) :
    (d.bind f).bind g = d.bind fun a => (f a).bind g := by
  induction d with
  | done a => rfl
  | ask r next ih => exact congrArg (ask r) (funext ih)

instance : LawfulMonad Dialogue := LawfulMonad.mk'
  Dialogue bind_done (fun _ _ => rfl) bind_assoc

end Dialogue

end Gradebook
