/-
# Gradebook.World — surroundings that answer every request

A `World` holds course content, rows, scores, derived data, the time and the log,
and counts what operations ask of it. `answer` replies to one request; chosen
requests can be made to fail (`Faults`). `run` carries out a dialogue.
-/
import Gradebook.Cache
import Gradebook.Catalog
import Gradebook.Dialogue
import Gradebook.Store.Rows
import Gradebook.Store.Scores

namespace Gradebook

set_option autoImplicit false

/-- Definitions at hand, by course key. -/
abbrev Shelf : Type := Assoc CourseKey CourseDefinition

namespace Shelf

def define (s : Shelf) (d : CourseDefinition) : Shelf := Assoc.put d.key d s

end Shelf

/-- Where course content comes from. -/
inductive ContentSource where
  | shelf (definitions : Shelf)
  | catalog (c : Catalog) (files : Files)

namespace ContentSource

def definition : ContentSource → CourseKey → Except ContentError CourseDefinition
  | .shelf definitions, key => match Assoc.find? key definitions with
    | some d => .ok d
    | none => .error (.unknownCourse key)
  | .catalog c files, key => c.definition files key

/-- Replace or add the definition of a course on a shelf. -/
def define : ContentSource → CourseDefinition → ContentSource
  | .shelf definitions, d => .shelf (definitions.define d)
  | source, _ => source

end ContentSource

/-- Requests that fail from now on, each with its failure. -/
structure Faults where
  course : Option Failure := none
  content : Option Failure := none
  findRow : Option StorageError := none
  putRow : Option StorageError := none
  scores : Option StorageError := none

structure World where
  source : ContentSource := .shelf []
  rows : RowStore := .memory []
  scores : ScoreStore := .memory []
  cache : DerivedCache := {}
  faults : Faults := {}
  now : Instant := default
  log : List LogEntry := []
  /-- Who was told what, in order. -/
  deliveries : List (Listener × Notice) := []
  computations : Nat := 0
  /-- Rows written by operations. -/
  writes : Nat := 0
  courseLoads : Nat := 0
  contentLoads : Nat := 0

namespace World

def addLog (w : World) (entries : List LogEntry) : World := { w with log := w.log ++ entries }

def loadCourse (key : CourseKey) (w : World) : Except Failure Course × World :=
  match w.faults.course with
  | some f => (.error f, w)
  | none =>
    let outcome := (w.source.definition key).map CourseDefinition.course
    (outcome.mapError fun e => .error (.content e), { w with courseLoads := w.courseLoads + 1 })

def loadContent (key : CourseKey) (w : World) : Except Failure ContentStructure × World :=
  match w.faults.content with
  | some f => (.error f, w)
  | none =>
    let outcome := (w.source.definition key).map CourseDefinition.content
    (outcome.mapError fun e => .error (.content e), { w with contentLoads := w.contentLoads + 1 })

def findRow (learner : LearnerId) (key : CourseKey) (w : World) :
    Except StorageError (Option StoredGrade) × World :=
  match w.faults.findRow with
  | some e => (.error e, w)
  | none => (w.rows.find? learner key, w)

def putRow (row : StoredGrade) (w : World) : Except StorageError Unit × World :=
  match w.faults.putRow with
  | some e => (.error e, w)
  | none => (.ok (), { w with rows := w.rows.put row, writes := w.writes + 1 })

def scoresOf (learner : LearnerId) (key : CourseKey) (w : World) :
    Except StorageError (Dictionary Score) × World :=
  match w.faults.scores with
  | some e => (.error e, w)
  | none => (w.scores.scoresOf learner key, w)

def groups (key : CourseKey) (version : Option String) (built : GradedBlocks) (w : World) :
    GradedBlocks × World :=
  let (groups, _, cache) := w.cache.groups key version fun _ => built
  (groups, { w with cache })

/-- Forget the groups of a course. -/
def clear (key : CourseKey) (w : World) : World :=
  { w with cache := w.cache.clear key }.addLog [{
    level := .debug, origin := .cache, message := "Invalidated derived data cache"
    fields := [("course_key", key.text)] }]

/-- Give up the care of a course's derived data. -/
def release (t : Transaction) (w : World) : Transaction × World :=
  ({ t with released := true }, if t.released then w else w.clear t.key)

def deliver (listener : Listener) (notice : Notice) (w : World) : Delivery × World :=
  let (entries, delivery) := listener.react notice
  (delivery, { w with log := w.log ++ entries, deliveries := w.deliveries ++ [(listener, notice)] })

/-- The reply to one request. -/
def answer : Dialogue.Answering World
  | .loadCourse key, w => w.loadCourse key
  | .loadContent key, w => w.loadContent key
  | .findRow learner key, w => w.findRow learner key
  | .putRow row, w => w.putRow row
  | .scoresOf learner key, w => w.scoresOf learner key
  | .groups key version built, w => w.groups key version built
  | .clear key, w => ((), w.clear key)
  | .computing _, w => ((), { w with computations := w.computations + 1 })
  | .deliver listener notice, w => w.deliver listener notice
  | .clock, w => (w.now, w)
  | .log entry, w => ((), w.addLog [entry])

/-- Carry out a dialogue. -/
def run {α : Type} (d : Dialogue α) (w : World) : α × World := Dialogue.run answer d w

/-- Record a score. Scores come from elsewhere and are no writes of an operation. -/
def record (learner : LearnerId) (key : CourseKey) (block : BlockId) (score : Score)
    (w : World) : World :=
  { w with scores := w.scores.record learner key block score }

end World

end Gradebook
