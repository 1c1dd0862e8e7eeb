/-
# Gradebook.Document.Grades — courses, scores and grades as documents

For every exchanged type a writer (`toTree`) and a reader (`ofTree`). Writers put
the fields in the order of the type; readers take them in any order, or in that
order from a list. A grade source is told apart by its `kind` field, which is the
first item when it is written as a list.
-/
import Gradebook.Document.Schema
import Gradebook.Course
import Gradebook.Score
import Gradebook.Grade
import Gradebook.Json

namespace Gradebook

open Document (Reader misfit fields required optional orElse)

set_option autoImplicit false

namespace Instant

def toTree (t : Instant) : Tree := .text t.text

end Instant

namespace LearnerId

def toTree (id : LearnerId) : Tree := .natural id.number.toNat

def ofTree : Reader LearnerId := fun t => (Document.natural t).map LearnerId.mk

end LearnerId

namespace CourseKey

def toTree (key : CourseKey) : Tree := .text key.text

def ofTree (m : Manner) : Reader CourseKey := fun t => (Document.text m t).map CourseKey.mk

end CourseKey

namespace PolicyHash

def toTree (hash : PolicyHash) : Tree := .text hash.text

def ofTree (m : Manner) : Reader PolicyHash := fun t => (Document.text m t).map PolicyHash.mk

end PolicyHash

namespace Learner

def toTree (l : Learner) : Tree :=
  .table [("id", l.id.toTree), ("username", .text l.username)]

def ofTree (m : Manner) : Reader Learner := fun t => do
  match ← fields m ["id", "username"] t with
  | [id, username] =>
    .ok ⟨← required LearnerId.ofTree id, ← required (Document.text m) username⟩
  | _ => misfit "struct Learner" t

end Learner

namespace AssignmentType

def toTree (g : AssignmentType) : Tree :=
  .table [("type", .text g.kind), ("short_label", .text g.shortLabel), ("weight", .double g.weight),
    ("min_count", .natural g.minCount.toNat), ("drop_count", .natural g.dropCount.toNat)]

def ofTree (m : Manner) : Reader AssignmentType := fun t => do
  match ← fields m ["type", "short_label", "weight", "min_count", "drop_count"] t with
  | [kind, shortLabel, weight, minCount, dropCount] =>
    .ok ⟨← required (Document.text m) kind, ← orElse "" (Document.text m) shortLabel,
      ← required Document.double weight, ← orElse 0 Document.natural minCount,
      ← orElse 0 Document.natural dropCount⟩
  | _ => misfit "struct AssignmentType" t

end AssignmentType

namespace GradingPolicy

def toTree (p : GradingPolicy) : Tree :=
  .table [("graders", .list (p.graders.map AssignmentType.toTree)),
    ("cutoffs", .table (p.cutoffs.entries.map fun e => (e.1, .double e.2)))]

def ofTree (m : Manner) : Reader GradingPolicy := fun t => do
  match ← fields m ["graders", "cutoffs"] t with
  | [graders, cutoffs] =>
    .ok ⟨← orElse [] (Document.list (AssignmentType.ofTree m)) graders,
      ← orElse ∅ (Document.dictionary Document.double) cutoffs⟩
  | _ => misfit "struct GradingPolicy" t

end GradingPolicy

namespace Course

def toTree (c : Course) : Tree :=
  .table [("key", c.key.toTree), ("display_name", .text c.displayName),
    ("end", .optional Instant.toTree c.ends), ("version", .optional .text c.version),
    ("edited_on", .optional Instant.toTree c.editedOn),
    ("grading_policy", c.gradingPolicy.toTree)]

def ofTree (m : Manner) : Reader Course := fun t => do
  match ← fields m ["key", "display_name", "end", "version", "edited_on", "grading_policy"] t with
  | [key, displayName, ends, version, editedOn, policy] =>
    .ok ⟨← required (CourseKey.ofTree m) key, ← orElse "" (Document.text m) displayName,
      ← orElse none (Document.nullable Document.instant) ends,
      ← orElse none (Document.nullable (Document.text m)) version,
      ← orElse none (Document.nullable Document.instant) editedOn,
      ← orElse ∅ (GradingPolicy.ofTree m) policy⟩
  | _ => misfit "struct Course" t

end Course

namespace GradedBlock

def toTree (b : GradedBlock) : Tree :=
  .table [("id", .text b.id), ("display_name", .text b.displayName),
    ("format", .optional .text b.format), ("graded", .truth b.graded)]

def ofTree (m : Manner) : Reader GradedBlock := fun t => do
  match ← fields m ["id", "display_name", "format", "graded"] t with
  | [id, displayName, format, graded] =>
    .ok ⟨← required (Document.text m) id, ← orElse "" (Document.text m) displayName,
      ← orElse none (Document.nullable (Document.text m)) format,
      ← orElse false (Document.truth m) graded⟩
  | _ => misfit "struct GradedBlock" t

end GradedBlock

namespace ContentStructure

def toTree (s : ContentStructure) : Tree :=
  .table [("course_key", s.courseKey.toTree), ("version", .optional .text s.version),
    ("edited_on", .optional Instant.toTree s.editedOn),
    ("grading_policy", s.gradingPolicy.toTree), ("blocks", .list (s.blocks.map GradedBlock.toTree))]

def ofTree (m : Manner) : Reader ContentStructure := fun t => do
  match ← fields m ["course_key", "version", "edited_on", "grading_policy", "blocks"] t with
  | [key, version, editedOn, policy, blocks] =>
    .ok ⟨← required (CourseKey.ofTree m) key,
      ← orElse none (Document.nullable (Document.text m)) version,
      ← orElse none (Document.nullable Document.instant) editedOn,
      ← orElse ∅ (GradingPolicy.ofTree m) policy,
      ← orElse [] (Document.list (GradedBlock.ofTree m)) blocks⟩
  | _ => misfit "struct ContentStructure" t

end ContentStructure

namespace CourseDefinition

def toTree (d : CourseDefinition) : Tree :=
  .table [("key", d.key.toTree), ("display_name", .text d.displayName),
    ("end", .optional Instant.toTree d.ends), ("version", .optional .text d.version),
    ("edited_on", .optional Instant.toTree d.editedOn),
    ("grading_policy", d.gradingPolicy.toTree), ("blocks", .list (d.blocks.map GradedBlock.toTree))]

def ofTree (m : Manner) : Reader CourseDefinition := fun t => do
  match ← fields m
      ["key", "display_name", "end", "version", "edited_on", "grading_policy", "blocks"] t with
  | [key, displayName, ends, version, editedOn, policy, blocks] =>
    .ok ⟨← required (CourseKey.ofTree m) key, ← orElse "" (Document.text m) displayName,
      ← orElse none (Document.nullable Document.instant) ends,
      ← orElse none (Document.nullable (Document.text m)) version,
      ← orElse none (Document.nullable Document.instant) editedOn,
      ← orElse ∅ (GradingPolicy.ofTree m) policy,
      ← orElse [] (Document.list (GradedBlock.ofTree m)) blocks⟩
  | _ => misfit "struct CourseDefinition" t

end CourseDefinition

namespace Score

def toTree (s : Score) : Tree :=
  .table [("earned", .double s.earned), ("possible", .double s.possible),
    ("attempted", .truth s.attempted), ("recorded_at", s.recordedAt.toTree)]

def ofTree (m : Manner) : Reader Score := fun t => do
  match ← fields m ["earned", "possible", "attempted", "recorded_at"] t with
  | [earned, possible, attempted, recordedAt] =>
    .ok ⟨← required Document.double earned, ← required Document.double possible,
      ← required (Document.truth m) attempted, ← required Document.instant recordedAt⟩
  | _ => misfit "struct Score" t

end Score

namespace SectionSummary

def toTree (s : SectionSummary) : Tree :=
  .table [("kind", .text s.kind), ("weight", .float s.weight), ("average", .float s.average),
    ("counted", .natural s.counted), ("dropped", .natural s.dropped)]

def ofTree (m : Manner) : Reader SectionSummary := fun t => do
  match ← fields m ["kind", "weight", "average", "counted", "dropped"] t with
  | [kind, weight, average, counted, dropped] =>
    .ok ⟨← required (Document.text m) kind, ← required Document.float weight,
      ← required Document.float average,
      (← required Document.natural counted).toNat, (← required Document.natural dropped).toNat⟩
  | _ => misfit "struct SectionSummary" t

end SectionSummary

namespace GradeBreakdown

def toTree (b : GradeBreakdown) : Tree :=
  .table [("percent", .float b.percent), ("letter_grade", .optional .text b.letterGrade),
    ("passed", .truth b.passed), ("attempted", .truth b.attempted),
    ("sections", .list (b.sections.map SectionSummary.toTree))]

def ofTree (m : Manner) : Reader GradeBreakdown := fun t => do
  match ← fields m ["percent", "letter_grade", "passed", "attempted", "sections"] t with
  | [percent, letterGrade, passed, attempted, sections] =>
    .ok ⟨← required Document.float percent, ← optional (Document.text m) letterGrade,
      ← required (Document.truth m) passed, ← required (Document.truth m) attempted,
      ← orElse [] (Document.list (SectionSummary.ofTree m)) sections⟩
  | _ => misfit "struct GradeBreakdown" t

end GradeBreakdown

namespace GradeSource

def toTree : GradeSource → Tree
  | .stored => .table [("kind", .text "stored")]
  | .zero => .table [("kind", .text "zero")]
  | .computed persisted => .table [("kind", .text "computed"), ("persisted", .truth persisted)]

/-- The source of a kind, and the rest of its document. -/
def ofKind (m : Manner) (kind : String) (rest : Tree) : Except Misfit GradeSource :=
  match kind, rest with
  | "stored", .table _ | "stored", .list [] => .ok .stored
  | "zero", .table _ | "zero", .list [] => .ok .zero
  | "computed", rest => do
    match ← fields m ["persisted"] rest with
    | [persisted] => .ok (.computed (← required (Document.truth m) persisted))
    | _ => misfit "variant computed" rest
  | _, rest => misfit "a grade source" rest

/-- The deepest nesting that a source, read whole before its kind is known, may have
inside `outer` other levels. -/
def maxDepth (outer : Nat) : Nat := 127 - outer

/-- A source is read whole before its kind is known, so everything in it must be usable. -/
def ofTree (m : Manner) (outer : Nat) : Reader GradeSource := fun t =>
  if !t.isUsable then .error ⟨"unusable value in a grade source", 0⟩
  else if maxDepth outer < t.depth then .error ⟨"recursion limit exceeded", 0⟩
  else match t with
    | .table entries => do
      match Document.entriesOf "kind" entries with
      | [kind] => ofKind m (← Document.text m kind) (.table entries)
      | _ => misfit "one kind" t
    | .list (kind :: rest) => do ofKind m (← Document.text m kind) (.list rest)
    | t => misfit "a grade source" t

end GradeSource

namespace PassStatus

def name : PassStatus → String
  | .passed => "passed"
  | .notPassed => "not_passed"
  | .notAttempted => "not_attempted"

def ofName? (name : String) : Option PassStatus :=
  [passed, notPassed, notAttempted].find? fun s => s.name == name

def toTree (s : PassStatus) : Tree := .text s.name

/-- A status is written as its name, or as a table of its name and null. -/
def ofTree (m : Manner) : Reader PassStatus := fun t => do
  let name ← match t with
    | .table [(name, .leaf .null _)] => .ok name
    | t => Document.text m t
  match ofName? name with
  | some s => .ok s
  | none => misfit "a pass status" t

end PassStatus

namespace ResolvedGrade

def toTree (g : ResolvedGrade) : Tree :=
  .table [("learner", g.learner.toTree), ("course_key", g.courseKey.toTree),
    ("percent", .float g.percent), ("letter_grade", .optional .text g.letterGrade),
    ("passed", .truth g.passed), ("attempted", .truth g.attempted),
    ("sections", .list (g.sections.map SectionSummary.toTree)), ("source", g.source.toTree)]

def ofTree (m : Manner) : Reader ResolvedGrade := fun t => do
  match ← fields m ["learner", "course_key", "percent", "letter_grade", "passed", "attempted",
      "sections", "source"] t with
  | [learner, key, percent, letterGrade, passed, attempted, sections, source] =>
    .ok ⟨← required LearnerId.ofTree learner, ← required (CourseKey.ofTree m) key,
      ← required Document.float percent, ← optional (Document.text m) letterGrade,
      ← required (Document.truth m) passed, ← required (Document.truth m) attempted,
      ← orElse [] (Document.list (SectionSummary.ofTree m)) sections,
      ← required (GradeSource.ofTree m 1) source⟩
  | _ => misfit "struct ResolvedGrade" t

end ResolvedGrade

namespace StoredGrade

def toTree (row : StoredGrade) : Tree :=
  .table [("learner_id", row.learner.toTree), ("course_key", row.courseKey.toTree),
    ("content_version", .optional .text row.contentVersion),
    ("content_edited_at", .optional Instant.toTree row.contentEditedAt),
    ("grading_policy_hash", row.policyHash.toTree), ("percent", .float row.percent),
    ("letter_grade", .text row.letterGrade), ("passed_at", .optional Instant.toTree row.passedAt),
    ("attempted", .truth row.attempted), ("created_at", row.createdAt.toTree),
    ("modified_at", row.modifiedAt.toTree)]

def ofTree (m : Manner) : Reader StoredGrade := fun t => do
  match ← fields m ["learner_id", "course_key", "content_version", "content_edited_at",
      "grading_policy_hash", "percent", "letter_grade", "passed_at", "attempted", "created_at",
      "modified_at"] t with
  | [learner, key, version, editedAt, hash, percent, letterGrade, passedAt, attempted, createdAt,
      modifiedAt] =>
    .ok ⟨← required LearnerId.ofTree learner, ← required (CourseKey.ofTree m) key,
      ← optional (Document.text m) version, ← optional Document.instant editedAt,
      ← required (PolicyHash.ofTree m) hash, ← required Document.float percent,
      ← required (Document.text m) letterGrade, ← optional Document.instant passedAt,
      ← orElse false (Document.truth m) attempted, ← required Document.instant createdAt,
      ← required Document.instant modifiedAt⟩
  | _ => misfit "struct StoredGrade" t

end StoredGrade

namespace Json

/-- The record a JSON text denotes, or what is wrong with the text. -/
def decode {α : Type} (read : Reader α) (text : String) : Except String α :=
  match read? text with
  | none => .error "malformed document"
  | some t => match read t with
    | .ok a => .ok a
    | .error misfit => .error (describe text misfit.left misfit.reason)

end Json

end Gradebook
