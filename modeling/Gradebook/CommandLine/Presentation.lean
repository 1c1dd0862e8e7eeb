/-
# Gradebook.CommandLine.Presentation — grades as reports

A report is plain text or JSON. Plain numbers have two places, a half goes to the
even neighbour; sections and batches are tables. JSON reports are indented and
have the fields of every object in ascending order.
-/
import Gradebook.Decimal.Layout
import Gradebook.Document.Grades
import Gradebook.Engine.Batch
import Gradebook.Text.Table

namespace Gradebook.Presentation

set_option autoImplicit false

inductive Format where
  | text
  | json
  deriving DecidableEq, Repr

/-- A value as a JSON report. -/
def report (t : Tree) : String := Json.writePretty t.sorted

def sourceName : GradeSource → String
  | .stored => "stored"
  | .zero => "zero"
  | .computed true => "computed (persisted)"
  | .computed false => "computed"

/-- A number with two places. -/
def amount (x : Float) : String := Decimal.fixed 2 x

def sectionTable (sections : List SectionSummary) : Text.Table where
  header := ["Type", "Weight", "Average", "Counted", "Dropped"]
  rows := sections.map fun s =>
    [s.kind, amount s.weight, amount s.average, Decimal.naturalText s.counted,
      Decimal.naturalText s.dropped]

def gradeText (g : ResolvedGrade) : String :=
  let lines :=
    ["Learner " ++ g.learner.text ++ " in " ++ g.courseKey.text,
      "  Percent: " ++ amount g.percent,
      "  Letter: " ++ g.letterGrade.getD "-",
      "  Status: " ++ g.passStatus.text,
      "  Source: " ++ sourceName g.source]
  let lines := if g.sections.isEmpty then lines
    else lines ++ ["", (sectionTable g.sections).render]
  "\n".intercalate lines

def grade (g : ResolvedGrade) : Format → String
  | .text => gradeText g
  | .json => report g.toTree

def optionalGrade : Option ResolvedGrade → Format → String
  | some g, format => grade g format
  | none, .text => "No grade on record."
  | none, .json => report (.table [("grade", .null)])

def resultTree (r : GradeResult) : Tree :=
  let (grade, error) := match r.outcome with
    | .ok g => (g.toTree, Tree.null)
    | .error e => (Tree.null, Tree.text e.message)
  .table [("learner", r.learner.toTree), ("grade", grade), ("error", error)]

def resultRow (r : GradeResult) : List String :=
  match r.outcome with
  | .ok g =>
    [r.learner.id.text, amount g.percent, g.letterGrade.getD "-", g.passStatus.text,
      sourceName g.source]
  | .error e => [r.learner.id.text, "-", "-", "error: " ++ e.message, "-"]

def resultTable (results : List GradeResult) : Text.Table where
  header := ["Learner", "Percent", "Letter", "Status", "Source"]
  rows := results.map resultRow

def failures (results : List GradeResult) : Nat :=
  (results.filter fun r => r.outcome.toOption.isNone).length

def batch (results : List GradeResult) : Format → String
  | .text =>
    let failed := failures results
    (resultTable results).render ++ "\n\n" ++ Decimal.naturalText (results.length - failed) ++
      " graded, " ++ Decimal.naturalText failed ++ " failed"
  | .json => report (.list (results.map resultTree))

end Gradebook.Presentation
