/-
# Gradebook.Calculation — from scores to a breakdown

For each assignment type the fractions of its blocks are padded with zeros up to
the expected count, sorted, and the lowest are dropped; the rest is averaged. The
percent is the weighted sum of the averages, in policy order, rounded to
hundredths. Nothing here depends on where scores and groups come from.
-/
import Gradebook.Course
import Gradebook.Decimal.Binary
import Gradebook.Grade
import Gradebook.Score

namespace Gradebook

set_option autoImplicit false

namespace Calculation

/-- The fraction a learner has on a block; zero without a score. -/
def fractionOf (scores : Dictionary Score) (id : BlockId) : Double :=
  match scores.find? id with
  | some score => score.fraction
  | none => .ofFloat 0.0

/-- Zeros for the assignments still missing. -/
def padded (count : Nat) (fractions : List Double) : List Double :=
  fractions ++ List.replicate (count - fractions.length) (.ofFloat 0.0)

/-- The fractions an assignment type looks at, lowest first. -/
def entriesFor (g : AssignmentType) (ids : List BlockId) (scores : Dictionary Score) :
    List Double :=
  (padded g.minCount.toNat (ids.map (fractionOf scores))).mergeSort Double.atMost

/-- The sum in list order. An empty sum is the neutral `-0`, which no term and no
rounding can tell from being absent. -/
def sum (xs : List Double) : Float := xs.foldl (fun sum x => sum + x.value) (-0.0)

def average (xs : List Double) : Float :=
  if xs.isEmpty then 0.0 else sum xs / Float.ofNat xs.length

def summarize (groups : GradedBlocks) (scores : Dictionary Score) (g : AssignmentType) :
    SectionSummary :=
  let entries := entriesFor g ((groups.find? g.kind).getD []) scores
  let dropped := min g.dropCount.toNat entries.length
  let counted := entries.drop dropped
  ⟨g.kind, g.weight.value, average counted, counted.length, dropped⟩

/-- The weighted averages, added up in order. -/
def total (sections : List SectionSummary) : Float :=
  sections.foldl (fun sum s => sum + s.weight * s.average) 0.0

/-- Rounded to two places, halves away from zero. -/
def hundredths (x : Float) : Float := Decimal.nearestInteger (x * 100.0) / 100.0

/-- Some grouped block was attempted. -/
def isAttempted (groups : GradedBlocks) (scores : Dictionary Score) : Bool :=
  groups.values.flatten.any fun id => ((scores.find? id).map (·.attempted)).getD false

/-- The grade under a policy. -/
def breakdown (policy : GradingPolicy) (groups : GradedBlocks) (scores : Dictionary Score) :
    GradeBreakdown :=
  let sections := policy.graders.map (summarize groups scores)
  let percent := hundredths (total sections)
  let letter := policy.letterFor? percent
  ⟨percent, letter, letter.isSome, isAttempted groups scores, sections⟩

end Calculation

end Gradebook
