/-
# Gradebook.Calculator — what computes a fresh grade

A calculator is a lookup per learner that only consults: it loads the course, reads
scores and derived data, and fills cells of its context. It writes no row and tells no
listener; that is part of its type. The stock one weighs scores by the policy of the
context's own structure (`weighted`). A `Rehearsal` answers from a script and lets
chosen learners fail or crash; it stands in for calculators that do.
-/
import Gradebook.Calculation
import Gradebook.Context.Terms

namespace Gradebook

set_option autoImplicit false

open Lookup

structure Calculator where
  compute : LearnerId → Lookup GradeBreakdown
  consults : ∀ learner, Within Request.consults (compute learner)

instance : CoeFun Calculator fun _ => LearnerId → Lookup GradeBreakdown := ⟨Calculator.compute⟩

namespace Calculator

/-- Group the blocks of a structure, read the scores, weigh them. -/
def weigh (learner : LearnerId) (content : ContentStructure) : Lookup GradeBreakdown := do
  let groups ← ask (.groups content.courseKey content.version content.gradedBlocksByFormat)
  match ← ask (.scoresOf learner content.courseKey) with
  | .error cause => fail (.calculation (.scoresUnavailable cause))
  | .ok scores =>
    let b := Calculation.breakdown content.gradingPolicy groups scores
    log .debug .calculator "Computed course grade"
      [("learner", learner.text), ("course_key", content.courseKey.text),
        ("percent", Decimal.shown b.percent), ("attempted", boolText b.attempted)]
    pure b

/-- The weighted grade: validate the policy, then weigh. -/
def computeWeighted (learner : LearnerId) : Lookup GradeBreakdown := do
  let content ← Context.content
  match content.gradingPolicy.validate with
  | .error cause => fail (.calculation (.invalidPolicy cause))
  | .ok () => weigh learner content

section Kinds

variable {kinds : Request → Prop} (structural : ∀ r, r.structural → kinds r)
  (scores : ∀ learner key, kinds (.scoresOf learner key))
  (groups : ∀ key version built, kinds (.groups key version built))
include structural scores groups

theorem within_weigh (learner : LearnerId) (content : ContentStructure) :
    Within kinds (weigh learner content) := by
  refine within_bind (within_ask (groups _ _ _)) fun _ => ?_
  refine within_bind (within_ask (scores _ _)) fun scores => ?_
  cases scores with
  | error cause => exact within_throw _
  | ok scores =>
    exact within_bind (within_log _ _ _ _ fun _ => structural _ trivial) fun _ => within_pure _

/-- The weighted grade is reached without a look at the descriptor. -/
theorem within_computeWeighted (learner : LearnerId) : Within kinds (computeWeighted learner) := by
  refine within_bind (Context.structural_content.mono structural) fun content => ?_
  cases content.gradingPolicy.validate with
  | error cause => exact within_throw _
  | ok _ => exact within_weigh structural scores groups learner content

end Kinds

def weighted : Calculator where
  compute := computeWeighted
  consults := within_computeWeighted
    (fun _ h => Request.consults_of_looks (Request.looks_of_structural h))
    (fun _ _ => trivial) fun _ _ _ => trivial

/-- The learners a calculator does not survive. -/
structure Trouble where
  fails : List LearnerId := []
  crashes : List LearnerId := []

namespace Trouble

/-- Crash or fail for the chosen learners. -/
def guard (t : Trouble) (learner : LearnerId) : Lookup Unit :=
  if t.crashes.contains learner then
    crash (.text ("calculator bug for learner " ++ learner.text))
  else if t.fails.contains learner then
    fail (.calculation (.reported ("cannot grade learner " ++ learner.text)))
  else pure ()

end Trouble

theorem within_guard {kinds : Request → Prop} (t : Trouble) (learner : LearnerId) :
    Within kinds (t.guard learner) := by
  unfold Trouble.guard
  split
  · exact within_throw _
  · split
    · exact within_throw _
    · exact within_pure _

/-- The weighted grade, for learners it is not in trouble with. -/
def troubled (t : Trouble) : Calculator where
  compute learner := do
    t.guard learner
    weighted learner
  consults learner := within_bind (within_guard t learner) fun _ => weighted.consults learner

/-- The same breakdown for everyone, after looking at the content if asked to. -/
def scripted (b : GradeBreakdown) (looks : Bool) (t : Trouble) : Calculator where
  compute learner := do
    if looks then
      let _ ← Context.content
    t.guard learner
    pure b
  consults learner := by
    have rest : Within Request.consults (do t.guard learner; pure b) :=
      within_bind (within_guard t learner) fun _ => within_pure b
    cases looks with
    | false => exact rest
    | true =>
      exact within_bind (Context.within_content.mono fun _ => Request.consults_of_looks)
        fun _ => rest

end Calculator

end Gradebook
