/-
# Gradebook.Proofs.PercentRange — no grade is below nothing or above all

A percent is a whole number of hundredths, from none to all of them, and every average is a
fraction. The total is a sum of fractions of the weights, each at most its weight, taken in the
order in which validation sums the weights; rounding keeps that order at every step
(`Calculation.total_within`), so the total is within what validation allows. That is a little
more than one, too little for another hundredth.

All of this is about scores whose fractions are numbers, as those of every encoded score are
(`EncodedScores.clean_scoresOf`).
-/
import Gradebook.Proofs.Averages
import Gradebook.Proofs.Computing
import Gradebook.Proofs.ReadScores
import Gradebook.Proofs.Resolving

namespace Gradebook

set_option autoImplicit false

open Calculation (Clean breakdown fractionOf summarize)
open GradingPolicy (isFraction)

/-- Averages are fractions, and the percent is a whole number of hundredths. -/
structure GradeBreakdown.InRange (b : GradeBreakdown) : Prop where
  averages : ∀ s ∈ b.sections, 0.0 ≤ s.average ∧ s.average ≤ 1.0
  percent : ∃ k : ℕ, k ≤ 100 ∧ b.percent = Float.ofNat k / 100.0

namespace Calculation

theorem isFraction_average {scores : Dictionary Score} (clean : Clean scores)
    (groups : GradedBlocks) (g : AssignmentType) :
    isFraction (summarize groups scores g).average = true := by
  have below (id : BlockId) : Double.Below (fractionOf scores id) (fractionOf scores id) :=
    .of_atMost (clean.fractionOf id) (clean.fractionOf id) (Double.atMost_refl _)
  exact (summarize_under fun id _ => below id).2.2.lower

theorem inRange_breakdown {p : GradingPolicy} (valid : p.validate = .ok ())
    {scores : Dictionary Score} (clean : Clean scores) (groups : GradedBlocks) :
    (breakdown p groups scores).InRange := by
  have fractions := isFraction_average clean groups
  have weighs := weighs_sections p.graders fractions
  constructor
  · intro s inside
    obtain ⟨g, -, rfl⟩ := List.mem_map.1 inside
    simpa [isFraction] using fractions g
  · obtain ⟨a, total, plain, nonneg, within⟩ := total_within (GradingPolicy.accepted valid) weighs
    obtain ⟨b, -, most, rounded⟩ := hundredths_eq total plain nonneg within
    exact ⟨_, most, rounded⟩

end Calculation

/-- **Computed percents stay in range.** Scores that are read back have fractions. When the
fractions of a learner's scores are numbers, the weighted calculator answers for every valid
policy, and whatever groups of blocks are at hand, with one section for each assignment type,
averages from zero to one, and a percent that is a whole number of hundredths. -/
theorem percent_in_hundredths :
    (∀ (s : EncodedScores) (learner : LearnerId) (key : CourseKey) (scores : Dictionary Score),
      s.scoresOf learner key = .ok scores → Clean scores) ∧
    ∀ (w : World) (learner : LearnerId) (c : Context) (x : ContentStructure)
      (scores : Dictionary Score), w.contentOf c = .ok x → x.gradingPolicy.validate = .ok () →
      (w.scoresOf learner x.courseKey).1 = .ok scores → Clean scores →
      ∃ b : GradeBreakdown, (w.look (Calculator.weighted learner) c).1.1 = .ok b ∧
        b.sections.length = x.gradingPolicy.graders.length ∧ b.InRange := by
  refine ⟨fun s learner key scores read => EncodedScores.clean_scoresOf read, ?_⟩
  intro w learner c x scores content valid read clean
  exact ⟨_, World.look_weighted_ok content valid read, List.length_map _,
    Calculation.inRange_breakdown valid clean _⟩

namespace Sample

/-- Two assignment types that weigh a little more than all together. -/
def overweight : CourseDefinition where
  key := key
  displayName := "Algebra"
  ends := none
  version := none
  editedOn := none
  gradingPolicy :=
    ⟨[⟨"Homework", "HW", .ofFloat 0.5, 0, 0⟩, ⟨"Exam", "EX", .ofFloat 0.5000000005, 0, 0⟩], ∅⟩
  blocks := [⟨"hw1", "", some "Homework", true⟩, ⟨"final", "", some "Exam", true⟩]

end Sample

/-- The weights sum to more than one, the learner has full marks, and still the percent is no
more than one. -/
theorem percent_in_hundredths_overweight :
    let s := (({} : EncodedScores).record ⟨1⟩ Sample.key "hw1" Sample.score).record ⟨1⟩
      Sample.key "final" Sample.score
    let w : World := { Sample.world Sample.overweight with scores := .encoded s }
    let c : Context := ⟨some ⟨1⟩, Sample.key, none, none, none⟩
    (Sample.overweight.gradingPolicy.graders.map fun g => g.weight.value).foldl (· + ·) 0.0 > 1.0 ∧
      ∃ b : GradeBreakdown, (w.look (Calculator.weighted ⟨1⟩) c).1.1 = .ok b ∧
        b.sections.length = 2 ∧ b.InRange ∧ b.percent = 1.0 := by
  intro s w c
  have known : ((s.scoresOf ⟨1⟩ Sample.key).toOption).isSome = true := by decide +kernel
  obtain ⟨scores, known⟩ := Option.isSome_iff_exists.1 known
  have read : s.scoresOf ⟨1⟩ Sample.key = .ok scores := Document.ok_of_toOption known
  have valid : Sample.overweight.gradingPolicy.validate.toOption = some () := by decide +kernel
  obtain ⟨b, answered, sections, range⟩ := percent_in_hundredths.2 w ⟨1⟩ c
    Sample.overweight.content scores rfl (Document.ok_of_toOption valid) read
    (percent_in_hundredths.1 s ⟨1⟩ Sample.key scores read)
  have full : ((w.look (Calculator.weighted ⟨1⟩) c).1.1.toOption.map (·.percent.toBits)) =
      some (1.0 : Float).toBits := by decide +kernel
  rw [answered] at full
  exact ⟨by decide +kernel, b, answered, sections, range, Float.toBits_inj.1 (Option.some.inj full)⟩

end Gradebook
