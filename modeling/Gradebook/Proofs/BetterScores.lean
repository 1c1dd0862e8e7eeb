/-
# Gradebook.Proofs.BetterScores — better scores make no grade worse

One score that rises may pass others, so that another score is dropped; sections then count the
same number of entries, and sorted side by side each of them has risen (`summarize_under`).
From there on everything is monotone: sums, quotients and products of fractions, whatever is
rounded, the whole hundredths of the percent (`Calculation.percents_rise`), and the letters,
since what meets a cutoff goes on to meet it (`GradingPolicy.bestMet?_rises`).
-/
import Gradebook.Proofs.Averages
import Gradebook.Proofs.Computing
import Gradebook.Proofs.CutoffLetters
import Gradebook.Proofs.Resolving
import Gradebook.Proofs.StoredTexts

namespace Gradebook

set_option autoImplicit false

open Calculation (Weighs breakdown fractionOf summarize share hundredths total)
open Decimal (Stands stands_zero stands_one)
open GradingPolicy (isFraction)

/-! ## Sections and percents -/

/-- The second section averages no less, of as many entries. -/
structure SectionSummary.Raised (s t : SectionSummary) : Prop where
  kind : t.kind = s.kind
  weight : t.weight = s.weight
  counted : t.counted = s.counted
  dropped : t.dropped = s.dropped
  average : s.average ≤ t.average

/-- The second breakdown, under the same policy, is nowhere worse. -/
structure GradeBreakdown.Raised (p : GradingPolicy) (b b' : GradeBreakdown) : Prop where
  sections : List.Forall₂ SectionSummary.Raised b.sections b'.sections
  percent : b.percent ≤ b'.percent
  passed : b.passed = true → b'.passed = true
  letter : ∀ letter, b.letterGrade = some letter → ∃ letter' cutoff cutoff',
    b'.letterGrade = some letter' ∧ p.cutoffs.find? letter = some cutoff ∧
      p.cutoffs.find? letter' = some cutoff' ∧ cutoff.value ≤ cutoff'.value

namespace Calculation

/-- No score that counts is less, and each is a number. -/
def NoLess (groups : GradedBlocks) (s t : Dictionary Score) : Prop :=
  ∀ id ∈ groups.values.flatten, (fractionOf s id).value ≤ (fractionOf t id).value

variable {p : GradingPolicy} {groups : GradedBlocks} {s t : Dictionary Score}

theorem NoLess.group (h : NoLess groups s t) (kind : String) :
    ∀ id ∈ (groups.find? kind).getD [], Double.Below (fractionOf s id) (fractionOf t id) := by
  intro id inside
  cases found : groups.find? kind with
  | none =>
    rw [found] at inside
    exact absurd inside List.not_mem_nil
  | some ids =>
    rw [found] at inside
    refine h id (List.mem_flatten.2 ⟨ids, ?_, inside⟩)
    exact List.mem_map.2 ⟨(kind, ids), Dictionary.mem_entries.2 found, rfl⟩

theorem sections_rise (h : NoLess groups s t) (gs : List AssignmentType) :
    List.Forall₂ SectionSummary.Raised (gs.map (summarize groups s))
      (gs.map (summarize groups t)) := by
  rw [List.forall₂_map_left_iff, List.forall₂_map_right_iff]
  refine List.forall₂_same.2 fun g _ => ?_
  obtain ⟨counted, dropped, average⟩ := summarize_under (g := g) (h.group g.kind)
  exact ⟨rfl, rfl, counted.symm, dropped.symm, average.le⟩

theorem shares_rise (accepted : p.Accepted) (h : NoLess groups s t) :
    List.Forall₂ Under ((p.graders.map (summarize groups s)).map share)
      ((p.graders.map (summarize groups t)).map share) := by
  rw [List.map_map, List.map_map, List.forall₂_map_left_iff, List.forall₂_map_right_iff]
  refine List.forall₂_same.2 fun g inside => ?_
  obtain ⟨-, -, average⟩ := summarize_under (g := g) (h.group g.kind)
  exact (weighted_under (accepted.weights g inside) average).1

/-- **Percents rise with the shares of the sections**, in whole hundredths. -/
theorem percents_rise (accepted : p.Accepted) {sections sections' : List SectionSummary}
    (weighs : List.Forall₂ Weighs p.graders sections)
    (weighs' : List.Forall₂ Weighs p.graders sections')
    (shares : List.Forall₂ Under (sections.map share) (sections'.map share)) :
    Under (hundredths (total sections)) (hundredths (total sections')) := by
  obtain ⟨a, first, plain, nonneg, within⟩ := total_within accepted weighs
  obtain ⟨b, second, plain', nonneg', within'⟩ := total_within accepted weighs'
  obtain ⟨c, d, sum, sum', -, rise, -⟩ :=
    sums_of_fractions shares stands_zero stands_zero le_rfl le_rfl (n := 0) (Nat.cast_nonneg _)
  rw [← total_eq] at sum sum'
  obtain rfl : a = c := first.unique sum
  obtain rfl : b = d := second.unique sum'
  obtain ⟨k, many, -, rounded⟩ := hundredths_eq first plain nonneg within
  obtain ⟨l, many', most, rounded'⟩ := hundredths_eq second plain' nonneg' within'
  have scaled : k ≤ l := (many.le_iff many').1
    ((first.mul stands_hundred).le (second.mul stands_hundred) (by linarith))
  rw [rounded, rounded']
  exact hundredths_under (Nat.floor_mono (by linarith)) most

/-- **No grade is worse under scores of which none is less.** -/
theorem breakdown_rises (valid : p.validate = .ok ()) (h : NoLess groups s t) :
    GradeBreakdown.Raised p (breakdown p groups s) (breakdown p groups t) := by
  have accepted := GradingPolicy.accepted valid
  have averages (g : AssignmentType) := (summarize_under (g := g) (h.group g.kind)).2.2
  have percent := percents_rise accepted
    (weighs_sections p.graders fun g => (averages g).lower)
    (weighs_sections p.graders fun g => (averages g).upper) (shares_rise accepted h)
  constructor
  · exact sections_rise h p.graders
  · exact percent.le
  · intro passed
    obtain ⟨letter, earned⟩ := Option.isSome_iff_exists.1 passed
    obtain ⟨e, best, -⟩ := Option.map_eq_some_iff.1 earned
    obtain ⟨e', best', -⟩ := GradingPolicy.bestMet?_rises percent.le best
    exact Option.isSome_iff_exists.2 ⟨e'.1, Option.map_eq_some_iff.2 ⟨e', best', rfl⟩⟩
  · intro letter earned
    obtain ⟨e, best, rfl⟩ := Option.map_eq_some_iff.1 earned
    obtain ⟨e', best', -, rise⟩ := GradingPolicy.bestMet?_rises percent.le best
    obtain ⟨inside, -⟩ := GradingPolicy.bestMet?_met best
    obtain ⟨inside', -⟩ := GradingPolicy.bestMet?_met best'
    exact ⟨e'.1, e.2, e'.2, Option.map_eq_some_iff.2 ⟨e', best', rfl⟩,
      Dictionary.mem_entries.1 inside, Dictionary.mem_entries.1 inside', rise⟩

end Calculation

/-- **Grades are monotone in scores.** Take two learners, or two worlds, with the same content
of a valid policy and the same groups of blocks at hand. If on every grouped block the fraction
of the second score is a number no less than the fraction of the first, then the weighted
calculator answers for both, and the second grade is nowhere worse: sections of the same kinds
and numbers of entries, averages and the percent no less, a pass where there was one, and a
letter with a cutoff no less. -/
theorem grades_rise_with_scores {w w' : World} {learner learner' : LearnerId} {c c' : Context}
    {x : ContentStructure} {s t : Dictionary Score} (content : w.contentOf c = .ok x)
    (content' : w'.contentOf c' = .ok x) (valid : x.gradingPolicy.validate = .ok ())
    (read : (w.scoresOf learner x.courseKey).1 = .ok s)
    (read' : (w'.scoresOf learner' x.courseKey).1 = .ok t)
    (groups : (w'.groups x.courseKey x.version x.gradedBlocksByFormat).1 =
      (w.groups x.courseKey x.version x.gradedBlocksByFormat).1)
    (better : ∀ id ∈ (w.groups x.courseKey x.version x.gradedBlocksByFormat).1.values.flatten,
      (fractionOf s id).value ≤ (fractionOf t id).value) :
    ∃ b b' : GradeBreakdown, (w.look (Calculator.weighted learner) c).1.1 = .ok b ∧
      (w'.look (Calculator.weighted learner') c').1.1 = .ok b' ∧
      GradeBreakdown.Raised x.gradingPolicy b b' := by
  refine ⟨_, _, World.look_weighted_ok content valid read,
    World.look_weighted_ok content' valid read', ?_⟩
  rw [groups]
  exact Calculation.breakdown_rises valid better

namespace Sample

/-- The lower of two homework scores is dropped, and the exam counts as much as homework. -/
def halves : CourseDefinition where
  key := key
  displayName := "Algebra"
  ends := none
  version := none
  editedOn := none
  gradingPolicy :=
    ⟨[⟨"Homework", "HW", .ofFloat 0.5, 2, 1⟩, ⟨"Exam", "EX", .ofFloat 0.5, 0, 0⟩],
      (homework.cutoffs.insert "Top" (.ofFloat 0.75))⟩
  blocks := [⟨"hw1", "", some "Homework", true⟩, ⟨"hw2", "", some "Homework", true⟩,
    ⟨"final", "", some "Exam", true⟩]

end Sample

/-- The second learner does better in one homework, so that the other is dropped, and in the
exam. -/
theorem grades_rise_with_scores_reordered :
    let points (n : Float) : Score := ⟨.ofFloat n, .ofFloat 4.0, true, default⟩
    let w₁ : World := ((Sample.world Sample.halves).record ⟨1⟩ Sample.key "hw1" (points 2.0)).record
      ⟨1⟩ Sample.key "final" (points 2.0)
    let w : World := ((w₁.record ⟨2⟩ Sample.key "hw1" (points 2.0)).record ⟨2⟩ Sample.key "hw2"
      (points 3.0)).record ⟨2⟩ Sample.key "final" (points 4.0)
    let c : Context := ⟨none, Sample.key, none, none, none⟩
    ∃ b b' : GradeBreakdown, (w.look (Calculator.weighted ⟨1⟩) c).1.1 = .ok b ∧
      (w.look (Calculator.weighted ⟨2⟩) c).1.1 = .ok b' ∧
      GradeBreakdown.Raised Sample.halves.gradingPolicy b b' ∧
      b.letterGrade = some "Pass" ∧ b'.letterGrade = some "Top" := by
  intro points w₁ w c
  have content : w.contentOf c = .ok Sample.halves.content := rfl
  have valid : Sample.halves.gradingPolicy.validate = .ok () :=
    Document.ok_of_toOption (by decide +kernel)
  have read (learner : LearnerId) : (w.scoresOf learner Sample.halves.content.courseKey).1 =
      .ok ((w.scoresOf learner Sample.key).1.toOption.getD ∅) := rfl
  obtain ⟨b, b', answered, answered', raised⟩ :=
    grades_rise_with_scores content content valid (read ⟨1⟩) (read ⟨2⟩) rfl (by decide +kernel)
  have first := World.look_weighted_ok content valid (read ⟨1⟩)
  have second := World.look_weighted_ok content valid (read ⟨2⟩)
  refine ⟨b, b', answered, answered', raised, ?_, ?_⟩
  · rw [← Except.ok.inj (first.symm.trans answered)]
    rw [breakdown, Calculation.summarize_eq]
    decide +kernel
  · rw [← Except.ok.inj (second.symm.trans answered')]
    rw [breakdown, Calculation.summarize_eq]
    decide +kernel

end Gradebook
