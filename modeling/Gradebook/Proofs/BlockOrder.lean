/-
# Gradebook.Proofs.BlockOrder — the order of the blocks of a course does not matter

Sums of doubles depend on the order of their terms, and the blocks of a structure come in any
order, with the formats mixed. A grade is the same for each order all the same: which blocks
make up a group depends on the blocks alone, so another order of the structure only reorders
each group, and the entries of an assignment type are sorted by a total order of bit patterns in
which no two patterns tie. So the very same doubles are added up in the very same order
(`entriesFor_perm`), NaN and the two zeros included.
-/
import Gradebook.Proofs.Engagement

namespace Gradebook

set_option autoImplicit false

open Calculation (entriesFor fractionOf isAttempted padded summarize)

/-- **Sorted entries do not depend on the order of the blocks.** -/
theorem Calculation.entriesFor_perm {ids ids' : List BlockId} (perm : ids'.Perm ids)
    (g : AssignmentType) (scores : Dictionary Score) :
    entriesFor g ids' scores = entriesFor g ids scores := by
  refine List.Perm.eq_of_pairwise' (pairwise_entriesFor g ids' scores)
    (pairwise_entriesFor g ids scores) ?_
  have fractions : (ids'.map (fractionOf scores)).Perm (ids.map (fractionOf scores)) :=
    perm.map _
  have filled : (padded g.minCount.toNat (ids'.map (fractionOf scores))).Perm
      (padded g.minCount.toNat (ids.map (fractionOf scores))) := by
    rw [padded, padded, fractions.length_eq]
    exact fractions.append_right _
  exact (List.mergeSort_perm _ _).trans (filled.trans (List.mergeSort_perm _ _).symm)

namespace ContentStructure

variable {x : ContentStructure} {blocks : List GradedBlock}

theorem gradedBlocks_perm (perm : blocks.Perm x.blocks) (format : String) :
    (({ x with blocks } : ContentStructure).gradedBlocks format).Perm (x.gradedBlocks format) :=
  perm.filter _

/-- Of each group the same entries are read. -/
theorem entriesFor_reordered (perm : blocks.Perm x.blocks) (g : AssignmentType)
    (scores : Dictionary Score) :
    entriesFor g ((({ x with blocks } : ContentStructure).gradedBlocksByFormat.find? g.kind).getD
        []) scores =
      entriesFor g ((x.gradedBlocksByFormat.find? g.kind).getD []) scores := by
  rw [find?_gradedBlocksByFormat, find?_gradedBlocksByFormat]
  exact Calculation.entriesFor_perm ((gradedBlocks_perm perm g.kind).map _) g scores

theorem engages_reordered (perm : blocks.Perm x.blocks) {scores : Dictionary Score} :
    ({ x with blocks } : ContentStructure).Engages scores ↔ x.Engages scores :=
  exists_congr fun _ => and_congr_left fun _ => perm.mem_iff

/-- **A content is weighed without regard to the order of its blocks.** -/
theorem weighed_reordered (perm : blocks.Perm x.blocks)
    (scores : Except StorageError (Dictionary Score)) :
    ({ x with blocks } : ContentStructure).weighed scores = x.weighed scores := by
  have sections (scores : Dictionary Score) :
      summarize ({ x with blocks } : ContentStructure).gradedBlocksByFormat scores =
        summarize x.gradedBlocksByFormat scores := by
    funext g
    simp only [summarize, entriesFor_reordered perm]
  have attempted (scores : Dictionary Score) :
      isAttempted ({ x with blocks } : ContentStructure).gradedBlocksByFormat scores =
        isAttempted x.gradedBlocksByFormat scores := by
    rw [Bool.eq_iff_iff, Calculation.isAttempted_iff, Calculation.isAttempted_iff,
      engages_reordered perm]
  simp only [weighed, Calculation.breakdown, sections, attempted]

end ContentStructure

/-- **Block order does not matter.** Two contexts, in two worlds, whose contents differ in the
order of their blocks only, and for which no groups are kept, have the same weighted grade of a
learner for whom the same scores are read, or the same error, whatever policy, blocks and scores
are. For each assignment type the very same doubles are counted, from the lowest on. -/
theorem block_order_is_immaterial {w w' : World} {learner : LearnerId} {c c' : Context}
    {x : ContentStructure} {blocks : List GradedBlock} (content : w.contentOf c = .ok x)
    (content' : w'.contentOf c' = .ok { x with blocks }) (perm : blocks.Perm x.blocks)
    (scores : (w'.scoresOf learner x.courseKey).1 = (w.scoresOf learner x.courseKey).1)
    (fresh : w.cache.hit? x.courseKey x.version = none)
    (fresh' : w'.cache.hit? x.courseKey x.version = none) :
    (w'.look (Calculator.weighted learner) c').1.1 =
        (w.look (Calculator.weighted learner) c).1.1 ∧
      ∀ (g : AssignmentType) (scores : Dictionary Score),
        let groups := ({ x with blocks } : ContentStructure).gradedBlocksByFormat
        entriesFor g ((groups.find? g.kind).getD []) scores =
          entriesFor g ((x.gradedBlocksByFormat.find? g.kind).getD []) scores := by
  refine ⟨?_, fun g scores => ContentStructure.entriesFor_reordered perm g scores⟩
  rw [World.look_weighted_fresh content fresh, World.look_weighted_fresh content' fresh']
  show ({ x with blocks } : ContentStructure).weighed (w'.scoresOf learner x.courseKey).1 = _
  rw [scores, ContentStructure.weighed_reordered perm]

namespace Sample

/-- An exam between the blocks of homework, of which the lowest is dropped. -/
def mixed : CourseDefinition where
  key := key
  displayName := "Algebra"
  ends := none
  version := none
  editedOn := none
  gradingPolicy :=
    ⟨[⟨"Homework", "HW", .ofFloat 0.5, 3, 2⟩, ⟨"Exam", "EX", .ofFloat 0.5, 0, 0⟩],
      homework.cutoffs⟩
  blocks := [⟨"hw1", "", some "Homework", true⟩, ⟨"final", "", some "Exam", true⟩,
    ⟨"hw2", "", some "Homework", true⟩, ⟨"hw3", "", some "Homework", true⟩]

/-- The same blocks from the last to the first. -/
def mixedBackwards : CourseDefinition := { mixed with blocks := mixed.blocks.reverse }

end Sample

/-- With a NaN, which is dropped, and a negative zero among the scores. -/
theorem block_order_is_immaterial_backwards :
    let score (earned : Double) : Score := ⟨earned, .ofFloat 1.0, true, default⟩
    let filled (w : World) : World := (((w.record ⟨1⟩ Sample.key "hw1" (score .undefined)).record
      ⟨1⟩ Sample.key "hw2" (score (.ofFloat (-0.0)))).record
      ⟨1⟩ Sample.key "hw3" (score (.ofFloat 1.0))).record ⟨1⟩ Sample.key "final" Sample.score
    let w := filled (Sample.world Sample.mixed)
    let w' := filled (Sample.world Sample.mixedBackwards)
    let c : Context := ⟨none, Sample.key, none, none, none⟩
    ∃ b : GradeBreakdown, (w.look (Calculator.weighted ⟨1⟩) c).1.1 = .ok b ∧
      (w'.look (Calculator.weighted ⟨1⟩) c).1.1 = .ok b ∧ (b.percent == 1.0) = true := by
  intro score filled w w' c
  have content : w.contentOf c = .ok Sample.mixed.content := rfl
  have content' : w'.contentOf c = .ok { Sample.mixed.content with
    blocks := Sample.mixed.blocks.reverse } := rfl
  have valid : Sample.mixed.gradingPolicy.validate = .ok () :=
    Document.ok_of_toOption (by decide +kernel)
  have read : (w.scoresOf ⟨1⟩ Sample.key).1 =
      .ok ((w.scoresOf ⟨1⟩ Sample.key).1.toOption.getD ∅) := rfl
  have scores : (w'.scoresOf ⟨1⟩ Sample.key).1 = (w.scoresOf ⟨1⟩ Sample.key).1 := rfl
  have same :=
    (block_order_is_immaterial content content' (List.reverse_perm _) scores rfl rfl).1
  have answered := World.look_weighted_ok content valid read
  refine ⟨_, answered, same.trans answered, ?_⟩
  rw [Calculation.breakdown, Calculation.summarize_eq]
  decide +kernel

end Gradebook
