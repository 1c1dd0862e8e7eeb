/-
# Gradebook.Proofs.Engagement — who counts as having attempted a course

A breakdown says whether the learner attempted the course, and where only engaged learners'
grades are kept, this decides whether an update writes a row. The answer is read off the groups
of blocks, not off the blocks: a graded block counts whatever its format is and whether or not an
assignment type collects it, but it must have a format, since without one it is in no group
(`ContentStructure.mem_groups`).

So `ContentStructure.Engages` is exact, for the breakdown and for the row
(`engagement_decides`), and a learner whose only work is on a block without a format is as
one who did nothing (`unformatted_work_is_no_engagement`).
-/
import Gradebook.Proofs.DroppedScores
import Gradebook.Proofs.StateMachine

namespace Gradebook

set_option autoImplicit false

/-! ## Blocks that are grouped -/

/-- Groups hold what is in the group of some key. -/
theorem Dictionary.mem_flatten_values {d : GradedBlocks} {id : BlockId} :
    id ∈ d.values.flatten ↔ ∃ key, id ∈ (d.find? key).getD [] := by
  rw [List.mem_flatten]
  constructor
  · rintro ⟨ids, listed, inside⟩
    obtain ⟨⟨key, _⟩, entry, rfl⟩ := List.mem_map.1 listed
    refine ⟨key, ?_⟩
    rwa [Dictionary.mem_entries.1 entry]
  · rintro ⟨key, inside⟩
    cases found : d.find? key with
    | none =>
      rw [found] at inside
      exact absurd inside List.not_mem_nil
    | some ids =>
      rw [found] at inside
      exact ⟨ids, List.mem_map.2 ⟨(key, ids), Dictionary.mem_entries.2 found, rfl⟩, inside⟩

namespace ContentStructure

/-- **The groups hold the graded blocks that have a format**, and no others. -/
theorem mem_groups {x : ContentStructure} {id : BlockId} :
    id ∈ x.gradedBlocksByFormat.values.flatten ↔
      ∃ b ∈ x.blocks, b.graded = true ∧ b.format.isSome = true ∧ b.id = id := by
  rw [Dictionary.mem_flatten_values]
  simp only [find?_gradedBlocksByFormat, gradedBlocks, List.mem_map, List.mem_filter,
    Bool.and_eq_true, beq_iff_eq]
  constructor
  · rintro ⟨format, b, ⟨listed, graded, own⟩, rfl⟩
    exact ⟨b, listed, graded, Option.isSome_iff_exists.2 ⟨format, own⟩, rfl⟩
  · rintro ⟨b, listed, graded, formatted, rfl⟩
    obtain ⟨format, own⟩ := Option.isSome_iff_exists.1 formatted
    exact ⟨format, b, ⟨listed, graded, own⟩, rfl⟩

/-- A graded block with a format has an attempted score. -/
def Engages (x : ContentStructure) (scores : Dictionary Score) : Prop :=
  ∃ b ∈ x.blocks, b.graded = true ∧ b.format.isSome = true ∧
    ∃ s, scores.find? b.id = some s ∧ s.attempted = true

end ContentStructure

/-- **The flag of a breakdown is that of the blocks**, when it is computed from their groups. -/
theorem Calculation.isAttempted_iff {x : ContentStructure} {scores : Dictionary Score} :
    isAttempted x.gradedBlocksByFormat scores = true ↔ x.Engages scores := by
  have attempts (id : BlockId) : ((scores.find? id).map (·.attempted)).getD false = true ↔
      ∃ s, scores.find? id = some s ∧ s.attempted = true := by
    cases scores.find? id <;> simp
  simp only [isAttempted, List.any_eq_true, attempts]
  constructor
  · rintro ⟨id, grouped, attempted⟩
    obtain ⟨b, listed, graded, formatted, rfl⟩ := ContentStructure.mem_groups.1 grouped
    exact ⟨b, listed, graded, formatted, attempted⟩
  · rintro ⟨b, listed, graded, formatted, attempted⟩
    exact ⟨b.id, ContentStructure.mem_groups.2 ⟨b, listed, graded, formatted, rfl⟩, attempted⟩

/-! ## Grades that are kept -/

namespace GradeEngine

/-- An update of a weighted grade, when neither loader nor store fails: its answer is the
breakdown, and says whether a row was written, which keeps it. -/
theorem look_update_weighted {e : GradeEngine} (weighted : e.calculator = .weighted) {w : World}
    {learner : Learner} {c : Context} (serves : w.Serves learner.id c.key) {b : GradeBreakdown}
    (computed : (w.look (Calculator.weighted learner.id) c).1.1 = .ok b) :
    let w' := (w.look (e.updateHere learner) c).2
    let kept := e.flags.persists c.key && (!e.flags.writeOnlyIfEngaged || b.attempted)
    (w.look (e.updateHere learner) c).1.1 = .ok (.ofBreakdown learner.id c.key b kept) ∧
      if kept then ∃ row : StoredGrade, row.Keeps learner.id c.key b ∧ w'.rows = w.rows.put row
      else w'.rows = w.rows := by
  intro w' kept
  obtain ⟨c₀, w₀, c₁, w₁, outcome, follows, quiet, computes, -, concluded⟩ :=
    update_once e serves
  have key : c₁.key = c.key := by
    have filled := (look_computing e follows quiet learner.id).2
    rw [computes] at filled
    exact filled.grows.key
  have same : w.SameSource (begun w₀) := ⟨quiet.source, quiet.faults⟩
  have again : ((begun w₀).look (Calculator.weighted learner.id) c₀).1.1 = .ok b := by
    rw [← computed, World.look_weighted, World.look_weighted,
      World.computation_eq follows same quiet.scores quiet.cache]
  rw [← weighted, computes] at again
  obtain rfl : outcome = .ok b := again
  obtain ⟨answer, written⟩ := concluded
  refine ⟨answer, ?_⟩
  rw [Bool.true_and] at written
  split at written
  · next keeps =>
    obtain ⟨row, recorded, rows, -⟩ := written
    rw [if_pos keeps]
    exact ⟨row, key ▸ (StoredGrade.keeps_of_record recorded).1, rows⟩
  · next drops =>
    rw [if_neg drops]
    exact written.1

end GradeEngine

/-- **Attempted means any graded block that has a format was attempted**, whether or not an
assignment type collects the format, when no groups are kept for the content of a valid policy.
Where the course keeps the grades of engaged learners only, an update keeps the breakdown of a
learner who attempted such a block, and leaves the rows alone for any other. -/
theorem engagement_decides {e : GradeEngine} (weighted : e.calculator = .weighted) {w : World}
    {learner : Learner} {c : Context} {x : ContentStructure} {scores : Dictionary Score}
    (content : w.contentOf c = .ok x) (valid : x.gradingPolicy.validate = .ok ())
    (read : (w.scoresOf learner.id x.courseKey).1 = .ok scores)
    (fresh : w.cache.hit? x.courseKey x.version = none) :
    ∃ b : GradeBreakdown, (w.look (Calculator.weighted learner.id) c).1.1 = .ok b ∧
      (b.attempted = true ↔ x.Engages scores) ∧
      (w.Serves learner.id c.key → e.flags.persists c.key = true →
        e.flags.writeOnlyIfEngaged = true →
        let outcome := (w.look (e.updateHere learner) c).1.1
        let rows := (w.look (e.updateHere learner) c).2.rows
        (x.Engages scores → outcome = .ok (.ofBreakdown learner.id c.key b true) ∧
          ∃ row : StoredGrade, row.Keeps learner.id c.key b ∧ rows = w.rows.put row) ∧
        (¬x.Engages scores → outcome = .ok (.ofBreakdown learner.id c.key b false) ∧
          rows = w.rows)) := by
  obtain ⟨b, computed, engages⟩ : ∃ b : GradeBreakdown,
      (w.look (Calculator.weighted learner.id) c).1.1 = .ok b ∧
        (b.attempted = true ↔ x.Engages scores) :=
    ⟨_, (World.look_weighted_fresh content fresh).trans (by
      rw [read]
      exact ContentStructure.weighed_ok valid scores), Calculation.isAttempted_iff⟩
  refine ⟨b, computed, engages, fun serves persists engagedOnly => ?_⟩
  obtain ⟨answer, written⟩ := GradeEngine.look_update_weighted weighted serves computed
  rw [persists, engagedOnly, Bool.not_true, Bool.true_and, Bool.false_or] at answer written
  refine ⟨fun engaged => ?_, fun idle => ?_⟩
  · rw [engages.2 engaged] at answer written
    exact ⟨answer, written⟩
  · rw [Bool.eq_false_iff.2 fun attempted => idle (engages.1 attempted)] at answer written
    exact ⟨answer, written⟩

namespace Sample

/-- Homework is collected and the essay is not, though both have a format; the project, graded
like them, has none. -/
def unformatted : CourseDefinition where
  key := key
  displayName := "Algebra"
  ends := none
  version := none
  editedOn := none
  gradingPolicy := homework
  blocks := [⟨"hw1", "", some "Homework", true⟩, ⟨"essay", "", some "Essay", true⟩,
    ⟨"project", "", none, true⟩, ⟨"practice", "", some "Homework", false⟩]

/-- The grades of engaged learners are kept. -/
def engagedOnly : GradeEngine := ⟨{ writeOnlyIfEngaged := true }, .weighted, []⟩

end Sample

/-- Work on a block that no assignment type collects is kept, as a grade of zero. -/
theorem engagement_decides_uncollected :
    let w : World := (Sample.world Sample.unformatted).record ⟨1⟩ Sample.key "essay" Sample.score
    let c : Context := ⟨some ⟨1⟩, Sample.key, none, none, none⟩
    ∃ b : GradeBreakdown, b.attempted = true ∧ (b.percent == 0.0) = true ∧
      (w.look (Sample.engagedOnly.updateHere Sample.learner) c).1.1 =
        .ok (.ofBreakdown ⟨1⟩ Sample.key b true) ∧
      ∃ row : StoredGrade, row.Keeps ⟨1⟩ Sample.key b ∧
        (w.look (Sample.engagedOnly.updateHere Sample.learner) c).2.rows = w.rows.put row := by
  intro w c
  let scores : Dictionary Score := Dictionary.empty.insert "essay" Sample.score
  have content : w.contentOf c = .ok Sample.unformatted.content := rfl
  have valid : Sample.unformatted.gradingPolicy.validate = .ok () :=
    Document.ok_of_toOption (by decide +kernel)
  have read : (w.scoresOf Sample.learner.id Sample.key).1 = .ok scores := rfl
  have serves : w.Serves ⟨1⟩ Sample.key :=
    { course := ⟨_, rfl⟩, content := ⟨_, rfl⟩, finds := ⟨_, rfl⟩, writes := rfl }
  have engages : Sample.unformatted.content.Engages scores :=
    ⟨⟨"essay", "", some "Essay", true⟩, by decide, rfl, rfl, Sample.score, rfl, rfl⟩
  have weighted : Sample.engagedOnly.calculator = .weighted := rfl
  obtain ⟨b, computed, attempted, kept⟩ := engagement_decides weighted content valid read rfl
  obtain ⟨answer, row⟩ := (kept serves rfl rfl).1 engages
  have evaluated : (w.look (Calculator.weighted ⟨1⟩) c).1.1 = .ok (Calculation.breakdown
      Sample.homework Sample.unformatted.content.gradedBlocksByFormat scores) :=
    (World.look_weighted_fresh content rfl).trans (ContentStructure.weighed_ok valid scores)
  refine ⟨b, attempted.2 engages, ?_, answer, row⟩
  rw [← Except.ok.inj (evaluated.symm.trans computed)]
  decide +kernel

/-- **Work on a block without a format is no engagement**, though the block is graded and its
score on record as attempted: the breakdown says that nothing was attempted, and where the
grades of engaged learners are kept, an update keeps none. -/
theorem unformatted_work_is_no_engagement :
    let w : World :=
      (Sample.world Sample.unformatted).record ⟨1⟩ Sample.key "project" Sample.score
    let scores : Dictionary Score := Dictionary.empty.insert "project" Sample.score
    let c : Context := ⟨some ⟨1⟩, Sample.key, none, none, none⟩
    let computed := (w.look (Calculator.weighted ⟨1⟩) c).1.1
    let updated := w.look (Sample.engagedOnly.updateHere Sample.learner) c
    (w.scoresOf ⟨1⟩ Sample.key).1 = .ok scores ∧
      (∃ b ∈ Sample.unformatted.blocks, b.graded = true ∧
        ∃ s, scores.find? b.id = some s ∧ s.attempted = true) ∧
      Sample.unformatted.gradingPolicy.validate.toOption = some () ∧
      computed.toOption.map (·.attempted) = some false ∧
      updated.1.1.toOption.map (fun g => (g.attempted, g.source)) =
        some (false, .computed false) ∧
      (updated.2.rows.find? ⟨1⟩ Sample.key).toOption.map (·.isSome) = some false := by
  intro w scores c computed updated
  refine ⟨rfl, ⟨⟨"project", "", none, true⟩, by decide, rfl, Sample.score, rfl, rfl⟩, ?_⟩
  decide +kernel

end Gradebook
