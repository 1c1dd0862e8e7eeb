/-
# Gradebook.Proofs.DroppedScores — which scores an average leaves out

An assignment type has a multiset of entries: the fraction of every graded block of its kind,
once for each time the structure lists it, and zeros up to the number expected (`entries`). The
lowest of them are dropped and the rest is averaged, in ascending order. `Summarizes` says so of
a section without a word about grouping, sorting or slicing: the multiset is split in two, and
whatever is dropped is at most whatever is counted, in the total order of doubles, which has a
place for every double, NaN and both zeros included.

Grouping goes block by block, and a group holds what the blocks so far have added to it
(`find?_foldl_addTo`). Sorting and slicing split the entries where they are sorted.
-/
import Gradebook.Proofs.Averages
import Gradebook.Proofs.Computing
import Gradebook.Proofs.Resolving
import Gradebook.Proofs.StoredTexts

namespace Gradebook

set_option autoImplicit false

open Calculation (breakdown fractionOf summarize)
open Double (AtMost)

/-! ## Groups -/

namespace ContentStructure

/-- The graded blocks of a format, in order and as often as they are listed. -/
def gradedBlocks (x : ContentStructure) (format : String) : List GradedBlock :=
  x.blocks.filter fun b => b.graded && b.format == some format

theorem find?_addTo (groups : GradedBlocks) (b : GradedBlock) (format : String) :
    ((b.addTo groups).find? format).getD [] =
      (groups.find? format).getD [] ++
        if b.graded && b.format == some format then [b.id] else [] := by
  obtain ⟨id, _, own, graded⟩ := b
  cases graded with
  | false => simp [GradedBlock.addTo]
  | true =>
    cases own with
    | none => simp [GradedBlock.addTo]
    | some own =>
      simp only [GradedBlock.addTo, Dictionary.find?_insert, Bool.true_and]
      by_cases same : format = own
      · subst same
        simp
      · simp [same, Ne.symm same]

theorem find?_foldl_addTo (blocks : List GradedBlock) (groups : GradedBlocks) (format : String) :
    ((blocks.foldl GradedBlock.addTo groups).find? format).getD [] =
      (groups.find? format).getD [] ++
        (blocks.filter fun b => b.graded && b.format == some format).map (·.id) := by
  induction blocks generalizing groups with
  | nil => simp
  | cons b rest ih =>
    rw [List.foldl_cons, ih, find?_addTo, List.append_assoc, List.filter_cons]
    split_ifs <;> rfl

/-- **A group holds the graded blocks of its format.** -/
theorem find?_gradedBlocksByFormat (x : ContentStructure) (format : String) :
    (x.gradedBlocksByFormat.find? format).getD [] = (x.gradedBlocks format).map (·.id) :=
  find?_foldl_addTo x.blocks ∅ format

end ContentStructure

/-! ## Entries, dropped and counted -/

namespace Calculation

/-- What an assignment type looks at: a fraction for each graded block of its kind, and zeros
for those that are missing. -/
def entries (x : ContentStructure) (scores : Dictionary Score) (g : AssignmentType) :
    Multiset Double :=
  Multiset.ofList ((x.gradedBlocks g.kind).map fun b => fractionOf scores b.id) +
    Multiset.replicate (g.minCount.toNat - (x.gradedBlocks g.kind).length) (.ofFloat 0.0)

/-- How many entries these are. -/
def entryCount (x : ContentStructure) (g : AssignmentType) : ℕ :=
  max (x.gradedBlocks g.kind).length g.minCount.toNat

/-- The sum from the least to the greatest. -/
def ascendingSum (entries : Multiset Double) : Float :=
  match (entries.sort AtMost).map Double.value with
  | [] => 0.0
  | x :: xs => xs.foldl (· + ·) x

/-- The section of an assignment type over a structure: of its entries the lowest are dropped,
and the others averaged. -/
structure Summarizes (x : ContentStructure) (scores : Dictionary Score) (g : AssignmentType)
    (s : SectionSummary) : Prop where
  kind : s.kind = g.kind
  weight : s.weight = g.weight.value
  dropped : s.dropped = min g.dropCount.toNat (entryCount x g)
  counted : s.counted = entryCount x g - s.dropped
  split : ∃ dropped counted : Multiset Double, dropped + counted = entries x scores g ∧
    dropped.card = s.dropped ∧ counted.card = s.counted ∧
    (∀ low ∈ dropped, ∀ high ∈ counted, AtMost low high) ∧
    s.average = if counted = 0 then 0.0 else ascendingSum counted / Float.ofNat counted.card

theorem coe_entriesFor (x : ContentStructure) (scores : Dictionary Score) (g : AssignmentType) :
    (entriesFor g ((x.gradedBlocks g.kind).map (·.id)) scores : Multiset Double) =
      entries x scores g := by
  have sorted := List.mergeSort_perm
    (padded g.minCount.toNat (((x.gradedBlocks g.kind).map (·.id)).map (fractionOf scores)))
    Double.atMost
  rw [entriesFor, Multiset.coe_eq_coe.2 sorted, padded, ← Multiset.coe_add, List.map_map,
    List.length_map, Multiset.coe_replicate]
  rfl

theorem pairwise_entriesFor (g : AssignmentType) (ids : List BlockId)
    (scores : Dictionary Score) : (entriesFor g ids scores).Pairwise AtMost := by
  rw [entriesFor, Double.mergeSort_eq]
  exact List.pairwise_insertionSort _ _

/-- Nothing that stands in front of the cut is above what stands behind it. -/
theorem atMost_of_cut {xs : List Double} (sorted : xs.Pairwise AtMost) (n : ℕ) :
    ∀ low ∈ xs.take n, ∀ high ∈ xs.drop n, AtMost low high := by
  rw [← List.take_append_drop n xs, List.pairwise_append] at sorted
  exact sorted.2.2

theorem sum_cons (x : Double) (xs : List Double) :
    sum (x :: xs) = (xs.map Double.value).foldl (· + ·) x.value := by
  rw [sum_eq, List.map_cons, List.foldl_cons, Decimal.negative_zero_add]

theorem average_sorted {xs : List Double} (sorted : xs.Pairwise AtMost) :
    average xs = if (xs : Multiset Double) = 0 then 0.0
      else ascendingSum xs / Float.ofNat (Multiset.card (xs : Multiset Double)) := by
  have ascending : (xs : Multiset Double).sort AtMost = xs := by
    rw [Multiset.coe_sort]
    exact List.mergeSort_of_pairwise (sorted.imp fun le => decide_eq_true le)
  cases xs with
  | nil => rfl
  | cons x xs =>
    rw [if_neg (Multiset.coe_eq_zero _ |>.not.2 (List.cons_ne_nil x xs)), ascendingSum, ascending,
      Multiset.coe_card]
    show sum (x :: xs) / _ = _
    rw [sum_cons]
    rfl

/-- **A section keeps the highest of its entries.** -/
theorem summarizes (x : ContentStructure) (scores : Dictionary Score) (g : AssignmentType) :
    Summarizes x scores g (summarize x.gradedBlocksByFormat scores g) := by
  have whole := coe_entriesFor x scores g
  have length := length_entriesFor g ((x.gradedBlocks g.kind).map (·.id)) scores
  have sorted := pairwise_entriesFor g ((x.gradedBlocks g.kind).map (·.id)) scores
  rw [List.length_map] at length
  rw [summarize, x.find?_gradedBlocksByFormat]
  generalize entriesFor g ((x.gradedBlocks g.kind).map (·.id)) scores = xs at *
  constructor
  · rfl
  · rfl
  · exact congrArg (min g.dropCount.toNat) length
  · rw [List.length_drop, length, entryCount]
  · let cut := min g.dropCount.toNat xs.length
    refine ⟨xs.take cut, xs.drop cut, ?_, ?_, rfl, atMost_of_cut sorted cut,
      average_sorted sorted.drop⟩
    · rw [Multiset.coe_add, List.take_append_drop, whole]
    · rw [Multiset.coe_card, List.length_take, min_eq_left (min_le_right _ _)]

end Calculation

/-- **Padding and dropping are exact.** When no groups are kept for the content of a valid
policy, the weighted calculator answers, whatever doubles the scores are, with one section for
each assignment type, in the order of the policy: of the fractions of all graded blocks of its
kind, padded with zeros, the lowest are dropped and the others averaged. The percent is the sum
of the weighted averages in that order, rounded to hundredths. -/
theorem sections_drop_lowest {w : World} {learner : LearnerId} {c : Context}
    {x : ContentStructure} {scores : Dictionary Score} (content : w.contentOf c = .ok x)
    (valid : x.gradingPolicy.validate = .ok ())
    (read : (w.scoresOf learner x.courseKey).1 = .ok scores)
    (fresh : w.cache.hit? x.courseKey x.version = none) :
    ∃ b : GradeBreakdown, (w.look (Calculator.weighted learner) c).1.1 = .ok b ∧
      List.Forall₂ (Calculation.Summarizes x scores) x.gradingPolicy.graders b.sections ∧
      b.percent = Decimal.nearestInteger
        ((b.sections.map fun s => s.weight * s.average).foldl (· + ·) 0.0 * 100.0) / 100.0 := by
  have answered := World.look_weighted_ok content valid read
  have grouped : (w.groups x.courseKey x.version x.gradedBlocksByFormat).1 =
      x.gradedBlocksByFormat := by
    rw [World.groups, DerivedCache.groups, fresh]
  rw [grouped] at answered
  refine ⟨_, answered, ?_, ?_⟩
  · rw [breakdown, List.forall₂_map_right_iff]
    exact List.forall₂_same.2 fun g _ => Calculation.summarizes x scores g
  · exact congrArg Calculation.hundredths (Calculation.total_eq _)

namespace Sample

/-- Homework counts twice, the first time without the lowest score, the second time with none
left. Of its blocks one is listed twice, one is not graded, and one has no format. -/
def repeated : CourseDefinition where
  key := key
  displayName := "Algebra"
  ends := none
  version := none
  editedOn := none
  gradingPolicy :=
    ⟨[⟨"Homework", "HW", .ofFloat 0.5, 3, 1⟩, ⟨"Homework", "HX", .ofFloat 0.25, 0, 9⟩], ∅⟩
  blocks := [⟨"hw1", "", some "Homework", true⟩, ⟨"draft", "", some "Homework", false⟩,
    ⟨"note", "", none, true⟩, ⟨"hw1", "again", some "Homework", true⟩]

end Sample

/-- A score counts for each time its block is listed, and a count of drops may exceed the
entries. -/
theorem sections_drop_lowest_repeated :
    let w : World := (Sample.world Sample.repeated).record ⟨1⟩ Sample.key "hw1" Sample.score
    let x := Sample.repeated.content
    let scores : Dictionary Score := Dictionary.empty.insert "hw1" Sample.score
    let c : Context := ⟨none, Sample.key, none, none, none⟩
    ∃ b : GradeBreakdown, (w.look (Calculator.weighted ⟨1⟩) c).1.1 = .ok b ∧
      List.Forall₂ (Calculation.Summarizes x scores) x.gradingPolicy.graders b.sections ∧
      (b.sections.map fun s => (s.counted, s.dropped)) = [(2, 1), (0, 2)] ∧
      (b.sections.map fun s => (s.average == 1.0, s.average == 0.0)) =
        [(true, false), (false, true)] := by
  intro w x scores c
  have content : w.contentOf c = .ok x := rfl
  have valid : x.gradingPolicy.validate = .ok () := Document.ok_of_toOption (by decide +kernel)
  have read : (w.scoresOf ⟨1⟩ x.courseKey).1 = .ok scores := rfl
  obtain ⟨b, answered, sections, -⟩ := sections_drop_lowest content valid read rfl
  have evaluated := World.look_weighted_ok content valid read
  refine ⟨b, answered, sections, ?_⟩
  rw [← Except.ok.inj (evaluated.symm.trans answered), breakdown, Calculation.summarize_eq]
  decide +kernel

end Gradebook
