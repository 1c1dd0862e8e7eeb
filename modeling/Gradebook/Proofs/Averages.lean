/-
# Gradebook.Proofs.Averages — averages, totals and percents of fractions

A score counts as a fraction, a double from zero to one, and so do weights. Adding fractions
rounds, but monotonically, and never counts further than the number of terms
(`sums_of_fractions`); hence averages are fractions again, weighted averages too, and all of
them are in the order of what they are computed from. The same statement bounds the total of
a policy by the sum of weights that its validation has computed, term by term.

A total that is within the allowance of a valid policy is rounded to a whole number of
hundredths, a hundred at most (`hundredths_eq`).
-/
import Gradebook.Calculation
import Gradebook.Proofs.DoubleArithmetic
import Gradebook.Proofs.TotalOrder
import Mathlib

namespace Gradebook

set_option autoImplicit false

open Decimal (Stands Nearest Unsigned reach stands_zero stands_one stands_ofNat nearest_ofNat
  number_of_le)
open GradingPolicy (isFraction)

/-! ## Fractions -/

theorem stands_negative_zero : Stands (-0.0) 0 := ⟨rfl, rfl⟩

/-- **A fraction is a double that stands for a number from zero to one.** -/
theorem isFraction_iff {x : Float} : isFraction x = true ↔ ∃ a, Stands x a ∧ 0 ≤ a ∧ a ≤ 1 := by
  simp only [isFraction, Bool.and_eq_true, decide_eq_true_eq]
  constructor
  · rintro ⟨above, below⟩
    exact stands_zero.between stands_one (number_of_le above).2 above below
  · rintro ⟨a, stands, nonneg, le⟩
    exact ⟨(stands_zero.le_iff stands).2 nonneg, (stands.le_iff stands_one).2 le⟩

/-! ## Sums of fractions -/

/-- Two fractions, the first not above the second. -/
structure Under (x y : Float) : Prop where
  lower : isFraction x = true
  upper : isFraction y = true
  le : x ≤ y

theorem Under.refl {x : Float} (h : isFraction x = true) : Under x x := by
  obtain ⟨a, stands, -⟩ := isFraction_iff.1 h
  exact ⟨h, h, (stands.le_iff stands).2 le_rfl⟩

/-- One more fraction: the sum does not count beyond where doubles count. -/
theorem Decimal.Stands.add_fraction {s x : Float} {a b : ℝ} {n : ℕ} (h : Stands s a) (k : Stands x b)
    (counted : a ≤ reach n) (fraction : 0 ≤ b ∧ b ≤ 1) :
    ∃ c, Stands (s + x) c ∧ a ≤ c ∧ c ≤ reach (n + 1) := by
  have sum := h.add k
  have next : Nearest (reach n + 1 : ℝ) (Float.ofNat (reach (n + 1))) := by
    rcases Nat.lt_or_ge n (2 ^ 53) with short | long
    · have first : reach n = n := Nat.min_eq_left short.le
      have second : reach (n + 1) = n + 1 := Nat.min_eq_left short
      rw [first, second]
      exact_mod_cast nearest_ofNat (n + 1)
    · -- The number after `2 ^ 53` has no double, and is rounded down.
      have first : reach n = 2 ^ 53 := Nat.min_eq_right long
      have second : reach (n + 1) = 2 ^ 53 := Nat.min_eq_right (long.trans n.le_succ)
      have lost : Float.ofNat (2 ^ 53) = Float.ofNat (2 ^ 53 + 1) := rfl
      rw [first, second, lost]
      exact_mod_cast nearest_ofNat (2 ^ 53 + 1)
  refine h.between (stands_ofNat (Nat.min_le_right ..)) sum.number ?_ ?_
  · exact h.nearest.le sum (le_add_of_nonneg_right fraction.1)
  · exact sum.le next (add_le_add counted fraction.2)

/-- **Sums of fractions** count no further than their terms, and are in the order of their
terms. -/
theorem sums_of_fractions {xs ys : List Float} (under : List.Forall₂ Under xs ys) :
    ∀ {s t : Float} {a b : ℝ} {n : ℕ}, Stands s a → Stands t b → 0 ≤ a → a ≤ b → b ≤ reach n →
      ∃ c d, Stands (xs.foldl (· + ·) s) c ∧ Stands (ys.foldl (· + ·) t) d ∧ a ≤ c ∧ c ≤ d ∧
        d ≤ reach (n + ys.length) := by
  induction under with
  | nil =>
    intro s t a b n left right nonneg le counted
    exact ⟨a, b, left, right, le_rfl, le, counted⟩
  | @cons x y xs ys first rest ih =>
    intro s t a b n left right nonneg le counted
    obtain ⟨p, stands, fraction⟩ := isFraction_iff.1 first.lower
    obtain ⟨q, stands', fraction'⟩ := isFraction_iff.1 first.upper
    obtain ⟨c, sum, above, -⟩ := left.add_fraction stands (le.trans counted) fraction
    obtain ⟨d, sum', above', counted'⟩ :=
      right.add_fraction stands' counted fraction'
    have le' : c ≤ d := (sum.le_iff sum').1
      ((left.add stands).le (right.add stands') (add_le_add le ((stands.le_iff stands').1 first.le)))
    obtain ⟨c', d', total, total', above'', le'', counted''⟩ :=
      ih sum sum' (nonneg.trans above) le' counted'
    refine ⟨c', d', total, total', above.trans above'', le'', ?_⟩
    rwa [List.length_cons, ← Nat.succ_eq_add_one, Nat.add_succ, ← Nat.succ_add]

theorem fractions_of_under {xs ys : List Float} (under : List.Forall₂ Under xs ys) :
    ∀ x ∈ xs, isFraction x = true := by
  induction under with
  | nil => exact fun _ none => absurd none List.not_mem_nil
  | cons first rest ih => exact List.forall_mem_cons.2 ⟨first.lower, ih⟩

/-- A sum that starts without a sign has none. -/
theorem unsigned_sum {xs : List Float} (fractions : ∀ x ∈ xs, isFraction x = true) :
    ∀ {s : Float} {a : ℝ} {n : ℕ}, Stands s a → 0 ≤ a → a ≤ reach n → Unsigned s →
      Unsigned (xs.foldl (· + ·) s) := by
  induction xs with
  | nil =>
    intro s a n _ _ _ plain
    exact plain
  | cons x xs ih =>
    intro s a n stands nonneg counted plain
    obtain ⟨b, term, above, below⟩ := isFraction_iff.1 (fractions x List.mem_cons_self)
    obtain ⟨c, sum, more, counted'⟩ := stands.add_fraction term counted ⟨above, below⟩
    exact ih (fun y member => fractions y (List.mem_cons_of_mem x member)) sum
      (nonneg.trans more) counted' (stands.add_unsigned term nonneg above plain)

/-! ## Averages -/

namespace Calculation

theorem sum_eq (xs : List Double) : sum xs = (xs.map Double.value).foldl (· + ·) (-0.0) := by
  rw [List.foldl_map]
  rfl

/-- **An average of fractions is a fraction**, and in the order of its terms. -/
theorem average_under {xs ys : List Double}
    (under : List.Forall₂ Under (xs.map Double.value) (ys.map Double.value)) :
    Under (average xs) (average ys) := by
  have length : xs.length = ys.length := by simpa using under.length_eq
  cases xs with
  | nil =>
    obtain rfl : ys = [] := List.length_eq_zero_iff.1 length.symm
    exact .refl rfl
  | cons x xs =>
    obtain ⟨a, b, left, right, nonneg, le, counted⟩ :=
      sums_of_fractions under stands_negative_zero stands_negative_zero le_rfl le_rfl
        (n := 0) (Nat.cast_nonneg _)
    rw [Nat.zero_add, List.length_map, ← length] at counted
    obtain ⟨c, above, below, divides⟩ :=
      Decimal.exists_inverse_ofNat (n := (x :: xs).length) (Nat.succ_pos _)
    have within {d : ℝ} {z : Float} (nonneg : 0 ≤ d) (counted : d ≤ reach (x :: xs).length)
        (nearest : Nearest (d * c) z) : isFraction z = true :=
      isFraction_iff.2 (nearest.stands stands_zero stands_one (mul_nonneg nonneg above)
        ((mul_le_mul_of_nonneg_right counted above).trans below))
    have first : average (x :: xs) = sum (x :: xs) / Float.ofNat (x :: xs).length := rfl
    have second : average ys = sum ys / Float.ofNat (x :: xs).length := by
      rw [length]
      cases ys with
      | nil => exact absurd length (Nat.succ_ne_zero _)
      | cons y ys => rfl
    rw [← sum_eq] at left right
    rw [first, second]
    exact ⟨within nonneg (le.trans counted) (divides left),
      within (nonneg.trans le) counted (divides right),
      (divides left).le (divides right) (mul_le_mul_of_nonneg_right le above)⟩

/-! ## Weighted averages -/

theorem weighted_under {w x y : Float} (weight : isFraction w = true) (under : Under x y) :
    Under (w * x) (w * y) ∧ Under (w * x) w := by
  obtain ⟨c, stands, nonneg, le⟩ := isFraction_iff.1 weight
  obtain ⟨a, left, above, below⟩ := isFraction_iff.1 under.lower
  obtain ⟨b, right, above', below'⟩ := isFraction_iff.1 under.upper
  have order := (left.le_iff right).1 under.le
  have within {d : ℝ} {z : Float} (h : Stands z d) (above : 0 ≤ d) (below : d ≤ 1) :
      isFraction (w * z) = true :=
    isFraction_iff.2 ((stands.mul h).stands stands_zero stands_one
      (mul_nonneg nonneg above) (mul_le_one₀ le above below))
  refine ⟨⟨within left above below, within right above' below', ?_⟩,
    within left above below, weight, ?_⟩
  · exact (stands.mul left).le (stands.mul right) (mul_le_mul_of_nonneg_left order nonneg)
  · exact (stands.mul left).le stands.nearest (mul_le_of_le_one_right nonneg below)

/-- The share of a section in the grade. -/
def share (s : SectionSummary) : Float := s.weight * s.average

theorem total_eq (sections : List SectionSummary) :
    total sections = (sections.map share).foldl (· + ·) 0.0 := by
  rw [List.foldl_map]
  rfl

end Calculation

namespace GradingPolicy

theorem checkGrader_ok {g : AssignmentType} (h : checkGrader g = .ok ()) :
    isFraction g.weight.value = true := by
  unfold checkGrader at h
  split_ifs at h with empty outside
  simpa using outside

/-- The sum of the weights is that of fractions. -/
theorem sumWeights_ok {gs : List AssignmentType} {s t : Float} (h : sumWeights s gs = .ok t) :
    (∀ g ∈ gs, isFraction g.weight.value = true) ∧
      t = (gs.map fun g => g.weight.value).foldl (· + ·) s := by
  induction gs generalizing s with
  | nil => exact ⟨fun _ none => absurd none List.not_mem_nil, (Except.ok.inj h).symm⟩
  | cons g gs ih =>
    rw [sumWeights] at h
    cases check : checkGrader g with
    | error e => simp [check] at h
    | ok u =>
      rw [check] at h
      obtain ⟨fractions, sum⟩ := ih h
      refine ⟨fun k member => ?_, sum⟩
      rcases List.mem_cons.1 member with rfl | member
      · exact checkGrader_ok check
      · exact fractions k member

theorem checkCutoffs_ok {entries : List (String × Double)} (h : checkCutoffs entries = .ok ()) :
    ∀ e ∈ entries, isFraction e.2.value = true := by
  induction entries with
  | nil => exact fun _ none => absurd none List.not_mem_nil
  | cons e rest ih =>
    rw [checkCutoffs] at h
    split_ifs at h with fraction
    intro k member
    rcases List.mem_cons.1 member with rfl | member
    · exact fraction
    · exact ih h k member

/-- What an accepted policy promises. -/
structure Accepted (p : GradingPolicy) : Prop where
  weights : ∀ g ∈ p.graders, isFraction g.weight.value = true
  sum : ¬(p.graders.map fun g => g.weight.value).foldl (· + ·) 0.0 > 1.0 + tolerance
  cutoffs : ∀ e ∈ p.cutoffs.entries, isFraction e.2.value = true

theorem accepted {p : GradingPolicy} (h : p.validate = .ok ()) : p.Accepted := by
  unfold validate at h
  cases sum : sumWeights 0.0 p.graders with
  | error e => simp [sum] at h
  | ok t =>
    obtain ⟨weights, rfl⟩ := sumWeights_ok sum
    rw [sum] at h
    dsimp only at h
    split_ifs at h with above
    exact ⟨weights, above, checkCutoffs_ok h⟩

end GradingPolicy

namespace Calculation

/-! ## Percents -/

theorem stands_hundred : Stands 100.0 100 := by
  refine ⟨rfl, ?_⟩
  show ((Decimal.magnitude (25 * 2 ^ 48) (-46) : ℝ) : EReal) = (100 : ℝ)
  norm_num [Decimal.magnitude]

/-- A little more than all. -/
theorem stands_bound : Stands 100.25 100.25 := by
  refine ⟨rfl, ?_⟩
  show ((Decimal.magnitude (401 * 2 ^ 44) (-46) : ℝ) : EReal) = (100.25 : ℝ)
  norm_num [Decimal.magnitude]

/-- What the weights may sum to. -/
theorem stands_allowance : ∃ a, Stands (1.0 + GradingPolicy.tolerance) a ∧ a ≤ 1.0025 := by
  refine ⟨Decimal.magnitude 4503599631874096 (-52), ⟨rfl, rfl⟩, ?_⟩
  norm_num [Decimal.magnitude]

/-- The percent of a total is a whole number of hundredths; `y` is the total in hundredths. -/
theorem hundredths_eq {x : Float} {a : ℝ} (h : Stands x a) (plain : Unsigned x) (nonneg : 0 ≤ a)
    (below : a ≤ 1.0025) : ∃ b, Stands (x * 100.0) b ∧ ⌊b + 1 / 2⌋₊ ≤ 100 ∧
      hundredths x = Float.ofNat ⌊b + 1 / 2⌋₊ / 100.0 := by
  obtain ⟨b, stands, above, bound⟩ := (h.mul stands_hundred).stands stands_zero stands_bound
    (by positivity) (by linarith)
  have unsigned := h.mul_unsigned stands_hundred nonneg (by norm_num) plain
  refine ⟨b, stands, ?_, ?_⟩
  · rw [← Nat.lt_succ_iff, Nat.floor_lt (by positivity)]
    push_cast
    linarith
  · rw [hundredths, Decimal.nearestInteger_eq stands unsigned (bound.trans_lt (by norm_num))]

theorem hundredths_under {k l : ℕ} (le : k ≤ l) (most : l ≤ 100) :
    Under (Float.ofNat k / 100.0) (Float.ofNat l / 100.0) := by
  have divides {n : ℕ} (few : n ≤ 100) : Nearest (n / 100) (Float.ofNat n / 100.0) :=
    (stands_ofNat (by omega)).div stands_hundred (by norm_num)
  have fraction {n : ℕ} (few : n ≤ 100) : isFraction (Float.ofNat n / 100.0) = true :=
    isFraction_iff.2 ((divides few).stands stands_zero stands_one (by positivity)
      (div_le_one_of_le₀ (by exact_mod_cast few) (by norm_num)))
  exact ⟨fraction (le.trans most), fraction most, (divides (le.trans most)).le (divides most)
    (div_le_div_of_nonneg_right (Nat.cast_le.2 le) (by norm_num))⟩

/-- A section that averages fractions, with the weight of its assignment type. -/
def Weighs (g : AssignmentType) (s : SectionSummary) : Prop :=
  s.weight = g.weight.value ∧ isFraction s.average = true

theorem Weighs.share {g : AssignmentType} {s : SectionSummary} (h : Weighs g s)
    (weight : isFraction g.weight.value = true) : Under (share s) g.weight.value := by
  obtain ⟨same, average⟩ := h
  rw [Calculation.share, same]
  exact (weighted_under weight (.refl average)).2

theorem shares_under {graders : List AssignmentType} {sections : List SectionSummary}
    (weighs : List.Forall₂ Weighs graders sections)
    (weights : ∀ g ∈ graders, isFraction g.weight.value = true) :
    List.Forall₂ Under (sections.map share) (graders.map fun g => g.weight.value) := by
  induction weighs with
  | nil => exact .nil
  | cons first rest ih =>
    obtain ⟨weight, weights⟩ := List.forall_mem_cons.1 weights
    exact .cons (first.share weight) (ih weights)

/-- **The total of a valid policy** is bounded by what its weights sum to. -/
theorem total_within {p : GradingPolicy} (accepted : p.Accepted) {sections : List SectionSummary}
    (weighs : List.Forall₂ Weighs p.graders sections) :
    ∃ a, Stands (total sections) a ∧ Unsigned (total sections) ∧ 0 ≤ a ∧ a ≤ 1.0025 := by
  have shares := shares_under weighs accepted.weights
  obtain ⟨a, b, left, right, nonneg, le, -⟩ :=
    sums_of_fractions shares stands_zero stands_zero le_rfl le_rfl (n := 0) (Nat.cast_nonneg _)
  have plain := unsigned_sum (fractions_of_under shares) (n := 0) stands_zero le_rfl
    (Nat.cast_nonneg _) rfl
  rw [← total_eq] at left plain
  obtain ⟨c, allowance, few⟩ := stands_allowance
  have within : b ≤ c := (right.le_iff allowance).1
    ((Decimal.not_lt_iff allowance.number right.number).1 accepted.sum)
  exact ⟨a, left, plain, nonneg, (le.trans within).trans few⟩

end Calculation

/-! ## Scores as fractions -/

theorem Double.value_ofFloat (x : Float) : (Double.ofFloat x).value = x := Float.ofBits_toBits x

namespace Score

theorem isFraction_clamped {x : Double} (number : (clamped x).isNaN = false) :
    isFraction (clamped x).value = true := by
  unfold clamped at number ⊢
  split_ifs at number ⊢ with below above
  · rw [Double.value_ofFloat]
    rfl
  · rw [Double.value_ofFloat]
    rfl
  · rw [isFraction, Bool.and_eq_true, decide_eq_true_eq, decide_eq_true_eq]
    exact ⟨(Decimal.not_lt_iff number stands_zero.number).1 below,
      (Decimal.not_lt_iff stands_one.number number).1 above⟩

/-- The fraction of a score is one, unless it is not a number. -/
theorem isFraction_fraction {score : Score} (number : score.fraction.isNaN = false) :
    isFraction score.fraction.value = true := by
  unfold fraction at number ⊢
  split_ifs at number ⊢ with nothing
  · rw [Double.value_ofFloat]
    rfl
  · exact isFraction_clamped number

end Score

namespace Calculation

/-- No score has a fraction that is not a number. -/
def Clean (scores : Dictionary Score) : Prop :=
  ∀ id score, scores.find? id = some score → score.fraction.isNaN = false

theorem Clean.fractionOf {scores : Dictionary Score} (clean : Clean scores) (id : BlockId) :
    (fractionOf scores id).isNaN = false := by
  unfold Calculation.fractionOf
  cases found : scores.find? id with
  | none => rfl
  | some score => exact clean id score found

theorem isFraction_fractionOf {scores : Dictionary Score} {id : BlockId}
    (number : (fractionOf scores id).isNaN = false) :
    isFraction (fractionOf scores id).value = true := by
  unfold fractionOf at number ⊢
  cases found : scores.find? id with
  | none => rfl
  | some score =>
    rw [found] at number
    exact Score.isFraction_fraction number

theorem isFraction_padded {count : ℕ} {xs : List Double}
    (h : ∀ x ∈ xs, isFraction x.value = true) : ∀ x ∈ padded count xs, isFraction x.value = true := by
  intro x member
  rcases List.mem_append.1 member with given | missing
  · exact h x given
  · rw [List.eq_of_mem_replicate missing]
    rfl

theorem below_padded {count : ℕ} {xs ys : List Double} (h : List.Forall₂ Double.Below xs ys) :
    List.Forall₂ Double.Below (padded count xs) (padded count ys) := by
  have zeros : List.Forall₂ Double.Below (List.replicate (count - ys.length) (.ofFloat 0.0))
      (List.replicate (count - ys.length) (.ofFloat 0.0)) :=
    List.forall₂_same.2 fun x member => by
      rw [List.eq_of_mem_replicate member]
      exact .of_atMost rfl rfl (Double.atMost_refl _)
  rw [padded, padded, h.length_eq]
  exact List.rel_append h zeros

theorem isFraction_entries {g : AssignmentType} {ids : List BlockId} {s : Dictionary Score}
    (clean : ∀ id ∈ ids, (fractionOf s id).isNaN = false) :
    ∀ x ∈ entriesFor g ids s, isFraction x.value = true := by
  intro x member
  refine isFraction_padded ?_ x (List.mem_mergeSort.1 member)
  intro y given
  obtain ⟨id, inside, rfl⟩ := List.mem_map.1 given
  exact isFraction_fractionOf (clean id inside)

theorem under_of_below {xs ys : List Double} (below : List.Forall₂ Double.Below xs ys)
    (fractions : ∀ x ∈ xs, isFraction x.value = true)
    (fractions' : ∀ y ∈ ys, isFraction y.value = true) :
    List.Forall₂ Under (xs.map Double.value) (ys.map Double.value) := by
  induction below with
  | nil => exact .nil
  | cons first rest ih =>
    obtain ⟨lower, fractions⟩ := List.forall_mem_cons.1 fractions
    obtain ⟨upper, fractions'⟩ := List.forall_mem_cons.1 fractions'
    exact .cons ⟨lower, upper, first⟩ (ih fractions fractions')

/-- **Entries of scores that are nowhere greater** are nowhere greater themselves, whatever
place they are sorted to. -/
theorem entries_under {g : AssignmentType} {ids : List BlockId} {s t : Dictionary Score}
    (le : ∀ id ∈ ids, Double.Below (fractionOf s id) (fractionOf t id)) :
    List.Forall₂ Under ((entriesFor g ids s).map Double.value)
      ((entriesFor g ids t).map Double.value) := by
  have below : List.Forall₂ Double.Below (ids.map (fractionOf s)) (ids.map (fractionOf t)) := by
    rw [List.forall₂_map_left_iff, List.forall₂_map_right_iff]
    exact List.forall₂_same.2 le
  exact under_of_below (Double.forall₂_mergeSort (below_padded below))
    (isFraction_entries fun id inside => (le id inside).number)
    (isFraction_entries fun id inside => (le id inside).number')

theorem length_entriesFor (g : AssignmentType) (ids : List BlockId) (s : Dictionary Score) :
    (entriesFor g ids s).length = max ids.length g.minCount.toNat := by
  rw [entriesFor, List.length_mergeSort, padded, List.length_append, List.length_replicate,
    List.length_map]
  omega

/-- A section with its entries sorted by insertion, as a small one is evaluated. -/
theorem summarize_eq (groups : GradedBlocks) (scores : Dictionary Score) :
    summarize groups scores = fun g =>
      let entries := (padded g.minCount.toNat
        (((groups.find? g.kind).getD []).map (fractionOf scores))).insertionSort Double.AtMost
      let dropped := min g.dropCount.toNat entries.length
      let counted := entries.drop dropped
      ⟨g.kind, g.weight.value, average counted, counted.length, dropped⟩ := by
  funext g
  rw [summarize, entriesFor, Double.mergeSort_eq]

/-- **A section under scores that are nowhere less** counts as many entries and averages no
less. -/
theorem summarize_under {groups : GradedBlocks} {s t : Dictionary Score} {g : AssignmentType}
    (le : ∀ id ∈ (groups.find? g.kind).getD [],
      Double.Below (fractionOf s id) (fractionOf t id)) :
    (summarize groups s g).counted = (summarize groups t g).counted ∧
      (summarize groups s g).dropped = (summarize groups t g).dropped ∧
      Under (summarize groups s g).average (summarize groups t g).average := by
  have entries := entries_under (g := g) le
  have length := (length_entriesFor g ((groups.find? g.kind).getD []) s).trans
    (length_entriesFor g _ t).symm
  simp only [summarize, List.length_drop, length]
  refine ⟨trivial, trivial, average_under ?_⟩
  rw [List.map_drop, List.map_drop]
  exact List.forall₂_drop _ entries

theorem weighs_sections {groups : GradedBlocks} {s : Dictionary Score} (gs : List AssignmentType)
    (fractions : ∀ g, isFraction (summarize groups s g).average = true) :
    List.Forall₂ Weighs gs (gs.map (summarize groups s)) := by
  rw [List.forall₂_map_right_iff]
  exact List.forall₂_same.2 fun g _ => ⟨rfl, fractions g⟩

end Calculation

end Gradebook
