/-
# Gradebook.Proofs.TotalOrder — bit patterns in order

Scores are sorted, and cutoffs chosen, by the total order of bit patterns. It tells apart
what numbers do not, the two zeros, and it has a place for NaN. On all else it refines the
order of the numbers (`le_of_atMost`): a pattern is an exponent in front of digits, and a
sign bit in front of both.

`Below` is the order of numbers between two patterns of which neither is NaN. Lists that are
below each other element by element stay so when both are sorted (`forall₂_mergeSort`),
whatever elements change their places.
-/
import Gradebook.Proofs.Doubles
import Gradebook.Decimal.Double
import Mathlib

namespace Gradebook

set_option autoImplicit false

open Float.Model (Format UnpackedFloat)
open Float.Model.UnpackedFloat

namespace Decimal

/-! ## Bit patterns in order -/

/-- Where a double lies, by what its pattern says. -/
noncomputable def placeOf : Kind → EReal
  | .nan => 0
  | .infinite negative => if negative then ⊥ else ⊤
  | .finite b =>
    if b.negative then -(magnitude b.significand b.exponent : EReal)
    else magnitude b.significand b.exponent

theorem extentOf_eq (u : UnpackedFloat) : extentOf u = placeOf (kindOf u) := by
  cases u with
  | notANumber => rfl
  | infinity s => cases s <;> rfl
  | zero s => cases s <;> simp [extentOf, realOf, placeOf, kindOf, magnitude]
  | finite s m e pos =>
    cases s
    · exact EReal.coe_neg _
    · rfl

theorem pow_eq (n : ℕ) : Nat.pow 2 n = 2 ^ n := rfl

/-- The sign bit is the highest one, and says nothing about the magnitude. -/
theorem kindOfBits_negative {n : ℕ} (below : n < 2 ^ 63) : kindOfBits (n + 2 ^ 63) =
    match kindOfBits n with
    | .finite b => .finite ⟨true, b.significand, b.exponent⟩
    | .infinite _ => .infinite true
    | .nan => .nan := by
  have field : (n + 2 ^ 63) / 2 ^ 52 % 2 ^ 11 = n / 2 ^ 52 % 2 ^ 11 := by omega
  have fraction : (n + 2 ^ 63) % 2 ^ 52 = n % 2 ^ 52 := by omega
  have negative : (n + 2 ^ 63) / 2 ^ 63 % 2 = 1 := by omega
  simp only [kindOfBits_fields, pow_eq, field, fraction, negative]
  split_ifs <;> rfl

/-- A pattern without a sign bit. -/
theorem kindOfBits_plain {n : ℕ} (below : n < 2 ^ 63) : kindOfBits n =
    if n / 2 ^ 52 = 2047 then if n % 2 ^ 52 = 0 then .infinite false else .nan
    else if n / 2 ^ 52 = 0 then .finite ⟨false, n % 2 ^ 52, -1074⟩
    else .finite ⟨false, n % 2 ^ 52 + 2 ^ 52, ((n / 2 ^ 52 : ℕ) : ℤ) - 1075⟩ := by
  have field : n / 2 ^ 52 % 2 ^ 11 = n / 2 ^ 52 := by omega
  have sign : n / 2 ^ 63 % 2 = 0 := by omega
  simp only [kindOfBits_fields, pow_eq, field, sign]
  rfl

/-- A finite number has its exponent, counted from the least one, in front of its digits. -/
theorem kindOfBits_finite {n : ℕ} (below : n < 2047 * 2 ^ 52) : ∃ m e,
    kindOfBits n = .finite ⟨false, m, e⟩ ∧ (n : ℤ) = (e + 1074) * 2 ^ 52 + m ∧ Canonical m e := by
  have plain := kindOfBits_plain (show n < 2 ^ 63 by omega)
  rw [if_neg (by omega)] at plain
  split_ifs at plain with subnormal
  · exact ⟨_, _, plain, by omega, (canonical_of_kindOfBits plain).1⟩
  · exact ⟨_, _, plain, by omega, (canonical_of_kindOfBits plain).1⟩

/-- Without a sign bit, what is not a number has the greatest patterns. -/
theorem le_of_kindOfBits {n : ℕ} (below : n < 2 ^ 63) (number : kindOfBits n ≠ .nan) :
    n ≤ 2047 * 2 ^ 52 := by
  by_contra beyond
  refine number ?_
  rw [kindOfBits_plain below, if_pos (by omega), if_neg (by omega)]

theorem placeOf_nonneg {n : ℕ} (below : n < 2 ^ 63) : 0 ≤ placeOf (kindOfBits n) := by
  rw [kindOfBits_plain below]
  split_ifs
  · exact le_top
  · exact le_rfl
  · exact EReal.coe_nonneg.2 (mul_nonneg (Nat.cast_nonneg _) (two_zpow_pos _).le)
  · exact EReal.coe_nonneg.2 (mul_nonneg (Nat.cast_nonneg _) (two_zpow_pos _).le)

/-- **Of patterns without a sign bit, the greater one is that of the greater number.** -/
theorem placeOf_mono {a b : ℕ} (le : a ≤ b) (below : b < 2 ^ 63) (number : kindOfBits b ≠ .nan) :
    placeOf (kindOfBits a) ≤ placeOf (kindOfBits b) := by
  rcases (le_of_kindOfBits below number).lt_or_eq with finite | rfl
  · obtain ⟨m, e, first, digits, canonical⟩ := kindOfBits_finite (le.trans_lt finite)
    obtain ⟨n, f, second, digits', canonical'⟩ := kindOfBits_finite finite
    rw [first, second]
    refine EReal.coe_le_coe_iff.2 ?_
    have bound := canonical.below
    have bound' := canonical'.below
    have normal := canonical.normal
    have least := canonical'.least
    rcases lt_trichotomy e f with lower | rfl | higher
    · exact (canonical.lt_of_exponent_lt canonical' lower).le
    · have : m ≤ n := by omega
      exact mul_le_mul_of_nonneg_right (Nat.cast_le.2 this) (two_zpow_pos e).le
    · omega
  · exact le_top

/-- The sign bit changes the side. -/
theorem placeOf_negative {n : ℕ} (below : n < 2 ^ 63) :
    placeOf (kindOfBits (n + 2 ^ 63)) = -placeOf (kindOfBits n) := by
  rw [kindOfBits_negative below, kindOfBits_plain below]
  split_ifs
  · rfl
  · simp [placeOf]
  · rfl
  · rfl

theorem placeOf_of_orderKey {a b : ℕ} (ha : a < 2 ^ 64) (hb : b < 2 ^ 64)
    (number : kindOfBits a ≠ .nan) (number' : kindOfBits b ≠ .nan)
    (le : Double.orderKeyOfBits a ≤ Double.orderKeyOfBits b) :
    placeOf (kindOfBits a) ≤ placeOf (kindOfBits b) := by
  unfold Double.orderKeyOfBits at le
  simp only [pow_eq] at le
  split_ifs at le with above above' above'
  · exact placeOf_mono (by omega) above' number'
  · omega
  · obtain ⟨n, rfl⟩ : ∃ n, a = n + 2 ^ 63 := ⟨a - 2 ^ 63, by omega⟩
    rw [placeOf_negative (by omega)]
    have left := placeOf_nonneg (show n < 2 ^ 63 by omega)
    exact (EReal.neg_le_neg_iff.2 left).trans (neg_zero.le.trans (placeOf_nonneg above'))
  · obtain ⟨n, rfl⟩ : ∃ n, a = n + 2 ^ 63 := ⟨a - 2 ^ 63, by omega⟩
    obtain ⟨m, rfl⟩ : ∃ m, b = m + 2 ^ 63 := ⟨b - 2 ^ 63, by omega⟩
    rw [placeOf_negative (by omega), placeOf_negative (by omega), EReal.neg_le_neg_iff]
    refine placeOf_mono (by omega) (by omega) fun nan => number ?_
    rw [kindOfBits_negative (by omega), nan]

end Decimal

namespace Double

/-- What a double stands for is what its pattern says, but for the pattern of a NaN. -/
theorem unpack_value (x : Double) :
    x.value.toModel.unpack = unpack Format.binary64 x.bits.toBitVec := by
  show (Float.Model.pack (unpack Format.binary64 x.bits.toBitVec)).unpack = _
  have read := Decimal.kindOfBits_eq x.bits.toBitVec
  cases unpacked : unpack Format.binary64 x.bits.toBitVec with
  | notANumber => exact unpack_packedNaN
  | infinity s => exact Decimal.unpack_pack_infinity s
  | zero s => exact Decimal.unpack_pack_zero s
  | finite s m e pos =>
    rw [unpacked] at read
    obtain ⟨canonical, small⟩ := Decimal.canonical_of_kindOfBits read
    exact Decimal.unpack_pack_finite pos canonical small

theorem kindOf_value (x : Double) :
    Decimal.kindOf x.value.toModel.unpack = Decimal.kindOfBits x.bits.toNat := by
  rw [unpack_value]
  exact (Decimal.kindOfBits_eq _).symm

theorem extent_value (x : Double) :
    Decimal.extent x.value = Decimal.placeOf (Decimal.kindOfBits x.bits.toNat) := by
  rw [Decimal.extent, Decimal.extentOf_eq, kindOf_value]

theorem number_bits {x : Double} (h : x.isNaN = false) :
    Decimal.kindOfBits x.bits.toNat ≠ .nan := by
  rw [← kindOf_value]
  have number := Decimal.isNaN_eq_false.1 h
  cases unpacked : x.value.toModel.unpack with
  | notANumber => exact absurd unpacked number
  | _ => nofun

/-- **The total order refines the order of numbers.** -/
theorem le_of_atMost {x y : Double} (hx : x.isNaN = false) (hy : y.isNaN = false)
    (le : atMost x y = true) : x.value ≤ y.value := by
  rw [Decimal.le_iff_extent hx hy, extent_value, extent_value]
  exact Decimal.placeOf_of_orderKey x.bits.toNat_lt y.bits.toNat_lt (number_bits hx)
    (number_bits hy) (of_decide_eq_true le)

/-- Neither is NaN, and the first is not greater. -/
def Below (x y : Double) : Prop := x.value ≤ y.value

namespace Below

variable {x y z : Double}

theorem number (h : Below x y) : x.isNaN = false := (Decimal.number_of_le h).1

theorem number' (h : Below x y) : y.isNaN = false := (Decimal.number_of_le h).2

theorem trans (h : Below x y) (k : Below y z) : Below x z := Decimal.le_trans h k

theorem of_atMost (hx : x.isNaN = false) (hy : y.isNaN = false) (le : atMost x y = true) :
    Below x y := le_of_atMost hx hy le

theorem of_not_atMost (hx : x.isNaN = false) (hy : y.isNaN = false) (h : ¬atMost x y = true) :
    Below y x := by
  refine of_atMost hy hx ?_
  simpa [h] using atMost_total x y

end Below

/-! ## Sorted lists -/

/-- The total order of doubles, as a proposition. -/
def AtMost (x y : Double) : Prop := atMost x y = true

instance : DecidableRel AtMost := fun x y => inferInstanceAs (Decidable (atMost x y = true))

instance : Std.Total AtMost := ⟨fun x y => by simpa [AtMost] using atMost_total x y⟩

instance : IsTrans Double AtMost := ⟨fun _ _ _ => atMost_trans⟩

instance : Std.Antisymm AtMost := ⟨fun _ _ h k => orderKey_inj
  (le_antisymm (of_decide_eq_true h) (of_decide_eq_true k))⟩

theorem mergeSort_eq (xs : List Double) : xs.mergeSort atMost = xs.insertionSort AtMost := by
  rw [← List.mergeSort_eq_insertionSort]
  congr 1
  funext x y
  exact Bool.decide_eq_true.symm

/-- What stands first in a sorted list is inserted first. -/
theorem orderedInsert_first {x : Double} {xs : List Double} (h : (x :: xs).Pairwise AtMost) :
    xs.orderedInsert AtMost x = x :: xs := by
  cases xs with
  | nil => rfl
  | cons y ys =>
    exact List.orderedInsert_cons_of_le _ _ (List.rel_of_pairwise_cons h List.mem_cons_self)

/-- Lists of which one is below the other, element by element, stay so under insertion. -/
theorem forall₂_orderedInsert {xs ys : List Double} (h : List.Forall₂ Below xs ys)
    (sorted : xs.Pairwise AtMost) (sorted' : ys.Pairwise AtMost) {x y : Double}
    (below : Below x y) :
    List.Forall₂ Below (xs.orderedInsert AtMost x) (ys.orderedInsert AtMost y) := by
  induction h generalizing x y with
  | nil => exact .cons below .nil
  | @cons a b as bs first rest ih =>
    have insert {x y : Double} (below : Below x y) := ih sorted.of_cons sorted'.of_cons below
    by_cases left : AtMost x a <;> by_cases right : AtMost y b
    · rw [List.orderedInsert_cons_of_le _ _ left, List.orderedInsert_cons_of_le _ _ right]
      exact .cons below (.cons first rest)
    · -- `y` moves behind `b`, so `a`, which stands against it, is inserted again.
      rw [List.orderedInsert_cons_of_le _ _ left, List.orderedInsert_of_not_le _ _ right,
        ← orderedInsert_first sorted]
      have under := Below.of_not_atMost below.number' first.number' right
      exact .cons ((Below.of_atMost below.number first.number left).trans first)
        (insert (first.trans under))
    · rw [List.orderedInsert_of_not_le _ _ left, List.orderedInsert_cons_of_le _ _ right,
        ← orderedInsert_first sorted']
      have under := Below.of_not_atMost below.number first.number left
      exact .cons (under.trans below)
        (insert (below.trans (.of_atMost below.number' first.number' right)))
    · rw [List.orderedInsert_of_not_le _ _ left, List.orderedInsert_of_not_le _ _ right]
      exact .cons first (insert below)

/-- **Sorting keeps lists below each other.** -/
theorem forall₂_mergeSort {xs ys : List Double} (h : List.Forall₂ Below xs ys) :
    List.Forall₂ Below (xs.mergeSort atMost) (ys.mergeSort atMost) := by
  rw [mergeSort_eq, mergeSort_eq]
  induction h with
  | nil => exact .nil
  | cons first rest ih =>
    exact forall₂_orderedInsert ih (List.pairwise_insertionSort _ _)
      (List.pairwise_insertionSort _ _) first

end Double

end Gradebook
