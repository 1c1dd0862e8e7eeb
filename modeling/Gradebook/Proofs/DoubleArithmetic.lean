/-
# Gradebook.Proofs.DoubleArithmetic — what sums, products and quotients of doubles stand for

Doubles that stand for numbers are added, multiplied and divided by taking the nearest double
of the exact sum, product or quotient (`Stands.add`, `Stands.mul`, `Stands.div`). A natural
number becomes its nearest double, exactly up to `2 ^ 53` (`stands_ofNat`); division by one is
multiplication by a factor and rounding, also where the double of the number is infinite
(`exists_inverse_ofNat`). The nearest integer of a small number that is not negative is that
number with a half added, cut off at the point (`nearestInteger_eq`).

All of this is said through `Nearest`, so that order and bounds come from `Nearest.le` and
`Nearest.stands` alone. Only `Stands.add_mono`, that adding a number keeps the order, is said of
the infinities too. What a zero does to the sign is said by `Unsigned`.
-/
import Gradebook.Proofs.Doubles
import Mathlib

namespace Gradebook.Decimal

set_option autoImplicit false

open Float.Model (Format totalExponent UnpackedFloat)
open Float.Model.UnpackedFloat

/-! ## Signs -/

/-- A sign as a factor. -/
def factor : Sign → ℝ
  | .positive => 1
  | .negative => -1

theorem realOf_finite (s : Sign) (m : ℕ) (e : ℤ) (pos : 0 < m) :
    realOf (.finite s m e pos) = factor s * magnitude m e := by
  cases s <;> simp [realOf, factor]

theorem cast_apply (s : Sign) (m : ℕ) : ((s.apply m : ℤ) : ℝ) = factor s * m := by
  cases s <;> simp [Sign.apply, factor]

theorem factor_mul (s t : Sign) : factor (s * t) = factor s * factor t := by
  cases s <;> cases t
  · exact (neg_one_mul (-1)).trans (neg_neg 1) |>.symm
  · exact (mul_one _).symm
  · exact (one_mul _).symm
  · exact (one_mul _).symm

theorem factor_div (s t : Sign) : factor (s / t) = factor s / factor t := by
  cases s <;> cases t
  · exact (div_self (neg_ne_zero.2 one_ne_zero)).symm
  · exact (div_one _).symm
  · exact (one_div_neg_one_eq_neg_one).symm
  · exact (div_one _).symm

theorem takes_factor {s : Sign} {u : UnpackedFloat} {a r : ℝ} (nonneg : 0 ≤ a)
    (rounds : Rounds a r) (written : Written s u r) : Takes (factor s * a) u := by
  refine ⟨s, r, written, ?_⟩
  cases s
  · have value : factor .negative * a = -a := neg_one_mul a
    rw [value, abs_neg, abs_of_nonneg nonneg]
    exact ⟨rounds, .inr ⟨neg_nonpos.2 nonneg, rfl⟩⟩
  · have value : factor .positive * a = a := one_mul a
    rw [value, abs_of_nonneg nonneg]
    exact ⟨rounds, .inl ⟨nonneg, rfl⟩⟩

/-! ## Sums -/

theorem decreaseExponent_eq (m : ℕ) {e f : ℤ} (le : f ≤ e) :
    decreaseExponent m e f = (m * 2 ^ (e - f).toNat, f) := by
  have same : e - ((e - f).toNat : ℤ) = f := by omega
  simp only [decreaseExponent, Nat.shiftLeft_eq, same]

/-- The same number in a smaller unit. -/
theorem magnitude_decrease (m : ℕ) {e f : ℤ} (le : f ≤ e) :
    ((m * 2 ^ (e - f).toNat : ℕ) : ℝ) * 2 ^ f = magnitude m e := by
  obtain ⟨k, rfl⟩ : ∃ k : ℕ, e = f + k := ⟨(e - f).toNat, by omega⟩
  have count : (f + k - f).toNat = k := by omega
  rw [count, magnitude, two_zpow_add, zpow_natCast]
  push_cast
  ring

theorem takes_add (s t : Sign) {m n : ℕ} {e f : ℤ} (pos : 0 < m) (pos' : 0 < n) :
    Takes (realOf (.finite s m e pos) + realOf (.finite t n f pos'))
      (UnpackedFloat.add Format.binary64 (.finite s m e pos) (.finite t n f pos')) := by
  have value : ((s.apply ↑(m * 2 ^ (e - min e f).toNat) +
      t.apply ↑(n * 2 ^ (f - min e f).toNat) : ℤ) : ℝ) * 2 ^ min e f =
      realOf (.finite s m e pos) + realOf (.finite t n f pos') := by
    rw [realOf_finite, realOf_finite, ← magnitude_decrease m (min_le_left e f),
      ← magnitude_decrease n (min_le_right e f), Int.cast_add, cast_apply, cast_apply]
    ring
  rw [← value]
  simp only [UnpackedFloat.add, decreaseExponent_eq _ (min_le_left e f),
    decreaseExponent_eq _ (min_le_right e f)]
  exact takes_normalize _ _

/-- **Doubles are added by rounding the sum.** -/
theorem Stands.add {x y : Float} {a b : ℝ} (h : Stands x a) (k : Stands y b) :
    Nearest (a + b) (x + y) := by
  refine ⟨UnpackedFloat.add Format.binary64 x.toModel.unpack y.toModel.unpack, ?_, rfl⟩
  have left := h.takes
  have right := k.takes
  rcases h.cases with ⟨s, unpacked, rfl⟩ | ⟨s, m, e, pos, unpacked, -, -, rfl⟩ <;>
    rcases k.cases with ⟨t, unpacked', rfl⟩ | ⟨t, n, f, pos', unpacked', -, -, rfl⟩ <;>
    rw [unpacked] at left ⊢ <;> rw [unpacked'] at right ⊢
  · rw [add_zero]
    cases s <;> cases t <;> exact takes_zero _
  · rwa [zero_add]
  · rwa [add_zero]
  · exact takes_add s t pos pos'

theorem stands_or_infinite {x : Float} (number : x.isNaN = false) :
    (∃ a, Stands x a) ∨ ∃ s, x.toModel.unpack = .infinity s := by
  cases unpacked : x.toModel.unpack with
  | notANumber => exact absurd unpacked (isNaN_eq_false.1 number)
  | infinity s => exact .inr ⟨s, rfl⟩
  | zero s => exact .inl ⟨0, number, by rw [extent, unpacked]; rfl⟩
  | finite s m e pos => exact .inl ⟨_, number, by rw [extent, unpacked]; rfl⟩

/-- An infinite double absorbs what is added to it. -/
theorem Stands.infinite_add {x t : Float} {b : ℝ} (h : Stands t b) {s : Sign}
    (infinite : x.toModel.unpack = .infinity s) : (x + t).toModel.unpack = .infinity s := by
  have sum : (x + t).toModel =
    Float.Model.pack (UnpackedFloat.add Format.binary64 x.toModel.unpack t.toModel.unpack) := rfl
  rw [sum, infinite]
  rcases h.cases with ⟨_, unpacked, -⟩ | ⟨_, m, e, pos, unpacked, -⟩ <;> rw [unpacked] <;>
    exact unpack_pack_infinity s

/-- **Adding a number keeps the order**, of the infinities too. -/
theorem Stands.add_mono {x y t : Float} {b : ℝ} (h : Stands t b) (le : x ≤ y) :
    x + t ≤ y + t := by
  obtain ⟨hx, hy⟩ := number_of_le le
  have infinite {z : Float} {s : Sign} (unpacked : z.toModel.unpack = .infinity s) :
      z.isNaN = false ∧ Decimal.extent z = extentOf (.infinity s) :=
    ⟨isNaN_eq_false.2 (unpacked ▸ nofun), congrArg extentOf unpacked⟩
  rw [le_iff_extent hx hy] at le
  rcases stands_or_infinite hx with ⟨a, left⟩ | ⟨s, left⟩ <;>
    rcases stands_or_infinite hy with ⟨c, right⟩ | ⟨s', right⟩
  · rw [left.extent, right.extent, EReal.coe_le_coe_iff] at le
    exact (left.add h).le (right.add h) (by linarith)
  · obtain ⟨number, place⟩ := infinite (h.infinite_add right)
    rw [left.extent, (infinite right).2] at le
    rw [le_iff_extent (left.add h).number number, place]
    cases s'
    · exact absurd le (not_le.2 (EReal.bot_lt_coe a))
    · exact le_top
  · obtain ⟨number, place⟩ := infinite (h.infinite_add left)
    rw [right.extent, (infinite left).2] at le
    rw [le_iff_extent number (right.add h).number, place]
    cases s
    · exact bot_le
    · exact absurd le (not_le.2 (EReal.coe_lt_top c))
  · obtain ⟨number, place⟩ := infinite (h.infinite_add left)
    obtain ⟨number', place'⟩ := infinite (h.infinite_add right)
    rw [(infinite left).2, (infinite right).2] at le
    rwa [le_iff_extent number number', place, place']

/-- **Negative zero is neutral**, whatever it is added to. -/
theorem negative_zero_add (x : Float) : -0.0 + x = x := by
  obtain ⟨x⟩ := x
  have neutral : UnpackedFloat.add Format.binary64 (.zero .negative) x.unpack = x.unpack := by
    cases x.unpack with
    | notANumber => rfl
    | infinity s => rfl
    | zero s => cases s <;> rfl
    | finite s m e pos => rfl
  have sum : (-0.0 + ⟨x⟩ : Float).toModel =
    Float.Model.pack (UnpackedFloat.add Format.binary64 (.zero .negative) x.unpack) := rfl
  rw [neutral, pack_unpack_model] at sum
  exact congrArg Float.ofModel sum

/-! ## Products -/

/-- What has 53 digits, or the smallest unit, is rounded. -/
theorem written_of_enough {m : ℕ} {e : ℤ} {a : Accuracy} {x : ℝ}
    (described : Describes (.ofMantissaAndAccuracy m a) x) (enough : 2 ^ 52 ≤ m ∨ e ≤ -1074) :
    ∃ r, Rounds (x * 2 ^ e) r ∧
      ∀ s, Written s (roundWithAccuracy Format.binary64 s m e a) r := by
  have full (long : 2 ^ 52 ≤ m) : m ≠ 0 := by omega
  refine written_roundWithAccuracy described ?_ (enough.imp_left full)
  rcases enough with long | small
  · have := (Nat.le_log2 (full long)).2 long
    omega
  · omega

theorem takes_mul (s t : Sign) {m n : ℕ} {e f : ℤ} (pos : 0 < m) (pos' : 0 < n)
    (enough : 2 ^ 52 ≤ m * n ∨ e + f ≤ -1074) :
    Takes (realOf (.finite s m e pos) * realOf (.finite t n f pos'))
      (UnpackedFloat.mul Format.binary64 (.finite s m e pos) (.finite t n f pos')) := by
  obtain ⟨r, rounds, written⟩ := written_of_enough (describes_exact (m * n)) enough
  have value : factor (s * t) * magnitude (m * n) (e + f) =
      realOf (.finite s m e pos) * realOf (.finite t n f pos') := by
    rw [realOf_finite, realOf_finite, factor_mul, magnitude, two_zpow_add, Nat.cast_mul,
      magnitude, magnitude]
    ring
  rw [← value]
  exact takes_factor (magnitude_pos (Nat.mul_pos pos pos') _).le rounds (written _)

theorem Canonical.mul_enough {m n : ℕ} {e f : ℤ} (pos : 0 < m) (pos' : 0 < n) (h : Canonical m e)
    (k : Canonical n f) : 2 ^ 52 ≤ m * n ∨ e + f ≤ -1074 := by
  rcases h.normal with least | long
  · rcases k.normal with least' | long'
    · right
      omega
    · exact .inl (long'.trans (Nat.le_mul_of_pos_left n pos))
  · exact .inl (long.trans (Nat.le_mul_of_pos_right m pos'))

/-- **Doubles are multiplied by rounding the product.** -/
theorem Stands.mul {x y : Float} {a b : ℝ} (h : Stands x a) (k : Stands y b) :
    Nearest (a * b) (x * y) := by
  refine ⟨UnpackedFloat.mul Format.binary64 x.toModel.unpack y.toModel.unpack, ?_, rfl⟩
  rcases h.cases with ⟨s, unpacked, rfl⟩ | ⟨s, m, e, pos, unpacked, canonical, -, rfl⟩ <;>
    rcases k.cases with ⟨t, unpacked', rfl⟩ | ⟨t, n, f, pos', unpacked', canonical', -, rfl⟩ <;>
    rw [unpacked, unpacked']
  · rw [mul_zero]
    exact takes_zero _
  · rw [zero_mul]
    exact takes_zero _
  · rw [mul_zero]
    exact takes_zero _
  · exact takes_mul s t pos pos' (canonical.mul_enough pos pos' canonical')

/-! ## Quotients -/

/-- What a remainder says about the digits that follow. -/
theorem describes_fraction (q : ℕ) {m n : ℕ} (below : m < n) :
    Describes (.ofMantissaAndAccuracy q (accuracyOfFraction m n)) (q + m / n) := by
  have positive : (0 : ℝ) < n := by exact_mod_cast Nat.zero_lt_of_lt below
  have upper : (m : ℝ) / n < 1 := by
    rw [div_lt_one positive]
    exact_mod_cast below
  unfold accuracyOfFraction
  by_cases exact : m = 0
  · rw [if_pos exact, exact, Nat.cast_zero, zero_div, add_zero]
    exact describes_exact q
  · rw [if_neg exact]
    have above : 0 < (m : ℝ) / n := div_pos (by exact_mod_cast Nat.pos_of_ne_zero exact) positive
    rcases lt_trichotomy (2 * m) n with less | half | more
    · have left : (m : ℝ) / n < 1 / 2 := by
        rw [div_lt_div_iff₀ positive two_pos]
        exact_mod_cast (by omega : m * 2 < 1 * n)
      rw [Nat.compare_eq_lt.2 less]
      show (q : ℝ) < q + m / n ∧ (q : ℝ) + m / n < q + 1 / 2
      constructor <;> linarith
    · have middle : (m : ℝ) / n = 1 / 2 := by
        rw [div_eq_div_iff positive.ne' two_ne_zero]
        exact_mod_cast (by omega : m * 2 = 1 * n)
      rw [Nat.compare_eq_eq.2 half, middle]
      rfl
    · have right : 1 / 2 < (m : ℝ) / n := by
        rw [div_lt_div_iff₀ two_pos positive]
        exact_mod_cast (by omega : 1 * n < m * 2)
      rw [Nat.compare_eq_gt.2 more]
      show (q : ℝ) + 1 / 2 < q + m / n ∧ (q : ℝ) + m / n < q + 1
      constructor <;> linarith

theorem describes_div (m : ℕ) {n : ℕ} (pos : 0 < n) :
    Describes (.ofMantissaAndAccuracy (m / n) (accuracyOfFraction (m % n) n)) (m / n : ℝ) := by
  have parts : (m : ℝ) / n = (m / n : ℕ) + (m % n : ℕ) / n := by
    have whole : (n * (m / n : ℕ) + (m % n : ℕ) : ℝ) = m := by
      exact_mod_cast Nat.div_add_mod m n
    have positive : (0 : ℝ) < n := by exact_mod_cast pos
    rw [← whole]
    field_simp
  rw [parts]
  exact describes_fraction _ (Nat.mod_lt m pos)

/-- The exponent of a quotient. -/
def quotientExponent (m : ℕ) (e : ℤ) (n : ℕ) (f : ℤ) : ℤ :=
  min (e - f) (max ((m.log2 : ℤ) + e - ((n.log2 : ℤ) + f) - 53) (-1074))

theorem divCore_eq (m : ℕ) (e : ℤ) (n : ℕ) (f : ℤ) :
    divCore Format.binary64 m e n f =
      let shifted := m * 2 ^ (e - f - quotientExponent m e n f).toNat
      (shifted / n, quotientExponent m e n f, accuracyOfFraction (shifted % n) n) := by
  have target : min (e - f) (Format.binary64.targetExponent
      (totalExponent m e - totalExponent n f)) = quotientExponent m e n f := by
    simp only [quotientExponent, Format.targetExponent, totalExponent, Format.mantissaBits,
      Format.minExponent]
    norm_num
    omega
  simp only [divCore, target, Nat.shiftLeft_eq]

/-- A quotient has 53 digits, or the smallest unit. -/
theorem quotient_enough {m n : ℕ} (pos : 0 < m) (pos' : 0 < n) (e f : ℤ) :
    2 ^ 52 ≤ m * 2 ^ (e - f - quotientExponent m e n f).toNat / n ∨
      quotientExponent m e n f ≤ -1074 := by
  rw [or_iff_not_imp_right]
  intro normal
  obtain ⟨k, shift⟩ : ∃ k, (e - f - quotientExponent m e n f).toNat = k := ⟨_, rfl⟩
  rw [shift, Nat.le_div_iff_mul_le pos']
  unfold quotientExponent at normal shift
  have upper : n < 2 ^ (n.log2 + 1) := Nat.lt_log2_self
  have lower : 2 ^ m.log2 ≤ m := Nat.log2_self_le pos.ne'
  calc 2 ^ 52 * n
    _ ≤ 2 ^ 52 * 2 ^ (n.log2 + 1) := Nat.mul_le_mul_left _ upper.le
    _ = 2 ^ (52 + (n.log2 + 1)) := (pow_add ..).symm
    _ ≤ 2 ^ (m.log2 + k) := Nat.pow_le_pow_right two_pos (by omega)
    _ = 2 ^ m.log2 * 2 ^ k := pow_add ..
    _ ≤ m * 2 ^ k := Nat.mul_le_mul_right _ lower

theorem takes_div (s t : Sign) {m n : ℕ} {e f : ℤ} (pos : 0 < m) (pos' : 0 < n) :
    Takes (realOf (.finite s m e pos) / realOf (.finite t n f pos'))
      (UnpackedFloat.div Format.binary64 (.finite s m e pos) (.finite t n f pos')) := by
  have least : quotientExponent m e n f ≤ e - f := min_le_left ..
  have enough := quotient_enough pos pos' e f
  simp only [UnpackedFloat.div, divCore_eq]
  obtain ⟨g, exponent⟩ : ∃ g, quotientExponent m e n f = g := ⟨_, rfl⟩
  rw [exponent] at least enough ⊢
  obtain ⟨r, rounds, written⟩ := written_of_enough
    (describes_div (m * 2 ^ (e - f - g).toNat) pos') enough
  have scaled : ((m * 2 ^ (e - f - g).toNat : ℕ) : ℝ) / n * 2 ^ g =
      magnitude m e / magnitude n f := by
    rw [← magnitude_decrease m (show f + g ≤ e by omega), ← sub_sub, two_zpow_add, magnitude,
      mul_comm (2 ^ f) (2 ^ g), ← mul_assoc, mul_div_mul_right _ _ (two_zpow_pos f).ne',
      div_mul_eq_mul_div]
  have value : factor (s / t) * (magnitude m e / magnitude n f) =
      realOf (.finite s m e pos) / realOf (.finite t n f pos') := by
    rw [realOf_finite, realOf_finite, factor_div, div_mul_div_comm]
  rw [← value]
  rw [scaled] at rounds
  exact takes_factor (div_nonneg (magnitude_pos pos e).le (magnitude_pos pos' f).le) rounds
    (written _)

/-- **Doubles are divided by rounding the quotient.** -/
theorem Stands.div {x y : Float} {a b : ℝ} (h : Stands x a) (k : Stands y b) (some : b ≠ 0) :
    Nearest (a / b) (x / y) := by
  refine ⟨UnpackedFloat.div Format.binary64 x.toModel.unpack y.toModel.unpack, ?_, rfl⟩
  rcases k.cases with ⟨t, unpacked', rfl⟩ | ⟨t, n, f, pos', unpacked', -, -, rfl⟩
  · exact absurd rfl some
  · rcases h.cases with ⟨s, unpacked, rfl⟩ | ⟨s, m, e, pos, unpacked, -, -, rfl⟩ <;>
      rw [unpacked, unpacked']
    · rw [zero_div]
      exact takes_zero _
    · exact takes_div s t pos pos'

/-! ## Natural numbers -/

/-- A number with at most 53 digits is not rounded. -/
theorem rounds_natCast {n : ℕ} (fits : n ≤ 2 ^ 53) : Rounds n n := by
  rcases eq_or_ne n 0 with rfl | some
  · simpa using rounds_zero
  · rcases fits.lt_or_eq with fits | rfl
    · have short : n.log2 < 53 := (Nat.log2_lt some).2 fits
      obtain ⟨k, digits⟩ : ∃ k, k + n.log2 = 52 := ⟨52 - n.log2, by omega⟩
      have canonical : Canonical (n * 2 ^ k) (-k) := by
        refine ⟨?_, by omega, .inr ?_⟩
        · calc n * 2 ^ k
            _ < 2 ^ (n.log2 + 1) * 2 ^ k :=
              Nat.mul_lt_mul_of_pos_right Nat.lt_log2_self (Nat.two_pow_pos k)
            _ = 2 ^ 53 := by rw [← pow_add]; congr 1; omega
        · calc 2 ^ 52
            _ = 2 ^ n.log2 * 2 ^ k := by rw [← pow_add]; congr 1; omega
            _ ≤ n * 2 ^ k := Nat.mul_le_mul_right _ (Nat.log2_self_le some)
      have value : ((n * 2 ^ k : ℕ) : ℝ) * 2 ^ (-k : ℤ) = n := by
        rw [Nat.cast_mul, Nat.cast_pow, Nat.cast_two, mul_assoc, ← zpow_natCast, ← two_zpow_add,
          add_neg_cancel, zpow_zero, mul_one]
      exact value ▸ canonical.rounds
    · have canonical : Canonical (2 ^ 52) 1 := ⟨by decide, by decide, .inr le_rfl⟩
      have value : ((2 ^ 52 : ℕ) : ℝ) * 2 ^ (1 : ℤ) = (2 ^ 53 : ℕ) := by norm_num
      exact value ▸ canonical.rounds

/-- The nearest double of a number that is not rounded stands for it. -/
theorem Nearest.exact {a : ℝ} {z : Float} (h : Nearest a z) (nonneg : 0 ≤ a) (same : Rounds a a)
    (below : a < limit) : Stands z a := by
  obtain ⟨number, r, rounds, sign⟩ := h.extent
  rw [abs_of_nonneg nonneg] at rounds
  obtain rfl : r = a := le_antisymm (rounds.mono same le_rfl) (same.mono rounds le_rfl)
  refine ⟨number, ?_⟩
  rcases sign with ⟨-, place⟩ | ⟨nonpos, place⟩
  · rw [place, bounded_of_lt below]
  · obtain rfl : r = 0 := le_antisymm nonpos nonneg
    rw [place, bounded_zero, neg_zero]
    rfl

theorem natCast_lt_limit {n : ℕ} (fits : n ≤ 2 ^ 53) : (n : ℝ) < limit := by
  have below : (n : ℝ) ≤ 2 ^ (53 : ℤ) := by exact_mod_cast fits
  exact below.trans_lt (zpow_lt_zpow_right₀ one_lt_two (by decide))

theorem stands_zero : Stands 0.0 0 := ⟨rfl, rfl⟩

theorem stands_one : Stands 1.0 1 := by
  refine ⟨rfl, ?_⟩
  show ((magnitude (2 ^ 52) (-52) : ℝ) : EReal) = (1 : ℝ)
  norm_num [magnitude]

theorem ofScientific_of_lt {n : ℕ} (short : n < 2 ^ 53) (down : Bool) :
    Float.ofScientific n down 0 =
      if down then n.toUInt64.toFloat / 1.0 else n.toUInt64.toFloat * 1.0 := by
  rw [Float.ofScientific, dif_pos ⟨short, by decide⟩]
  rfl

theorem ofScientific_of_ge {n : ℕ} (long : 2 ^ 53 ≤ n) (down : Bool) :
    (Float.ofScientific n down 0).toModel =
      Float.Model.pack (UnpackedFloat.mul Format.binary64
        (.finite .positive (n <<< 53) (-53) (by rw [Nat.shiftLeft_eq]; omega))
        (.finite .positive 1 0 one_pos)) := by
  have some : n ≠ 0 := by omega
  have inside : ¬(0 : ℤ) < -(2 ^ Format.binary64.exponentBits + n.log2) := by
    show ¬(0 : ℤ) < -(2 ^ 11 + n.log2)
    omega
  have whole : (if down = true then Int.negOfNat 0 else Int.ofNat 0) = 0 := by
    cases down <;> rfl
  rw [Float.ofScientific, dif_neg fun short => not_lt.2 long short.1]
  show Float.Model.pack (UnpackedFloat.ofScientific Format.binary64 n
    (if down = true then Int.negOfNat 0 else Int.ofNat 0)) = _
  rw [whole, UnpackedFloat.ofScientific, dif_neg some, if_neg (by decide), if_neg inside,
    if_pos le_rfl]
  rfl

/-- **The double of a natural number is the nearest one**, with the decimal point moved to
neither side by no places. -/
theorem nearest_ofScientific (n : ℕ) (down : Bool) : Nearest n (Float.ofScientific n down 0) := by
  rcases Nat.lt_or_ge n (2 ^ 53) with short | long
  · have word : n.toUInt64.toNat = n := Nat.mod_eq_of_lt (by omega)
    have rounded : Nearest n n.toUInt64.toFloat := by
      refine ⟨normalize Format.binary64 n.toUInt64.toNat 0 .positive, ?_, rfl⟩
      rw [word]
      simpa using takes_normalize n 0
    have exact := rounded.exact (Nat.cast_nonneg n) (rounds_natCast short.le)
      (natCast_lt_limit short.le)
    rw [ofScientific_of_lt short]
    cases down
    · exact mul_one (n : ℝ) ▸ exact.mul stands_one
    · exact div_one (n : ℝ) ▸ exact.div stands_one one_ne_zero
  · refine ⟨_, ?_, ofScientific_of_ge long down⟩
    have pos : 0 < n <<< 53 := by
      rw [Nat.shiftLeft_eq]
      omega
    have value : realOf (.finite .positive (n <<< 53) (-53) pos) *
        realOf (.finite .positive 1 0 one_pos) = n := by
      rw [realOf_finite, realOf_finite, magnitude, magnitude, Nat.shiftLeft_eq, factor]
      push_cast
      ring
    rw [← value]
    refine takes_mul _ _ _ one_pos (.inl ?_)
    rw [Nat.shiftLeft_eq]
    omega

theorem nearest_ofNat (n : ℕ) : Nearest n (Float.ofNat n) := nearest_ofScientific n false

theorem stands_ofNat {n : ℕ} (fits : n ≤ 2 ^ 53) : Stands (Float.ofNat n) n :=
  (nearest_ofNat n).exact (Nat.cast_nonneg n) (rounds_natCast fits) (natCast_lt_limit fits)

/-- A double that is divided by an infinite one vanishes. -/
theorem Stands.div_infinite {x y : Float} {a : ℝ} (h : Stands x a) {t : Sign}
    (infinite : y.toModel.unpack = .infinity t) : Nearest 0 (x / y) := by
  refine ⟨UnpackedFloat.div Format.binary64 x.toModel.unpack y.toModel.unpack, ?_, rfl⟩
  rcases h.cases with ⟨s, unpacked, -⟩ | ⟨s, m, e, pos, unpacked, -⟩ <;> rw [unpacked, infinite] <;>
    exact takes_zero _

/-- How far doubles count: beyond this, one more is lost in rounding. -/
def reach (n : ℕ) : ℕ := min n (2 ^ 53)

/-- Division by a positive natural number multiplies by a factor, zero if the number is too great
to have a double, and rounds. -/
theorem exists_inverse_ofNat {n : ℕ} (pos : 0 < n) : ∃ c : ℝ, 0 ≤ c ∧ reach n * c ≤ 1 ∧
    ∀ {x : Float} {a : ℝ}, Stands x a → Nearest (a * c) (x / Float.ofNat n) := by
  have first := stands_ofNat (show reach n ≤ 2 ^ 53 from Nat.min_le_right ..)
  have least := first.nearest.le (nearest_ofNat n) (Nat.cast_le.2 (Nat.min_le_left n (2 ^ 53)))
  have some : (0 : ℝ) < reach n := by exact_mod_cast (show 0 < min n (2 ^ 53) by omega)
  have number := (nearest_ofNat n).number
  rw [le_iff_extent first.number number, first.extent] at least
  by_cases finite : extent (Float.ofNat n) = ⊤
  · refine ⟨0, le_rfl, by rw [mul_zero]; exact zero_le_one, fun h => ?_⟩
    rw [mul_zero]
    cases unpacked : (Float.ofNat n).toModel.unpack with
    | infinity t => exact h.div_infinite unpacked
    | _ =>
      rw [extent, unpacked] at finite
      exact absurd finite (EReal.coe_ne_top _)
  · obtain ⟨b, place⟩ : ∃ b : ℝ, extent (Float.ofNat n) = b :=
      ⟨_, (EReal.coe_toReal finite ((EReal.bot_lt_coe _).trans_le least).ne').symm⟩
    rw [place, EReal.coe_le_coe_iff] at least
    have positive := some.trans_le least
    refine ⟨b⁻¹, (inv_pos.2 positive).le, ?_, fun h => ?_⟩
    · rwa [← div_eq_mul_inv, div_le_one positive]
    · exact h.div ⟨number, place⟩ positive.ne'

/-! ## Signs of zeros -/

/-- The sign is positive, of a zero too. -/
def Unsigned (x : Float) : Prop :=
  match x.toModel.unpack with
  | .infinity s => s = .positive
  | .notANumber => False
  | .zero s => s = .positive
  | .finite s _ _ _ => s = .positive

theorem unsigned_zero {z : Float} (h : z.toModel = Float.Model.pack (.zero .positive)) :
    Unsigned z := by
  unfold Unsigned
  rw [h, unpack_pack_zero]

theorem abs_realOf (s : Sign) (m : ℕ) (e : ℤ) (pos : 0 < m) :
    |realOf (.finite s m e pos)| = magnitude m e := by
  cases s
  · rw [realOf, abs_neg, abs_of_pos (magnitude_pos pos e)]
  · rw [realOf, abs_of_pos (magnitude_pos pos e)]

theorem Nearest.unsigned {a : ℝ} {z : Float} (h : Nearest a z) (pos : 0 < a) : Unsigned z := by
  obtain ⟨u, ⟨s, r, written, -, sign⟩, packed⟩ := h
  obtain ⟨-, rfl⟩ := sign.resolve_right fun below => not_le.2 pos below.1
  unfold Unsigned
  rw [packed]
  cases written with
  | zero =>
    rw [unpack_pack_zero]
  | @finite m e pos canonical =>
    by_cases small : e ≤ 971
    · rw [unpack_pack_finite pos canonical small]
    · rw [unpack_pack_large pos (not_le.1 small)]

namespace Stands

variable {x y : Float} {a b : ℝ}

theorem unpack_zero (h : Stands x 0) : ∃ s, x.toModel.unpack = .zero s := by
  rcases h.cases with ⟨s, unpacked, -⟩ | ⟨s, m, e, pos, -, -, -, value⟩
  · exact ⟨s, unpacked⟩
  · exact absurd (abs_realOf s m e pos) (by rw [← value, abs_zero]; exact (magnitude_pos pos e).ne)

theorem unpack_zero_of_unsigned (h : Stands x 0) (plain : Unsigned x) :
    x.toModel.unpack = .zero .positive := by
  obtain ⟨s, unpacked⟩ := h.unpack_zero
  unfold Unsigned at plain
  rw [unpacked] at plain ⊢
  exact congrArg UnpackedFloat.zero plain

theorem add_unsigned (h : Stands x a) (k : Stands y b) (nonneg : 0 ≤ a) (nonneg' : 0 ≤ b)
    (plain : Unsigned x) : Unsigned (x + y) := by
  rcases (add_nonneg nonneg nonneg').lt_or_eq with pos | none
  · exact (h.add k).unsigned pos
  · obtain ⟨rfl, rfl⟩ := (add_eq_zero_iff_of_nonneg nonneg nonneg').1 none.symm
    obtain ⟨t, unpacked⟩ := k.unpack_zero
    have sum : (x + y).toModel =
      Float.Model.pack (UnpackedFloat.add Format.binary64 x.toModel.unpack y.toModel.unpack) := rfl
    rw [h.unpack_zero_of_unsigned plain, unpacked] at sum
    cases t <;> exact unsigned_zero sum

theorem mul_unsigned (h : Stands x a) (k : Stands y b) (nonneg : 0 ≤ a) (pos : 0 < b)
    (plain : Unsigned x) : Unsigned (x * y) := by
  rcases (mul_nonneg nonneg pos.le).lt_or_eq with pos' | none
  · exact (h.mul k).unsigned pos'
  · obtain rfl : a = 0 := (mul_eq_zero.1 none.symm).resolve_right pos.ne'
    have product : (x * y).toModel =
      Float.Model.pack (UnpackedFloat.mul Format.binary64 x.toModel.unpack y.toModel.unpack) := rfl
    rcases k.cases with ⟨t, -, rfl⟩ | ⟨t, m, e, mpos, unpacked, -, -, rfl⟩
    · exact absurd pos (lt_irrefl 0)
    · rw [h.unpack_zero_of_unsigned plain, unpacked] at product
      cases t
      · exact absurd pos (neg_lt_zero.2 (magnitude_pos mpos e)).not_gt
      · exact unsigned_zero product

end Stands

/-! ## The nearest integer -/

/-- A quotient is rounded by adding a half and dropping what is behind the point. -/
theorem roundHalfUp_eq (m : ℕ) {n : ℕ} (pos : 0 < n) :
    roundHalfUp m n = ⌊(m / n : ℝ) + 1 / 2⌋₊ := by
  have positive : (0 : ℝ) < n := by exact_mod_cast pos
  have value : (m / n : ℝ) + 1 / 2 = (2 * m + n : ℕ) / (2 * n : ℕ) := by
    push_cast
    field_simp
  rw [roundHalfUp, value, Nat.floor_div_eq_div]

/-- A number that is not negative, as it is written. -/
theorem Stands.kind {x : Float} {a : ℝ} (h : Stands x a) (plain : Unsigned x) :
    ∃ m e, Decimal.kind x = .finite ⟨false, m, e⟩ ∧ Canonical m e ∧ a = magnitude m e := by
  unfold Unsigned at plain
  rcases h.cases with ⟨s, unpacked, rfl⟩ | ⟨s, m, e, pos, unpacked, canonical, -, rfl⟩ <;>
    rw [unpacked] at plain <;> obtain rfl : s = .positive := plain
  · refine ⟨0, -1074, by rw [kind_eq, unpacked]; rfl, ⟨by decide, le_rfl, .inl rfl⟩, ?_⟩
    rw [magnitude, Nat.cast_zero, zero_mul]
  · exact ⟨m, e, by rw [kind_eq, unpacked]; rfl, canonical, rfl⟩

/-- **The nearest integer of a small number.** -/
theorem nearestInteger_eq {x : Float} {a : ℝ} (h : Stands x a) (plain : Unsigned x)
    (small : a < 2 ^ 52) : nearestInteger x = Float.ofNat ⌊a + 1 / 2⌋₊ := by
  obtain ⟨m, e, written, canonical, rfl⟩ := h.kind plain
  have fractional : e < 0 := by
    by_contra whole
    have long := canonical.normal.resolve_left (by omega)
    have : (2 : ℝ) ^ 52 * 1 ≤ m * 2 ^ e :=
      mul_le_mul (by exact_mod_cast long) (one_le_zpow₀ one_le_two (not_lt.1 whole)) zero_le_one
        (Nat.cast_nonneg m)
    rw [mul_one] at this
    exact not_lt.2 this small
  obtain ⟨k, rfl⟩ : ∃ k : ℕ, e = -k := ⟨e.natAbs, by omega⟩
  have value : magnitude m (-k) = m / (Nat.pow 2 k : ℕ) := by
    rw [magnitude, zpow_neg, zpow_natCast, ← div_eq_mul_inv]
    exact_mod_cast rfl
  simp only [nearestInteger, written, not_le.2 fractional, if_false, Bool.false_eq_true,
    Int.natAbs_neg, Int.natAbs_natCast, value]
  exact congrArg Float.ofNat (roundHalfUp_eq m (Nat.two_pow_pos k))

end Gradebook.Decimal
