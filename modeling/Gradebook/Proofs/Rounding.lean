/-
# Gradebook.Proofs.Rounding — real numbers rounded to doubles

A double has 53 binary digits, none of them worth less than `2 ^ (-1074)`. `Rounds x r` says
which of those numbers is taken for a real number that is not negative: the nearest multiple
of the unit in its last place, and the even one if it lies in the middle. Rounding is
monotone (`Rounds.mono`) and leaves alone what has 53 digits (`Canonical.rounds`).

The arithmetic of doubles shifts digits out one by one and keeps two bits about what is
lost. `Describes` says what those bits mean, and `written_roundWithAccuracy` that the outcome
is the rounded number.
-/
import Mathlib

namespace Gradebook.Decimal

set_option autoImplicit false

open Float.Model (Format totalExponent)
open Float.Model.UnpackedFloat

/-! ## The nearest integer -/

/-- The nearest natural number; a half goes to the even one. -/
noncomputable def halfEven (x : ℝ) : ℕ :=
  if x - ⌊x⌋₊ < 1 / 2 then ⌊x⌋₊
  else if 1 / 2 < x - ⌊x⌋₊ then ⌊x⌋₊ + 1
  else ⌊x⌋₊ + ⌊x⌋₊ % 2

theorem floor_le_halfEven (x : ℝ) : ⌊x⌋₊ ≤ halfEven x := by
  unfold halfEven
  split_ifs <;> omega

theorem halfEven_le_floor (x : ℝ) : halfEven x ≤ ⌊x⌋₊ + 1 := by
  unfold halfEven
  split_ifs <;> omega

theorem halfEven_mono {x y : ℝ} (h : x ≤ y) : halfEven x ≤ halfEven y := by
  rcases (Nat.floor_mono h).lt_or_eq with lower | same
  · calc halfEven x
      _ ≤ ⌊x⌋₊ + 1 := halfEven_le_floor x
      _ ≤ ⌊y⌋₊ := lower
      _ ≤ halfEven y := floor_le_halfEven y
  · unfold halfEven
    rw [same]
    split_ifs <;> first | omega | (exfalso; linarith)

@[simp] theorem halfEven_natCast (n : ℕ) : halfEven n = n := by
  simp [halfEven]

theorem halfEven_le {x : ℝ} {n : ℕ} (h : x ≤ n) : halfEven x ≤ n := by
  simpa using halfEven_mono h

theorem le_halfEven {x : ℝ} {n : ℕ} (h : n ≤ x) : n ≤ halfEven x := by
  simpa using halfEven_mono h

/-! ## Rounding -/

theorem two_zpow_pos (e : ℤ) : (0 : ℝ) < 2 ^ e := zpow_pos two_pos e

theorem two_zpow_add (e f : ℤ) : (2 : ℝ) ^ (e + f) = 2 ^ e * 2 ^ f := zpow_add₀ two_ne_zero e f

theorem two_zpow_le {e f : ℤ} (h : e ≤ f) : (2 : ℝ) ^ e ≤ 2 ^ f :=
  zpow_le_zpow_right₀ one_le_two h

theorem lt_of_two_zpow_lt {e f : ℤ} (h : (2 : ℝ) ^ e < 2 ^ f) : e < f :=
  (zpow_lt_zpow_iff_right₀ one_lt_two).1 h

/-- `2 ^ e` is the unit in the last place of `x`: 53 digits reach beyond `x`, and 52 do not,
unless there is no smaller unit. -/
structure Unit (e : ℤ) (x : ℝ) : Prop where
  least : -1074 ≤ e
  below : x < 2 ^ (e + 53)
  above : e = -1074 ∨ 2 ^ (e + 52) ≤ x

/-- `r` is `x` rounded to its last place. -/
def Rounds (x r : ℝ) : Prop := ∃ e, Unit e x ∧ r = halfEven (x / 2 ^ e) * 2 ^ e

namespace Unit

variable {e f : ℤ} {x y : ℝ}

theorem halfEven_le (h : Unit e x) : halfEven (x / 2 ^ e) ≤ 2 ^ 53 := by
  refine Decimal.halfEven_le ?_
  rw [div_le_iff₀ (two_zpow_pos e)]
  calc x
    _ ≤ 2 ^ (e + 53) := h.below.le
    _ = ((2 ^ 53 : ℕ) : ℝ) * 2 ^ e := by
      rw [add_comm, two_zpow_add]
      norm_num

theorem le_halfEven (h : Unit e x) : e = -1074 ∨ 2 ^ 52 ≤ halfEven (x / 2 ^ e) := by
  refine h.above.imp_right fun above => Decimal.le_halfEven ?_
  rw [le_div_iff₀ (two_zpow_pos e)]
  calc ((2 ^ 52 : ℕ) : ℝ) * 2 ^ e
    _ = 2 ^ (e + 52) := by
      rw [add_comm, two_zpow_add]
      norm_num
    _ ≤ x := above

/-- The unit grows with the number. -/
theorem mono (h : Unit e x) (k : Unit f y) (le : x ≤ y) : e ≤ f := by
  rcases h.above with least | above
  · exact least ▸ k.least
  · have := lt_of_two_zpow_lt (above.trans_lt (le.trans_lt k.below))
    omega

end Unit

namespace Rounds

variable {x y r s : ℝ}

/-- **Rounding is monotone.** -/
theorem mono (h : Rounds x r) (k : Rounds y s) (le : x ≤ y) : r ≤ s := by
  obtain ⟨e, unit, rfl⟩ := h
  obtain ⟨f, unit', rfl⟩ := k
  rcases (unit.mono unit' le).lt_or_eq with lower | rfl
  · -- A power of two lies between numbers with different units.
    have normal := unit'.le_halfEven.resolve_left (by have := unit.least; omega)
    calc (halfEven (x / 2 ^ e) : ℝ) * 2 ^ e
      _ ≤ 2 ^ 53 * 2 ^ e := by
        have := unit.halfEven_le
        gcongr
        exact_mod_cast this
      _ = 2 ^ (e + 53) := by
        rw [add_comm, two_zpow_add]
        norm_num
      _ ≤ 2 ^ (f + 52) := two_zpow_le (by omega)
      _ = 2 ^ 52 * 2 ^ f := by
        rw [add_comm, two_zpow_add]
        norm_num
      _ ≤ halfEven (y / 2 ^ f) * 2 ^ f := by
        gcongr
        exact_mod_cast normal
  · have := halfEven_mono (div_le_div_of_nonneg_right le (two_zpow_pos e).le)
    have cast : (halfEven (x / 2 ^ e) : ℝ) ≤ halfEven (y / 2 ^ e) := by exact_mod_cast this
    exact mul_le_mul_of_nonneg_right cast (two_zpow_pos e).le

theorem nonneg (h : Rounds x r) : 0 ≤ r := by
  obtain ⟨e, -, rfl⟩ := h
  positivity

end Rounds

/-- The number with these digits in that unit. -/
noncomputable def magnitude (m : ℕ) (e : ℤ) : ℝ := m * 2 ^ e

theorem magnitude_pos {m : ℕ} (pos : 0 < m) (e : ℤ) : 0 < magnitude m e :=
  mul_pos (by exact_mod_cast pos) (two_zpow_pos e)

/-- Halfway values aside, this is where the doubles end. -/
noncomputable def limit : ℝ := 2 ^ (1024 : ℤ)

/-- A number written with 53 digits, or with fewer in the smallest unit. -/
structure Canonical (m : ℕ) (e : ℤ) : Prop where
  below : m < 2 ^ 53
  least : -1074 ≤ e
  normal : e = -1074 ∨ 2 ^ 52 ≤ m

namespace Canonical

variable {m n : ℕ} {e f : ℤ}

theorem unit (h : Canonical m e) : Unit e (m * 2 ^ e) where
  least := h.least
  below := by
    rw [add_comm, two_zpow_add]
    refine mul_lt_mul_of_pos_right ?_ (two_zpow_pos e)
    have : (m : ℝ) < 2 ^ 53 := by exact_mod_cast h.below
    exact_mod_cast this
  above := by
    refine h.normal.imp_right fun normal => ?_
    rw [add_comm, two_zpow_add]
    have : (2 ^ 52 : ℝ) ≤ m := by exact_mod_cast normal
    exact mul_le_mul_of_nonneg_right (by exact_mod_cast this) (two_zpow_pos e).le

/-- What has 53 digits is left alone. -/
theorem rounds (h : Canonical m e) : Rounds (m * 2 ^ e) (m * 2 ^ e) := by
  refine ⟨e, h.unit, ?_⟩
  rw [mul_div_cancel_right₀ _ (two_zpow_pos e).ne', halfEven_natCast]

/-- A greater exponent makes a greater number. -/
theorem lt_of_exponent_lt (h : Canonical m e) (k : Canonical n f) (lower : e < f) :
    (m : ℝ) * 2 ^ e < n * 2 ^ f := by
  by_contra le
  exact absurd (k.unit.mono h.unit (not_lt.1 le)) (by omega)

end Canonical

/-! ## Digits that are shifted out -/

/-- What a mantissa stands for with the first bit behind it, and with one for all others. -/
def Describes (em : ExtendedMantissa) (x : ℝ) : Prop :=
  match em.roundBit, em.stickyBit with
  | false, false => x = em.mantissa
  | false, true => em.mantissa < x ∧ x < em.mantissa + 1 / 2
  | true, false => x = em.mantissa + 1 / 2
  | true, true => em.mantissa + 1 / 2 < x ∧ x < em.mantissa + 1

namespace Describes

variable {em : ExtendedMantissa} {x : ℝ}

theorem bounds (h : Describes em x) : em.mantissa ≤ x ∧ x < em.mantissa + 1 := by
  obtain ⟨m, r, s⟩ := em
  cases r <;> cases s <;> simp only [Describes] at h ⊢ <;> constructor <;> linarith

theorem floor (h : Describes em x) : ⌊x⌋₊ = em.mantissa := by
  obtain ⟨lower, upper⟩ := h.bounds
  exact (Nat.floor_eq_iff ((Nat.cast_nonneg _).trans lower)).2 ⟨lower, upper⟩

/-- The bits decide how to round. -/
theorem roundedMantissa (h : Describes em x) : em.roundedMantissa = halfEven x := by
  rw [halfEven, h.floor]
  obtain ⟨m, r, s⟩ := em
  cases r <;> cases s <;>
    simp only [Describes, ExtendedMantissa.roundedMantissa, ExtendedMantissa.accuracy,
      Accuracy.roundToNearestEven] at h ⊢ <;>
    split_ifs <;> first | rfl | (exfalso; linarith)

/-- One digit is shifted out. -/
theorem half (h : Describes em x) : Describes em.shiftRightOne (x / 2) := by
  obtain ⟨m, r, s⟩ := em
  have parts : ((m % 2 : ℕ) : ℝ) + 2 * ((m / 2 : ℕ) : ℝ) = m := by
    exact_mod_cast Nat.mod_add_div m 2
  have even : ((0 : ℕ) != 0) = false := rfl
  have odd : ((1 : ℕ) != 0) = true := rfl
  rcases Nat.mod_two_eq_zero_or_one m with last | last <;> rw [last] at parts <;>
    norm_num at parts <;> cases r <;> cases s <;>
    simp only [Describes, ExtendedMantissa.shiftRightOne, last, even, odd, Bool.or_false,
      Bool.or_true] at h ⊢ <;>
    first | linarith | (constructor <;> linarith)

theorem shift (h : Describes em x) (n : ℕ) : Describes (em >>> n) (x / 2 ^ n) := by
  show Describes (Nat.repeat ExtendedMantissa.shiftRightOne n em) _
  induction n with
  | zero => simpa [Nat.repeat] using h
  | succ n ih =>
    rw [pow_succ, ← div_div]
    exact ih.half

end Describes

theorem describes_exact (m : ℕ) : Describes (.ofMantissaAndAccuracy m .exact) m := rfl

/-! ## The rounded double -/

/-- The unit that is aimed at: that of the leading digit, or the smallest. -/
theorem target_eq (m : ℕ) (e : ℤ) : Format.binary64.targetExponent (totalExponent m e) =
    max ((m.log2 : ℤ) + e - 52) (-1074) := by
  simp only [Format.targetExponent, totalExponent, Format.mantissaBits, Format.minExponent]
  norm_num
  omega

/-- A magnitude in canonical form, under a sign. -/
inductive Written (s : Sign) : Float.Model.UnpackedFloat → ℝ → Prop where
  | zero : Written s (.zero s) 0
  | finite {m : ℕ} {e : ℤ} (pos : 0 < m) (canonical : Canonical m e) :
      Written s (.finite s m e pos) (m * 2 ^ e)

theorem shiftRight_zero (em : ExtendedMantissa) : em >>> (0 : ℕ) = em := rfl

/-- A mantissa that fits is not shifted. -/
theorem shiftToTarget_of_lt {m : ℕ} {e : ℤ} (fits : m < 2 ^ 53) (least : -1074 ≤ e) :
    shiftToTargetExponent Format.binary64 m e .exact =
      (.ofMantissaAndAccuracy m .exact, e) := by
  have log : m.log2 < 53 := by
    rcases eq_or_ne m 0 with rfl | some
    · decide
    · exact (Nat.log2_lt some).2 fits
  have still : (max ((m.log2 : ℤ) + e - 52) (-1074) - e).toNat = 0 := by omega
  simp [shiftToTargetExponent, target_eq, shiftToExponent, still, shiftRight_zero]

/-- A mantissa that was rounded up to a further digit gives the last one, a zero, up. -/
theorem shiftToTarget_carry {e : ℤ} (least : -1074 ≤ e) :
    shiftToTargetExponent Format.binary64 (2 ^ 53) e .exact =
      (.ofMantissaAndAccuracy (2 ^ 52) .exact, e + 1) := by
  have once : (max (((2 ^ 53 : ℕ).log2 : ℤ) + e - 52) (-1074) - e).toNat = 1 := by
    rw [Nat.log2_two_pow]
    omega
  simp only [shiftToTargetExponent, target_eq, shiftToExponent, once]
  rfl

/-- A rounded mantissa is written down under its sign, shifted once more if it has to be. -/
theorem written_carry (s : Sign) {m : ℕ} {e : ℤ} (fits : m ≤ 2 ^ 53) (least : -1074 ≤ e)
    (normal : e = -1074 ∨ 2 ^ 52 ≤ m) :
    let shifted := shiftToTargetExponent Format.binary64 m e .exact
    Written s (if h : shifted.1.mantissa = 0 then .zero s
      else .finite s shifted.1.mantissa shifted.2 (Nat.pos_of_ne_zero h)) (m * 2 ^ e) := by
  dsimp only
  rcases fits.lt_or_eq with fits | rfl
  · rw [shiftToTarget_of_lt fits least]
    show Written s (if h : m = 0 then .zero s else .finite s m e (Nat.pos_of_ne_zero h)) _
    by_cases none : m = 0
    · rw [dif_pos none, none, Nat.cast_zero, zero_mul]
      exact .zero
    · rw [dif_neg none]
      exact .finite _ ⟨fits, least, normal⟩
  · rw [shiftToTarget_carry least]
    have value : ((2 ^ 53 : ℕ) : ℝ) * 2 ^ e = ((2 ^ 52 : ℕ) : ℝ) * 2 ^ (e + 1) := by
      rw [two_zpow_add]
      norm_num
      ring
    have canonical : Canonical (2 ^ 52) (e + 1) := ⟨by decide, by omega, .inr le_rfl⟩
    rw [value]
    exact .finite (by decide : 0 < 2 ^ 52) canonical

/-- **The last digit is rounded**: of a number that a mantissa with what follows it describes,
the rounded magnitude is written down. The mantissa has to have all digits of the unit that is
aimed at. -/
theorem written_roundWithAccuracy {m : ℕ} {e : ℤ} {a : Accuracy} {x : ℝ}
    (described : Describes (.ofMantissaAndAccuracy m a) x)
    (fine : e ≤ max ((m.log2 : ℤ) + e - 52) (-1074)) (known : m ≠ 0 ∨ e ≤ -1074) :
    ∃ r, Rounds (x * 2 ^ e) r ∧
      ∀ s, Written s (roundWithAccuracy Format.binary64 s m e a) r := by
  obtain ⟨f, aim⟩ : ∃ f, f = max ((m.log2 : ℤ) + e - 52) (-1074) := ⟨_, rfl⟩
  obtain ⟨k, shift⟩ : ∃ k : ℕ, (f - e).toNat = k := ⟨_, rfl⟩
  rw [← aim] at fine
  have mantissa : (ExtendedMantissa.ofMantissaAndAccuracy m a).mantissa = m := by
    rcases a with _ | _ | _ | _ <;> rfl
  have bounds := described.bounds
  rw [mantissa] at bounds
  have scaled : x * 2 ^ e / 2 ^ f = x / 2 ^ k := by
    have : f = k + e := by omega
    rw [this, two_zpow_add, zpow_natCast, mul_div_mul_right _ _ (two_zpow_pos e).ne']
  have unit : Unit f (x * 2 ^ e) := by
    refine ⟨by omega, ?_, ?_⟩
    · have upper : x < 2 ^ ((m.log2 : ℤ) + 1) := by
        refine bounds.2.trans_le ?_
        exact_mod_cast Nat.lt_log2_self
      calc x * 2 ^ e
        _ < 2 ^ ((m.log2 : ℤ) + 1) * 2 ^ e := mul_lt_mul_of_pos_right upper (two_zpow_pos e)
        _ = 2 ^ ((m.log2 : ℤ) + 1 + e) := (two_zpow_add _ _).symm
        _ ≤ 2 ^ (f + 53) := two_zpow_le (by omega)
    · rcases eq_or_ne m 0 with rfl | some
      · left
        have log : Nat.log2 0 = 0 := rfl
        rw [log] at aim
        have := known.resolve_left (absurd rfl)
        omega
      · rw [or_iff_not_imp_left]
        intro normal
        have lower : (2 : ℝ) ^ (m.log2 : ℤ) ≤ x := by
          refine le_trans ?_ bounds.1
          exact_mod_cast Nat.log2_self_le some
        calc (2 : ℝ) ^ (f + 52)
          _ = 2 ^ (m.log2 : ℤ) * 2 ^ e := by
            rw [← two_zpow_add]
            congr 1
            omega
          _ ≤ x * 2 ^ e := mul_le_mul_of_nonneg_right lower (two_zpow_pos e).le
  have rounded := (described.shift k).roundedMantissa
  refine ⟨_, ⟨f, unit, rfl⟩, fun s => ?_⟩
  have full := unit.halfEven_le
  have normal := unit.le_halfEven
  rw [scaled, ← rounded] at full normal ⊢
  have first : shiftToTargetExponent Format.binary64 m e a =
      (ExtendedMantissa.ofMantissaAndAccuracy m a >>> k, f) := by
    have : e + (k : ℤ) = f := by omega
    simp only [shiftToTargetExponent, target_eq, shiftToExponent, ← aim, shift, this]
  simp only [roundWithAccuracy, first]
  exact written_carry s full unit.least normal

theorem log2_mul_two_pow {m : ℕ} (some : m ≠ 0) (k : ℕ) : (m * 2 ^ k).log2 = m.log2 + k := by
  have scale : m * 2 ^ k ≠ 0 := Nat.mul_ne_zero some (Nat.two_pow_pos k).ne'
  refine (Nat.log2_eq_iff scale).2 ⟨?_, ?_⟩
  · rw [pow_add]
    exact Nat.mul_le_mul_right _ (Nat.log2_self_le some)
  · rw [add_right_comm, pow_add]
    exact Nat.mul_lt_mul_of_pos_right Nat.lt_log2_self (Nat.two_pow_pos k)

/-- A magnitude with any digits is rounded. -/
theorem written_round {m : ℕ} (some : m ≠ 0) (e : ℤ) :
    ∃ r, Rounds (m * 2 ^ e) r ∧
      ∀ s, Written s (Float.Model.UnpackedFloat.round Format.binary64 s m e) r := by
  obtain ⟨k, shift⟩ : ∃ k, (e - max ((m.log2 : ℤ) + e - 52) (-1074)).toNat = k := ⟨_, rfl⟩
  have value : ((m * 2 ^ k : ℕ) : ℝ) * 2 ^ (e - k) = m * 2 ^ e := by
    rw [Nat.cast_mul, Nat.cast_pow, Nat.cast_two, mul_assoc, ← zpow_natCast, ← two_zpow_add]
    congr 2
    omega
  have scale : m * 2 ^ k ≠ 0 := Nat.mul_ne_zero some (Nat.two_pow_pos k).ne'
  have log := log2_mul_two_pow some k
  obtain ⟨r, rounds, written⟩ := written_roundWithAccuracy (describes_exact (m * 2 ^ k))
    (by omega : e - k ≤ _) (.inl scale)
  rw [value] at rounds
  refine ⟨r, rounds, fun s => ?_⟩
  simp only [Float.Model.UnpackedFloat.round, target_eq, decreaseExponent, shift, Nat.shiftLeft_eq]
  exact written s

/-- The double for a number before it is packed: its magnitude rounded, under its sign. A zero
may have any sign. -/
def Takes (x : ℝ) (z : Float.Model.UnpackedFloat) : Prop :=
  ∃ s r, Written s z r ∧ Rounds |x| r ∧ (0 ≤ x ∧ s = .positive ∨ x ≤ 0 ∧ s = .negative)

theorem rounds_zero : Rounds 0 0 := by
  have zero : Canonical 0 (-1074) := ⟨by decide, le_rfl, .inl rfl⟩
  simpa using zero.rounds

theorem takes_zero (s : Sign) : Takes 0 (.zero s) := by
  refine ⟨s, 0, .zero, ?_, ?_⟩
  · rw [abs_zero]
    exact rounds_zero
  · cases s
    · exact .inr ⟨le_rfl, rfl⟩
    · exact .inl ⟨le_rfl, rfl⟩

/-- A number with an integral multiple of a power of two is rounded. -/
theorem takes_normalize (m e : ℤ) :
    Takes (m * 2 ^ e) (Float.Model.UnpackedFloat.normalize Format.binary64 m e .positive) := by
  unfold Float.Model.UnpackedFloat.normalize
  rcases lt_trichotomy m 0 with neg | rfl | pos
  · obtain ⟨r, rounds, written⟩ := written_round (m := (-m).toNat) (by omega) e
    have value : (((-m).toNat : ℕ) : ℝ) * 2 ^ e = |(m : ℝ) * 2 ^ e| := by
      have cast : (((-m).toNat : ℕ) : ℝ) = -(m : ℝ) := by
        exact_mod_cast Int.toNat_of_nonneg (show 0 ≤ -m by omega)
      have below : (m : ℝ) < 0 := by exact_mod_cast neg
      rw [abs_mul, abs_of_neg below, abs_of_pos (two_zpow_pos e), cast]
    rw [Int.compare_eq_lt.2 neg]
    refine ⟨.negative, r, written _, value ▸ rounds, .inr ⟨?_, rfl⟩⟩
    exact mul_nonpos_of_nonpos_of_nonneg (by exact_mod_cast neg.le) (two_zpow_pos e).le
  · simpa using takes_zero .positive
  · obtain ⟨r, rounds, written⟩ := written_round (m := m.toNat) (by omega) e
    have value : ((m.toNat : ℕ) : ℝ) * 2 ^ e = |(m : ℝ) * 2 ^ e| := by
      have cast : ((m.toNat : ℕ) : ℝ) = (m : ℝ) := by
        exact_mod_cast Int.toNat_of_nonneg pos.le
      have above : (0 : ℝ) < m := by exact_mod_cast pos
      rw [abs_mul, abs_of_pos above, abs_of_pos (two_zpow_pos e), cast]
    rw [Int.compare_eq_gt.2 pos]
    refine ⟨.positive, r, written _, value ▸ rounds, .inl ⟨?_, rfl⟩⟩
    exact mul_nonneg (by exact_mod_cast pos.le) (two_zpow_pos e).le

end Gradebook.Decimal
