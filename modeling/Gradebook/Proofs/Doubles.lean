/-
# Gradebook.Proofs.Doubles — doubles as numbers

A double is taken apart into a sign, a significand and an exponent. Its order is that of the
numbers it stands for (`compare_eq`), packing it again loses nothing below the limit
(`unpack_pack_finite`), and the digits that grades are written with are read off the same
fields (`kind_eq`).

`Stands x a` says that the finite double `x` stands for the real number `a`, and `Nearest a z`
that `z` is the double that arithmetic takes for `a`. Of the nearest double all that is used is
its place: `Nearest.le` keeps the order, `Stands.nearest` finds a number that has a double.
-/
import Gradebook.Proofs.Rounding
import Gradebook.Decimal.Binary
import Mathlib

namespace Gradebook.Decimal

set_option autoImplicit false

open Float.Model (Format totalExponent UnpackedFloat)
open Float.Model.UnpackedFloat

/-! ## Order -/

/-- Numbers in canonical form. -/
def Shaped : UnpackedFloat → Prop
  | .finite _ m e _ => Canonical m e
  | _ => True

/-- The number that is stood for; NaN and the infinities stand for none, and are given zero. -/
noncomputable def realOf : UnpackedFloat → ℝ
  | .finite .negative m e _ => -magnitude m e
  | .finite .positive m e _ => magnitude m e
  | _ => 0

/-- The infinities are the two ends of the numbers. -/
noncomputable def extentOf : UnpackedFloat → EReal
  | .infinity .negative => ⊥
  | .infinity .positive => ⊤
  | z => realOf z

/-- Magnitudes are compared by their exponents first. -/
theorem compare_magnitudes {m n : ℕ} {e f : ℤ} (h : Canonical m e) (k : Canonical n f) :
    (compare e f).then (compare m n) = compare (magnitude m e) (magnitude n f) := by
  rcases lt_trichotomy e f with lower | rfl | higher
  · have : magnitude m e < magnitude n f := h.lt_of_exponent_lt k lower
    rw [Int.compare_eq_lt.2 lower, compare_lt_iff_lt.2 this]
    rfl
  · rw [compare_eq_iff_eq.2 rfl, Ordering.eq_then]
    rcases lt_trichotomy m n with less | rfl | more
    · have : magnitude m e < magnitude n e :=
        mul_lt_mul_of_pos_right (Nat.cast_lt.2 less) (two_zpow_pos e)
      rw [Nat.compare_eq_lt.2 less, compare_lt_iff_lt.2 this]
    · rw [Nat.compare_eq_eq.2 rfl, compare_eq_iff_eq.2 rfl]
    · have : magnitude n e < magnitude m e :=
        mul_lt_mul_of_pos_right (Nat.cast_lt.2 more) (two_zpow_pos e)
      rw [Nat.compare_eq_gt.2 more, compare_gt_iff_gt.2 this]
  · have : magnitude n f < magnitude m e := k.lt_of_exponent_lt h higher
    rw [Int.compare_eq_gt.2 higher, compare_gt_iff_gt.2 this]
    rfl

theorem compare_coe (x y : ℝ) : compare (x : EReal) (y : EReal) = compare x y := by
  rcases lt_trichotomy x y with less | rfl | more
  · rw [compare_lt_iff_lt.2 less, compare_lt_iff_lt.2 (EReal.coe_lt_coe_iff.2 less)]
  · rw [compare_eq_iff_eq.2 rfl, compare_eq_iff_eq.2 rfl]
  · rw [compare_gt_iff_gt.2 more, compare_gt_iff_gt.2 (EReal.coe_lt_coe_iff.2 more)]

theorem compare_neg (x y : ℝ) : compare (-x) (-y) = (compare x y).swap := by
  rcases lt_trichotomy x y with less | rfl | more
  · rw [compare_lt_iff_lt.2 less, compare_gt_iff_gt.2 (neg_lt_neg less)]
    rfl
  · rw [compare_eq_iff_eq.2 rfl, compare_eq_iff_eq.2 rfl]
    rfl
  · rw [compare_gt_iff_gt.2 more, compare_lt_iff_lt.2 (neg_lt_neg more)]
    rfl

section Places

variable {x y : EReal}

theorem some_lt (h : x < y) : some Ordering.lt = some (compare x y) :=
  congrArg some (compare_lt_iff_lt.2 h).symm

theorem some_eq (h : x = y) : some Ordering.eq = some (compare x y) :=
  congrArg some (compare_eq_iff_eq.2 h).symm

theorem some_gt (h : y < x) : some Ordering.gt = some (compare x y) :=
  congrArg some (compare_gt_iff_gt.2 h).symm

end Places

theorem extentOf_positive {m : ℕ} {e : ℤ} (pos : 0 < m) : 0 < extentOf (.finite .positive m e pos) :=
  EReal.coe_pos.2 (magnitude_pos pos e)

theorem extentOf_negative {m : ℕ} {e : ℤ} (pos : 0 < m) : extentOf (.finite .negative m e pos) < 0 :=
  EReal.coe_neg'.2 (neg_lt_zero.2 (magnitude_pos pos e))

/-- **The order of doubles is that of the numbers they stand for.** -/
theorem compare_eq : ∀ {a b : UnpackedFloat}, Shaped a → Shaped b → a ≠ .notANumber →
    b ≠ .notANumber → a.compare b = some (compare (extentOf a) (extentOf b))
  | .notANumber, _, _, _, number, _ => absurd rfl number
  | _, .notANumber, _, _, _, number => absurd rfl number
  | .infinity .negative, .infinity .negative, _, _, _, _ => some_eq rfl
  | .infinity .negative, .infinity .positive, _, _, _, _ => some_lt bot_lt_top
  | .infinity .negative, .zero _, _, _, _, _ => some_lt (EReal.bot_lt_coe _)
  | .infinity .negative, .finite .negative _ _ _, _, _, _, _ => some_lt (EReal.bot_lt_coe _)
  | .infinity .negative, .finite .positive _ _ _, _, _, _, _ => some_lt (EReal.bot_lt_coe _)
  | .infinity .positive, .infinity .negative, _, _, _, _ => some_gt bot_lt_top
  | .infinity .positive, .infinity .positive, _, _, _, _ => some_eq rfl
  | .infinity .positive, .zero _, _, _, _, _ => some_gt (EReal.coe_lt_top _)
  | .infinity .positive, .finite .negative _ _ _, _, _, _, _ => some_gt (EReal.coe_lt_top _)
  | .infinity .positive, .finite .positive _ _ _, _, _, _, _ => some_gt (EReal.coe_lt_top _)
  | .zero _, .infinity .negative, _, _, _, _ => some_gt (EReal.bot_lt_coe _)
  | .zero _, .infinity .positive, _, _, _, _ => some_lt (EReal.coe_lt_top _)
  | .zero _, .zero _, _, _, _, _ => some_eq rfl
  | .zero _, .finite .negative _ _ pos, _, _, _, _ => some_gt (extentOf_negative pos)
  | .zero _, .finite .positive _ _ pos, _, _, _, _ => some_lt (extentOf_positive pos)
  | .finite .negative _ _ _, .infinity .negative, _, _, _, _ => some_gt (EReal.bot_lt_coe _)
  | .finite .positive _ _ _, .infinity .negative, _, _, _, _ => some_gt (EReal.bot_lt_coe _)
  | .finite .negative _ _ _, .infinity .positive, _, _, _, _ => some_lt (EReal.coe_lt_top _)
  | .finite .positive _ _ _, .infinity .positive, _, _, _, _ => some_lt (EReal.coe_lt_top _)
  | .finite .negative _ _ pos, .zero _, _, _, _, _ => some_lt (extentOf_negative pos)
  | .finite .positive _ _ pos, .zero _, _, _, _, _ => some_gt (extentOf_positive pos)
  | .finite .negative _ _ pos, .finite .positive _ _ pos', _, _, _, _ =>
    some_lt ((extentOf_negative pos).trans (extentOf_positive pos'))
  | .finite .positive _ _ pos, .finite .negative _ _ pos', _, _, _, _ =>
    some_gt ((extentOf_negative pos').trans (extentOf_positive pos))
  | .finite .negative m e _, .finite .negative n f _, h, k, _, _ => by
    show some ((compare e f).then (compare m n)).swap = some (compare ((-magnitude m e : ℝ) : EReal)
      ((-magnitude n f : ℝ) : EReal))
    rw [compare_magnitudes h k, compare_coe, compare_neg]
  | .finite .positive m e _, .finite .positive n f _, h, k, _, _ => by
    show some ((compare e f).then (compare m n)) = some (compare (magnitude m e : EReal)
      (magnitude n f : EReal))
    rw [compare_magnitudes h k, compare_coe]

/-! ## Bit patterns -/

theorem toNat_unpackExponent (b : BitVec Format.binary64.numBits) :
    (unpackExponent b).toNat = b.toNat / Nat.pow 2 52 % Nat.pow 2 11 := by
  rw [unpackExponent_def, BitVec.extractLsb'_toNat, Nat.shiftRight_eq_div_pow]
  rfl

theorem toNat_unpackMantissa (b : BitVec Format.binary64.numBits) :
    (unpackMantissa b).toNat = b.toNat % Nat.pow 2 52 := by
  rw [unpackMantissa_def, BitVec.extractLsb'_toNat, Nat.shiftRight_zero]
  rfl

theorem toNat_unpackSign (b : BitVec Format.binary64.numBits) :
    (unpackSign b).toNat = b.toNat / Nat.pow 2 63 % 2 := by
  rw [unpackSign_def, BitVec.extractLsb'_toNat, Nat.shiftRight_eq_div_pow]
  rfl

/-- The double that was unpacked, as its sign, significand and exponent. -/
def kindOf : UnpackedFloat → Kind
  | .infinity s => .infinite (s matches .negative)
  | .notANumber => .nan
  | .zero s => .finite ⟨s matches .negative, 0, -1074⟩
  | .finite s m e _ => .finite ⟨s matches .negative, m, e⟩

theorem negative_unpackSign (b : BitVec Format.binary64.numBits) :
    (Sign.ofBitVec (unpackSign b) matches .negative) =
      (b.toNat / Nat.pow 2 63 % 2 == 1) := by
  rw [← toNat_unpackSign]
  generalize unpackSign b = s
  revert s
  decide

theorem toNat_implicit (m : BitVec 52) : (1#1 ++ m).toNat = m.toNat + Nat.pow 2 52 := by
  rw [BitVec.toNat_append, ← Nat.shiftLeft_add_eq_or_of_lt m.isLt, Nat.add_comm]
  rfl

theorem implicit_pos (m : BitVec 52) : 0 < (1#1 ++ m).toNat := by
  rw [toNat_implicit]
  exact Nat.add_pos_right _ (Nat.two_pow_pos 52)

theorem toNat_pos {n : ℕ} {m : BitVec n} (some : m ≠ 0#n) : 0 < m.toNat :=
  Nat.pos_of_ne_zero fun none => some (BitVec.toNat_inj.1 none)

/-- What a bit pattern stands for, by its three fields. -/
theorem kindOfBits_fields (bits : ℕ) : kindOfBits bits =
    if bits / Nat.pow 2 52 % Nat.pow 2 11 = 2047 then
      if bits % Nat.pow 2 52 = 0 then .infinite (bits / Nat.pow 2 63 % 2 == 1) else .nan
    else if bits / Nat.pow 2 52 % Nat.pow 2 11 = 0 then
      .finite ⟨bits / Nat.pow 2 63 % 2 == 1, bits % Nat.pow 2 52, -1074⟩
    else .finite ⟨bits / Nat.pow 2 63 % 2 == 1, bits % Nat.pow 2 52 + Nat.pow 2 52,
      ((bits / Nat.pow 2 52 % Nat.pow 2 11 : ℕ) : ℤ) - 1075⟩ := rfl

/-- How a double is unpacked, by its three fields. -/
theorem unpack_fields (b : BitVec Format.binary64.numBits) : unpack Format.binary64 b =
    if unpackExponent b = -1#11 then
      if unpackMantissa b = 0#52 then .infinity (.ofBitVec (unpackSign b)) else .notANumber
    else if unpackExponent b = 0#11 then
      if h : unpackMantissa b = 0#52 then .zero (.ofBitVec (unpackSign b))
      else .finite (.ofBitVec (unpackSign b)) (unpackMantissa b).toNat
        ((unpackExponent b).toNat - 1075 + 1) (toNat_pos h)
    else .finite (.ofBitVec (unpackSign b)) (1#1 ++ unpackMantissa b).toNat
      ((unpackExponent b).toNat - 1075) (implicit_pos _) := rfl

/-- **The fields of a bit pattern are read alike** by the arithmetic and by what writes digits. -/
theorem kindOfBits_eq (b : BitVec Format.binary64.numBits) :
    kindOfBits b.toNat = kindOf (unpack Format.binary64 b) := by
  have full : unpackExponent b = -1#11 ↔ (unpackExponent b).toNat = 2047 := BitVec.toNat_inj.symm
  have least : unpackExponent b = 0#11 ↔ (unpackExponent b).toNat = 0 := BitVec.toNat_inj.symm
  have empty : unpackMantissa b = 0#52 ↔ (unpackMantissa b).toNat = 0 := BitVec.toNat_inj.symm
  rw [kindOfBits_fields, ← negative_unpackSign, ← toNat_unpackExponent, ← toNat_unpackMantissa,
    unpack_fields]
  by_cases h : unpackExponent b = -1#11
  · rw [if_pos (full.1 h), if_pos h]
    by_cases k : unpackMantissa b = 0#52
    · rw [if_pos (empty.1 k), if_pos k]
      rfl
    · rw [if_neg (empty.not.1 k), if_neg k]
      rfl
  · rw [if_neg (full.not.1 h), if_neg h]
    by_cases k : unpackExponent b = 0#11
    · rw [if_pos (least.1 k), if_pos k]
      by_cases l : unpackMantissa b = 0#52
      · rw [dif_pos l, empty.1 l]
        rfl
      · rw [dif_neg l, k]
        rfl
    · rw [if_neg (least.not.1 k), if_neg k]
      show _ = Kind.finite ⟨_, (1#1 ++ unpackMantissa b).toNat, _⟩
      rw [toNat_implicit]

theorem canonical_of_kindOfBits {bits m : ℕ} {e : ℤ} {negative : Bool}
    (h : kindOfBits bits = .finite ⟨negative, m, e⟩) : Canonical m e ∧ e ≤ 971 := by
  have field : bits / Nat.pow 2 52 % Nat.pow 2 11 < 2 ^ 11 := Nat.mod_lt _ (by decide)
  have fraction : bits % Nat.pow 2 52 < 2 ^ 52 := Nat.mod_lt _ (by decide)
  rw [kindOfBits_fields] at h
  split at h
  · split at h <;> cases h
  · split at h
    · injection h with h
      injection h with _ h k
      subst h k
      exact ⟨⟨by omega, le_rfl, .inl rfl⟩, by decide⟩
    · injection h with h
      injection h with _ h k
      have normal : Nat.pow 2 52 = 2 ^ 52 := rfl
      exact ⟨⟨by omega, by omega, .inr (by omega)⟩, by omega⟩

theorem kind_eq (x : Float) : kind x = kindOf x.toModel.unpack := kindOfBits_eq _

theorem canonical_of_unpack {x : Float.Model} {s : Sign} {m : ℕ} {e : ℤ} {pos : 0 < m}
    (h : x.unpack = .finite s m e pos) : Canonical m e ∧ e ≤ 971 := by
  have read := kindOfBits_eq x.toBits.toBitVec
  rw [show unpack Format.binary64 x.toBits.toBitVec = .finite s m e pos from h] at read
  exact canonical_of_kindOfBits read

/-! ## Packing -/

theorem Canonical.magnitude_lt {m : ℕ} {e : ℤ} (h : Canonical m e) :
    magnitude m e < limit ↔ e ≤ 971 := by
  refine ⟨fun below => ?_, fun small => ?_⟩
  · by_contra large
    have normal := h.unit.above.resolve_left (by omega)
    have : (2 : ℝ) ^ (1024 : ℤ) ≤ 2 ^ (e + 52) := two_zpow_le (by omega)
    exact absurd (this.trans normal) (not_le.2 below)
  · exact h.unit.below.trans_le (two_zpow_le (by omega))

theorem unpack_pack_zero (s : Sign) : (Float.Model.pack (.zero s)).unpack = .zero s :=
  unpack_packedZero

theorem unpack_pack_infinity (s : Sign) :
    (Float.Model.pack (.infinity s)).unpack = .infinity s := by
  cases s <;> rfl

/-- A finite number is packed by its leading digit. -/
theorem pack_finite (s : Sign) (m : ℕ) (e : ℤ) (pos : 0 < m) :
    pack Format.binary64 (.finite s m e pos) =
      if 2048 ≤ (e + 1023 + 52).toNat + 1 then packedInfinity Format.binary64 s
      else if m.log2 + 1 = 53 then
        packComponents Format.binary64 s (BitVec.ofNat 11 (e + 1023 + 52).toNat) (BitVec.ofNat 52 m)
      else packComponents Format.binary64 s 0#11 (BitVec.ofNat 52 m) := rfl

theorem unpack_normal {s : Sign} {exponent : BitVec 11} {mantissa : BitVec 52}
    (full : exponent ≠ -1#11) (least : exponent ≠ 0#11) :
    unpack Format.binary64 (packComponents Format.binary64 s exponent mantissa) =
      .finite s (1#1 ++ mantissa).toNat (exponent.toNat - 1075)
        (implicit_pos _) := by
  rw [unpack_fields, unpackExponent_packComponents, if_neg full, if_neg least]
  simp only [unpackMantissa_packComponents, unpackSign_packComponents, Sign.ofBitVec_toBitVec]

theorem unpack_subnormal {s : Sign} {mantissa : BitVec 52} (some : mantissa ≠ 0#52) :
    unpack Format.binary64 (packComponents Format.binary64 s 0#11 mantissa) =
      .finite s mantissa.toNat (-1074) (toNat_pos some) := by
  rw [unpack_fields, unpackExponent_packComponents, if_neg (by decide), if_pos rfl]
  simp only [unpackMantissa_packComponents, unpackSign_packComponents, Sign.ofBitVec_toBitVec]
  rw [dif_neg some]
  rfl

/-- What is beyond the limit becomes infinite. -/
theorem unpack_pack_large {s : Sign} {m : ℕ} {e : ℤ} (pos : 0 < m) (large : 971 < e) :
    (Float.Model.pack (.finite s m e pos)).unpack = .infinity s := by
  have infinite : pack Format.binary64 (.finite s m e pos) = packedInfinity Format.binary64 s := by
    rw [pack_finite, if_pos (by omega)]
  rw [← unpack_pack_infinity]
  exact congrArg (unpack Format.binary64) infinite

/-- What is within the limit is packed without loss. -/
theorem unpack_pack_finite {s : Sign} {m : ℕ} {e : ℤ} (pos : 0 < m) (h : Canonical m e)
    (small : e ≤ 971) :
    (Float.Model.pack (.finite s m e pos)).unpack = .finite s m e pos := by
  have below := h.below
  have least := h.least
  show unpack Format.binary64 (pack Format.binary64 (.finite s m e pos)) = _
  rw [pack_finite, if_neg (by omega)]
  by_cases normal : 2 ^ 52 ≤ m
  · have log : m.log2 + 1 = 53 := by
      rw [(Nat.log2_eq_iff pos.ne').2 ⟨normal, below⟩]
    have exponent : (BitVec.ofNat 11 (e + 1023 + 52).toNat).toNat = (e + 1075).toNat := by
      rw [BitVec.toNat_ofNat, Nat.mod_eq_of_lt (by omega)]
      omega
    have mantissa : (1#1 ++ BitVec.ofNat 52 m).toNat = m := by
      rw [toNat_implicit, BitVec.toNat_ofNat]
      show m % 2 ^ 52 + 2 ^ 52 = m
      omega
    have full : BitVec.ofNat 11 (e + 1023 + 52).toNat ≠ -1#11 := fun full => by
      have : (e + 1075).toNat = 2047 := exponent.symm.trans (congrArg BitVec.toNat full)
      omega
    have first : BitVec.ofNat 11 (e + 1023 + 52).toNat ≠ 0#11 := fun first => by
      have : (e + 1075).toNat = 0 := exponent.symm.trans (congrArg BitVec.toNat first)
      omega
    rw [if_pos log, unpack_normal full first]
    congr 1
    omega
  · have log : ¬m.log2 + 1 = 53 := by
      have := (Nat.log2_lt pos.ne').2 (not_le.1 normal)
      omega
    have mantissa : (BitVec.ofNat 52 m).toNat = m := Nat.mod_eq_of_lt (by omega)
    have some : BitVec.ofNat 52 m ≠ 0#52 := fun none =>
      pos.ne' (mantissa.symm.trans (congrArg BitVec.toNat none))
    obtain rfl := h.normal.resolve_right normal
    rw [if_neg log, unpack_subnormal some]
    congr 1

/-! ## Doubles and the numbers they stand for -/

/-- Where a double lies between the infinities. NaN, which does not lie anywhere, is put at zero. -/
noncomputable def extent (x : Float) : EReal := extentOf x.toModel.unpack

theorem isNaN_eq_false {x : Float} : x.isNaN = false ↔ x.toModel.unpack ≠ .notANumber := by
  show x.toModel.unpack.isNaN = false ↔ _
  rw [← not_iff_not, Bool.not_eq_false, not_not, isNaN_iff]

theorem shaped_unpack (x : Float) : Shaped x.toModel.unpack := by
  cases h : x.toModel.unpack with
  | finite s m e pos => exact (canonical_of_unpack h).1
  | _ => trivial

theorem compare_eq_extent {x y : Float} (hx : x.isNaN = false) (hy : y.isNaN = false) :
    x.toModel.unpack.compare y.toModel.unpack = some (compare (extent x) (extent y)) :=
  compare_eq (shaped_unpack x) (shaped_unpack y) (isNaN_eq_false.1 hx) (isNaN_eq_false.1 hy)

theorem le_iff_extent {x y : Float} (hx : x.isNaN = false) (hy : y.isNaN = false) :
    x ≤ y ↔ extent x ≤ extent y := by
  have le : x ≤ y ↔ (x.toModel.unpack.compare y.toModel.unpack).any (·.isLE) = true :=
    decide_eq_true_iff
  rw [le, compare_eq_extent hx hy, Option.any_some, ← Ordering.ne_gt_iff_isLE]
  exact compare_le_iff_le

theorem lt_iff_extent {x y : Float} (hx : x.isNaN = false) (hy : y.isNaN = false) :
    x < y ↔ extent x < extent y := by
  have lt : x < y ↔ (x.toModel.unpack.compare y.toModel.unpack == some .lt) = true :=
    decide_eq_true_iff
  rw [lt, compare_eq_extent hx hy, beq_iff_eq, Option.some.injEq, compare_lt_iff_lt]

theorem not_lt_iff {x y : Float} (hx : x.isNaN = false) (hy : y.isNaN = false) :
    ¬x < y ↔ y ≤ x := by
  rw [lt_iff_extent hx hy, le_iff_extent hy hx, not_lt]

/-- NaN is compared with nothing. -/
theorem number_of_le {x y : Float} (h : x ≤ y) : x.isNaN = false ∧ y.isNaN = false := by
  have le : x.toModel.unpack.le y.toModel.unpack = true := of_decide_eq_true (show _ = true from h)
  rw [isNaN_eq_false, isNaN_eq_false]
  refine ⟨fun nan => ?_, fun nan => ?_⟩ <;> rw [nan] at le
  · exact Bool.false_ne_true le
  · cases unpacked : x.toModel.unpack <;> rw [unpacked] at le <;> exact Bool.false_ne_true le

theorem le_trans {x y z : Float} (h : x ≤ y) (k : y ≤ z) : x ≤ z := by
  obtain ⟨hx, hy⟩ := number_of_le h
  have hz := (number_of_le k).2
  rw [le_iff_extent hx hy] at h
  rw [le_iff_extent hy hz] at k
  exact (le_iff_extent hx hz).2 (h.trans k)

/-- The finite double stands for the number. -/
structure Stands (x : Float) (a : ℝ) : Prop where
  number : x.isNaN = false
  extent : extent x = a

/-- A double that stands for a number, taken apart. -/
theorem Stands.cases {x : Float} {a : ℝ} (h : Stands x a) :
    (∃ s, x.toModel.unpack = .zero s ∧ a = 0) ∨
      ∃ s m e pos, x.toModel.unpack = .finite s m e pos ∧ Canonical m e ∧ e ≤ 971 ∧
        a = realOf (.finite s m e pos) := by
  have place := h.extent
  rw [Decimal.extent] at place
  cases unpacked : x.toModel.unpack with
  | infinity s =>
    rw [unpacked] at place
    cases s
    · exact absurd place (EReal.bot_ne_coe a)
    · exact absurd place.symm (EReal.coe_ne_top a)
  | notANumber => exact absurd unpacked (isNaN_eq_false.1 h.number)
  | zero s =>
    rw [unpacked] at place
    exact .inl ⟨s, rfl, (EReal.coe_eq_coe_iff.1 place).symm⟩
  | finite s m e pos =>
    rw [unpacked] at place
    obtain ⟨canonical, small⟩ := canonical_of_unpack unpacked
    refine .inr ⟨s, m, e, pos, rfl, canonical, small, ?_⟩
    cases s <;> exact (EReal.coe_eq_coe_iff.1 place).symm

/-- The double that arithmetic takes for a number. -/
def Nearest (a : ℝ) (z : Float) : Prop := ∃ u, Takes a u ∧ z.toModel = Float.Model.pack u

/-- A rounded magnitude as a place; from the limit on there is only infinity. -/
noncomputable def bounded (r : ℝ) : EReal := if r < limit then (r : EReal) else ⊤

theorem bounded_of_lt {r : ℝ} (h : r < limit) : bounded r = r := if_pos h

theorem bounded_of_ge {r : ℝ} (h : limit ≤ r) : bounded r = ⊤ := if_neg (not_lt.2 h)

theorem bounded_zero : bounded 0 = 0 := bounded_of_lt (two_zpow_pos 1024)

theorem bounded_mono {r s : ℝ} (le : r ≤ s) : bounded r ≤ bounded s := by
  rcases lt_or_ge s limit with upper | beyond
  · rw [bounded_of_lt upper, bounded_of_lt (le.trans_lt upper)]
    exact EReal.coe_le_coe_iff.2 le
  · rw [bounded_of_ge beyond]
    exact le_top

theorem bounded_nonneg {r : ℝ} (nonneg : 0 ≤ r) : 0 ≤ bounded r := by
  rw [← bounded_zero]
  exact bounded_mono nonneg

/-- A place under a sign. -/
noncomputable def underSign : Sign → EReal → EReal
  | .positive, a => a
  | .negative, a => -a

/-- Packing puts a magnitude at its place. -/
theorem Written.extent {s : Sign} {u : UnpackedFloat} {r : ℝ} (h : Written s u r) :
    (Float.Model.pack u).unpack ≠ .notANumber ∧
      extentOf (Float.Model.pack u).unpack = underSign s (bounded r) := by
  cases h with
  | zero =>
    rw [unpack_pack_zero, bounded_zero]
    refine ⟨nofun, ?_⟩
    cases s <;> simp [extentOf, realOf, underSign]
  | @finite m e pos canonical =>
    rw [show (m : ℝ) * 2 ^ e = magnitude m e from rfl]
    by_cases small : e ≤ 971
    · rw [unpack_pack_finite pos canonical small,
        bounded_of_lt (canonical.magnitude_lt.2 small)]
      refine ⟨nofun, ?_⟩
      cases s
      · exact EReal.coe_neg _
      · rfl
    · rw [unpack_pack_large pos (not_le.1 small),
        bounded_of_ge (not_lt.1 fun below => small (canonical.magnitude_lt.1 below))]
      refine ⟨nofun, ?_⟩
      cases s <;> rfl

namespace Nearest

variable {a b : ℝ} {z w : Float}

theorem extent (h : Nearest a z) : z.isNaN = false ∧ ∃ r, Rounds |a| r ∧
    (0 ≤ a ∧ Decimal.extent z = bounded r ∨ a ≤ 0 ∧ Decimal.extent z = -bounded r) := by
  obtain ⟨u, ⟨s, r, written, rounds, sign⟩, packed⟩ := h
  obtain ⟨number, place⟩ := written.extent
  rw [← packed] at number place
  refine ⟨isNaN_eq_false.2 number, r, rounds, ?_⟩
  rcases sign with ⟨nonneg, rfl⟩ | ⟨nonpos, rfl⟩
  · exact .inl ⟨nonneg, place⟩
  · exact .inr ⟨nonpos, place⟩

theorem number (h : Nearest a z) : z.isNaN = false := h.extent.1

/-- **The nearest doubles are in the order of the numbers.** -/
theorem le (h : Nearest a z) (k : Nearest b w) (le : a ≤ b) : z ≤ w := by
  obtain ⟨hz, r, rounds, sign⟩ := h.extent
  obtain ⟨hw, s, rounds', sign'⟩ := k.extent
  have nonneg := bounded_nonneg rounds.nonneg
  have nonneg' := bounded_nonneg rounds'.nonneg
  rw [le_iff_extent hz hw]
  rcases sign with ⟨above, place⟩ | ⟨below, place⟩ <;>
    rcases sign' with ⟨above', place'⟩ | ⟨below', place'⟩ <;> rw [place, place']
  · rw [abs_of_nonneg above] at rounds
    rw [abs_of_nonneg above'] at rounds'
    exact bounded_mono (rounds.mono rounds' le)
  · -- Both are zero.
    obtain rfl : a = 0 := le_antisymm (le.trans below') above
    obtain rfl : b = 0 := le_antisymm below' le
    rw [abs_zero] at rounds rounds'
    have none := rounds.mono rounds_zero le_rfl
    have none' := rounds'.mono rounds_zero le_rfl
    obtain rfl : r = 0 := le_antisymm none rounds.nonneg
    obtain rfl : s = 0 := le_antisymm none' rounds'.nonneg
    simp [bounded_zero]
  · have nonpos : -bounded r ≤ 0 := by simpa using EReal.neg_le_neg_iff.2 nonneg
    exact nonpos.trans nonneg'
  · rw [abs_of_nonpos below] at rounds
    rw [abs_of_nonpos below'] at rounds'
    exact EReal.neg_le_neg_iff.2 (bounded_mono (rounds'.mono rounds (neg_le_neg le)))

end Nearest

namespace Stands

variable {x y : Float} {a b : ℝ}

theorem le_iff (h : Stands x a) (k : Stands y b) : x ≤ y ↔ a ≤ b := by
  rw [le_iff_extent h.number k.number, h.extent, k.extent, EReal.coe_le_coe_iff]

theorem unique (h : Stands x a) (k : Stands x b) : a = b :=
  EReal.coe_eq_coe_iff.1 (h.extent.symm.trans k.extent)

/-- A number that has a double is not rounded. -/
theorem takes (h : Stands x a) : Takes a x.toModel.unpack := by
  rcases h.cases with ⟨s, unpacked, rfl⟩ | ⟨s, m, e, pos, unpacked, canonical, -, rfl⟩
  · rw [unpacked]
    exact takes_zero s
  · rw [unpacked]
    have above := (magnitude_pos pos e).le
    refine ⟨s, magnitude m e, .finite pos canonical, ?_⟩
    cases s
    · refine ⟨?_, .inr ⟨neg_nonpos.2 above, rfl⟩⟩
      rw [realOf, abs_neg, abs_of_nonneg above]
      exact canonical.rounds
    · refine ⟨?_, .inl ⟨above, rfl⟩⟩
      rw [realOf, abs_of_nonneg above]
      exact canonical.rounds

end Stands

theorem pack_unpack_model (x : Float.Model) : Float.Model.pack x.unpack = x := by
  obtain ⟨bits, valid⟩ := x
  have same := pack_unpack_of_valid valid
  simp only [Float.Model.pack, Float.Model.unpack, same]

theorem Stands.nearest {x : Float} {a : ℝ} (h : Stands x a) : Nearest a x :=
  ⟨x.toModel.unpack, h.takes, (pack_unpack_model _).symm⟩

/-- Between two doubles that stand for numbers there is no other kind. -/
theorem Stands.between {x y z : Float} {a b : ℝ} (lower : Stands x a) (upper : Stands y b)
    (number : z.isNaN = false) (above : x ≤ z) (below : z ≤ y) :
    ∃ c, Stands z c ∧ a ≤ c ∧ c ≤ b := by
  rw [le_iff_extent lower.number number, lower.extent] at above
  rw [le_iff_extent number upper.number, upper.extent] at below
  have real : ((Decimal.extent z).toReal : EReal) = Decimal.extent z :=
    EReal.coe_toReal (below.trans_lt (EReal.coe_lt_top b)).ne
      ((EReal.bot_lt_coe a).trans_le above).ne'
  refine ⟨(Decimal.extent z).toReal, ⟨number, real.symm⟩, ?_, ?_⟩
  · rwa [← EReal.coe_le_coe_iff, real]
  · rwa [← EReal.coe_le_coe_iff, real]

/-- The nearest double of a number between two that have a double. -/
theorem Nearest.stands {a b c : ℝ} {x y z : Float} (h : Nearest a z) (lower : Stands x b)
    (upper : Stands y c) (above : b ≤ a) (below : a ≤ c) :
    ∃ d, Stands z d ∧ b ≤ d ∧ d ≤ c :=
  lower.between upper h.number (lower.nearest.le h above) (h.le upper.nearest below)

end Gradebook.Decimal
