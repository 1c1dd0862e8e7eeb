/-
# Gradebook.Proofs.ReadScores — the numbers of scores that are read back

A text has no way to write NaN or an infinity, and a number that is too great for a double is
passed over as one that cannot be used. So whatever texts a store of encoded scores holds,
the scores that are read from it have numbers that doubles stand for, and hence a fraction
(`EncodedScores.clean_scoresOf`).

The number goes through the quick reading: its first digits as a whole number, then products
with and quotients by powers of ten. Each of these is a number or refused (`isReal_scaleBy?`).
Of the document only what stands right below its top is looked at (`Json.isReal_parts`), since
the fields of a score are found there.
-/
import Gradebook.Proofs.Averages
import Gradebook.Proofs.ScoreKeys
import Mathlib

namespace Gradebook

set_option autoImplicit false

open Float.Model (Format UnpackedFloat)
open Float.Model.UnpackedFloat

namespace Decimal

/-! ## Numbers from digits -/

/-- The double stands for a number. -/
def IsReal (x : Float) : Prop := ∃ a, Stands x a

/-- The greatest double. -/
theorem stands_greatest : Stands (Float.ofBits 0x7fefffffffffffff) ((2 ^ 53 - 1) * 2 ^ 971) := by
  refine ⟨rfl, ?_⟩
  show ((magnitude (2 ^ 53 - 1) 971 : ℝ) : EReal) = (((2 ^ 53 - 1) * 2 ^ 971 : ℝ) : EReal)
  norm_num [magnitude]

theorem Nearest.isReal {a b : ℝ} {y z : Float} (h : Nearest a z) (k : Stands y b)
    (between : 0 ≤ a ∧ a ≤ b ∨ b ≤ a ∧ a ≤ 0) : IsReal z := by
  rcases between with ⟨above, below⟩ | ⟨above, below⟩
  · obtain ⟨c, stands, -⟩ := h.stands stands_zero k above below
    exact ⟨c, stands⟩
  · obtain ⟨c, stands, -⟩ := h.stands k stands_zero above below
    exact ⟨c, stands⟩

/-- Powers of ten up to this one are not beyond the greatest double. -/
theorem natCast_le_greatest {n k : ℕ} (fits : n ≤ 10 ^ k) (few : k ≤ 308) :
    (n : ℝ) ≤ (2 ^ 53 - 1) * 2 ^ 971 := by
  have most : 10 ^ k ≤ (2 ^ 53 - 1) * 2 ^ 971 := calc 10 ^ k
    _ ≤ 10 ^ 308 := Nat.pow_le_pow_right (by decide) few
    _ ≤ (2 ^ 53 - 1) * 2 ^ 971 := by decide +kernel
  have cast : (n : ℝ) ≤ ((2 ^ 53 - 1) * 2 ^ 971 : ℕ) := Nat.cast_le.2 (fits.trans most)
  rw [Nat.cast_mul, Nat.cast_pow] at cast
  exact cast.trans_eq (by norm_num)

/-- A word of 64 bits has a double. -/
theorem isReal_ofNat {n : ℕ} (word : n < 2 ^ 64) : IsReal (Float.ofNat n) := by
  have fits : n ≤ 10 ^ 20 := by omega
  exact (nearest_ofNat n).isReal stands_greatest
    (.inl ⟨Nat.cast_nonneg n, natCast_le_greatest fits (by decide)⟩)

theorem Stands.neg {x : Float} {a : ℝ} (h : Stands x a) : Stands (-x) (-a) := by
  have negated : (-x).toModel.unpack = (Float.Model.pack x.toModel.unpack.neg).unpack := rfl
  rcases h.cases with ⟨s, unpacked, rfl⟩ | ⟨s, m, e, pos, unpacked, canonical, small, rfl⟩ <;>
    rw [unpacked] at negated
  · have zero := negated.trans (unpack_pack_zero (-s))
    refine ⟨isNaN_eq_false.2 fun nan => ?_, ?_⟩
    · cases zero.symm.trans nan
    · rw [Decimal.extent, zero, neg_zero]
      rfl
  · have finite := negated.trans (unpack_pack_finite pos canonical small)
    refine ⟨isNaN_eq_false.2 fun nan => ?_, ?_⟩
    · cases finite.symm.trans nan
    · rw [Decimal.extent, finite]
      cases s
      · exact congrArg Real.toEReal (neg_neg (magnitude m e)).symm
      · rfl

theorem IsReal.neg {x : Float} (h : IsReal x) : IsReal (-x) := by
  obtain ⟨a, stands⟩ := h
  exact ⟨-a, stands.neg⟩

theorem isReal_of_not_isInf {x : Float} (number : x.isNaN = false) (finite : x.isInf = false) :
    IsReal x := by
  have unbounded : x.toModel.unpack.isInf = false := finite
  cases unpacked : x.toModel.unpack with
  | notANumber => exact absurd unpacked (isNaN_eq_false.1 number)
  | infinity s =>
    rw [unpacked] at unbounded
    exact Bool.noConfusion unbounded
  | zero s => exact ⟨_, number, by rw [extent, unpacked]; rfl⟩
  | finite s m e pos =>
    refine ⟨realOf (.finite s m e pos), number, ?_⟩
    rw [extent, unpacked]
    cases s <;> rfl

theorem powerOfTen_eq {n : ℕ} (few : n ≤ 308) :
    powerOfTen n = Float.ofScientific (10 ^ n) true 0 := by
  have leading : (⟨1, n⟩ : Numeral).leading = n := by
    have single : (naturalText 1).length = 1 := rfl
    rw [Numeral.leading, single]
    exact add_sub_cancel_right _ _
  have whole : (0 : ℤ) ≤ n := Int.natCast_nonneg n
  rw [powerOfTen, nearest, if_neg one_ne_zero, leading, if_neg (by omega), if_neg (by omega),
    if_pos whole, if_pos whole, Int.toNat_natCast, one_mul]
  rfl

theorem exists_powerOfTen {n : ℕ} (few : n ≤ 308) : ∃ a, Stands (powerOfTen n) a ∧ 1 ≤ a := by
  rw [powerOfTen_eq few]
  obtain ⟨a, stands, above, -⟩ := (nearest_ofScientific (10 ^ n) true).stands stands_one
    stands_greatest (Nat.one_le_cast.2 (Nat.one_le_pow _ _ (by decide))) (natCast_le_greatest le_rfl few)
  exact ⟨a, stands, above⟩

/-- Dividing by a power of ten leads towards zero. -/
theorem isReal_div_powerOfTen {x : Float} (h : IsReal x) {n : ℕ} (few : n ≤ 308) :
    IsReal (x / powerOfTen n) := by
  obtain ⟨a, stands⟩ := h
  obtain ⟨b, power, above⟩ := exists_powerOfTen few
  have pos : 0 < b := by linarith
  refine (stands.div power pos.ne').isReal stands ?_
  rcases le_total 0 a with nonneg | nonpos
  · exact .inl ⟨div_nonneg nonneg pos.le, div_le_self nonneg above⟩
  · refine .inr ⟨?_, div_nonpos_of_nonpos_of_nonneg nonpos pos.le⟩
    rw [le_div_iff₀ pos]
    nlinarith

/-- **Scaling a number gives a number**, if it gives anything. -/
theorem isReal_scaleBy? {x y : Float} {e : ℤ} (h : IsReal x) (scaled : scaleBy? x e = some y) :
    IsReal y := by
  fun_induction scaleBy? x e with
  | case1 x e few up product infinite => cases scaled
  | case2 x e few up product finite =>
    rw [← Option.some.inj scaled]
    obtain ⟨a, stands⟩ := h
    obtain ⟨b, power, -⟩ := exists_powerOfTen few
    exact isReal_of_not_isInf (stands.mul power).number (Bool.eq_false_iff.2 finite)
  | case3 x e few down =>
    cases scaled
    exact isReal_div_powerOfTen h few
  | case4 x e many zero =>
    cases scaled
    exact h
  | case5 x e many some up => cases scaled
  | case6 x e many some down ih => exact ih (isReal_div_powerOfTen h le_rfl) scaled

theorem isReal_scaled? {negative : Bool} {n : ℕ} (word : n < 2 ^ 64) {e : ℤ} {x : Float}
    (scaled : scaled? negative n e = some x) : IsReal x := by
  obtain ⟨y, found, rfl⟩ := Option.map_eq_some_iff.1 scaled
  have real := isReal_scaleBy? (isReal_ofNat word) found
  cases negative
  · exact real
  · exact real.neg

end Decimal

open Decimal (IsReal)

/-! ## Numbers in documents -/

/-- A scalar that is a number has a double. -/
def Scalar.IsReal : Scalar → Prop
  | .double x => Decimal.IsReal x.value
  | .natural n => n < 2 ^ 64
  | .negative n => n < 2 ^ 64
  | _ => True

/-- A tree that is a number has a double. -/
def Tree.IsReal : Tree → Prop
  | .leaf value _ => value.IsReal
  | _ => True

theorem Document.isReal_double {t : Tree} {x : Double} (h : t.IsReal)
    (read : Document.double t = .ok x) : Decimal.IsReal x.value := by
  cases t with
  | list items => cases read
  | table entries => cases read
  | leaf value left =>
    cases value with
    | double y =>
      cases read
      exact h
    | natural n =>
      cases read
      rw [Double.value_ofFloat]
      exact Decimal.isReal_ofNat h
    | negative n =>
      cases read
      rw [Double.value_ofFloat]
      exact (Decimal.isReal_ofNat h).neg
    | _ => cases read

namespace Json

theorem kept_word {n : ℕ} (word : n < 2 ^ 64) (digits : List Char) : (kept n digits).1 < 2 ^ 64 := by
  induction digits generalizing n with
  | nil => exact word
  | cons c rest ih =>
    rw [kept]
    split_ifs with fits
    · exact ih fits
    · exact word

theorem isReal_ofFloat {x : Float} (h : Decimal.IsReal x) : (Scalar.double (.ofFloat x)).IsReal := by
  show Decimal.IsReal (Double.ofFloat x).value
  rwa [Double.value_ofFloat]

/-- A number with a point or an exponent. -/
theorem isReal_scaled {negative down : Bool} {n : ℕ} (word : n < 2 ^ 64) (power : ℕ) (e : ℤ) :
    (if Nat.pow 2 31 ≤ power then
      if n ≠ 0 ∧ !down then Scalar.unusable "number out of range"
      else .double (.ofFloat (if negative then -0.0 else 0.0))
    else match Decimal.scaled? negative n e with
      | some x => .double (.ofFloat x)
      | none => .unusable "number out of range").IsReal := by
  split_ifs
  · trivial
  · exact isReal_ofFloat ⟨_, Decimal.stands_zero.neg⟩
  · exact isReal_ofFloat ⟨_, Decimal.stands_zero⟩
  · cases scaled : Decimal.scaled? negative n e with
    | none => trivial
    | some x => exact isReal_ofFloat (Decimal.isReal_scaled? word scaled)

/-- **A number that is read has a double**; one that has none cannot be used. -/
theorem isReal_numberValue (negative : Bool) (whole fraction : List Char)
    (exponent : Option (Bool × List Char)) :
    (numberValue negative whole fraction exponent).IsReal := by
  have word := kept_word (show 0 < 2 ^ 64 by decide) whole
  have word' := kept_word word fraction
  unfold numberValue
  by_cases short : (kept 0 whole).2 = 0 ∧ fraction.isEmpty = true ∧ exponent.isNone = true
  · simp only [if_pos short]
    split_ifs
    · exact word
    · exact isReal_ofFloat (Decimal.isReal_ofNat word).neg
    · exact word
  · simp only [if_neg short]
    exact isReal_scaled word' _ _

theorem isReal_number? {negative : Bool} {text rest : List Char} {value : Scalar}
    (read : number? negative text = some (value, rest)) : value.IsReal := by
  unfold number? at read
  split at read
  next whole after digits =>
  split_ifs at read
  obtain ⟨⟨fraction, rest⟩, -, read⟩ := Option.bind_eq_some_iff.1 read
  obtain ⟨⟨exponent, rest⟩, -, read⟩ := Option.bind_eq_some_iff.1 read
  cases read
  exact isReal_numberValue ..

theorem isReal_scalar? {c : Char} {rest after : List Char} {t : Tree}
    (read : scalar? c rest = some (t, after)) : ∃ value left, t = .leaf value left ∧ value.IsReal := by
  unfold scalar? at read
  split at read
  · obtain ⟨⟨text, rest⟩, -, read⟩ := Option.bind_eq_some_iff.1 read
    cases read
    cases text <;> exact ⟨_, _, rfl, trivial⟩
  · obtain ⟨_, -, same⟩ := Option.map_eq_some_iff.1 read
    cases same
    exact ⟨_, _, rfl, trivial⟩
  · obtain ⟨_, -, same⟩ := Option.map_eq_some_iff.1 read
    cases same
    exact ⟨_, _, rfl, trivial⟩
  · obtain ⟨_, -, same⟩ := Option.map_eq_some_iff.1 read
    cases same
    exact ⟨_, _, rfl, trivial⟩
  · obtain ⟨⟨value, rest⟩, number, same⟩ := Option.map_eq_some_iff.1 read
    cases same
    exact ⟨_, _, rfl, isReal_number? number⟩
  · obtain ⟨⟨value, rest⟩, number, same⟩ := Option.map_eq_some_iff.1 read
    cases same
    exact ⟨_, _, rfl, isReal_number? number⟩

theorem isReal_tableOf (entries : List (Option String × Tree)) : (tableOf entries).IsReal := by
  unfold tableOf
  split <;> trivial

/-- A value that is read is a list, a table, or a scalar with a double if it is a number. -/
theorem isReal_value? {fuel : ℕ} {text rest : List Char} {t : Tree}
    (read : value? fuel text = some (t, rest)) : t.IsReal := by
  cases fuel with
  | zero => cases read
  | succ fuel =>
    unfold value? at read
    split at read
    · cases read
    · split at read
      · cases read
        trivial
      · obtain ⟨_, -, same⟩ := Option.map_eq_some_iff.1 read
        cases same
        trivial
    · split at read
      · cases read
        trivial
      · obtain ⟨_, -, same⟩ := Option.map_eq_some_iff.1 read
        cases same
        exact isReal_tableOf _
    · obtain ⟨value, left, rfl, real⟩ := isReal_scalar? read
      exact real

theorem isReal_items? {fuel : ℕ} {text rest : List Char} {ts : List Tree}
    (read : items? fuel text = some (ts, rest)) : ∀ t ∈ ts, t.IsReal := by
  induction fuel generalizing text ts rest with
  | zero => cases read
  | succ fuel ih =>
    unfold items? at read
    obtain ⟨⟨item, after⟩, first, read⟩ := Option.bind_eq_some_iff.1 read
    dsimp only at read
    split at read
    · obtain ⟨⟨items, last⟩, others, same⟩ := Option.bind_eq_some_iff.1 read
      cases same
      exact List.forall_mem_cons.2 ⟨isReal_value? first, ih others⟩
    · cases read
      exact List.forall_mem_singleton.2 (isReal_value? first)
    · cases read

theorem isReal_entries? {fuel : ℕ} {text rest : List Char} {es : List (Option String × Tree)}
    (read : entries? fuel text = some (es, rest)) : ∀ e ∈ es, e.2.IsReal := by
  induction fuel generalizing text es rest with
  | zero => cases read
  | succ fuel ih =>
    unfold entries? at read
    split at read
    · obtain ⟨⟨key, after⟩, -, read⟩ := Option.bind_eq_some_iff.1 read
      dsimp only at read
      split at read
      · obtain ⟨⟨value, after⟩, first, read⟩ := Option.bind_eq_some_iff.1 read
        dsimp only at read
        split at read
        · obtain ⟨⟨entries, last⟩, others, same⟩ := Option.bind_eq_some_iff.1 read
          cases same
          exact List.forall_mem_cons.2 ⟨isReal_value? first, ih others⟩
        · cases read
          exact List.forall_mem_singleton.2 (isReal_value? first)
        · cases read
      · cases read
    · cases read

/-- What stands right below the top of a document. -/
def parts : Tree → List Tree
  | .leaf _ _ => []
  | .list items => items
  | .table entries => entries.map (·.2)

theorem exists_of_mapM {α β : Type} {f : α → Option β} {xs : List α} {ys : List β}
    (h : xs.mapM f = some ys) : ∀ y ∈ ys, ∃ x ∈ xs, f x = some y := by
  induction xs generalizing ys with
  | nil =>
    cases h
    exact fun _ none => absurd none List.not_mem_nil
  | cons x xs ih =>
    rw [List.mapM_cons] at h
    obtain ⟨y, first, h⟩ := Option.bind_eq_some_iff.1 h
    obtain ⟨zs, others, same⟩ := Option.bind_eq_some_iff.1 h
    cases same
    refine List.forall_mem_cons.2 ⟨⟨x, List.mem_cons_self, first⟩, fun z member => ?_⟩
    obtain ⟨w, inside, found⟩ := ih others z member
    exact ⟨w, List.mem_cons_of_mem x inside, found⟩

theorem isReal_parts_tableOf {es : List (Option String × Tree)} (h : ∀ e ∈ es, e.2.IsReal) :
    ∀ t ∈ parts (tableOf es), t.IsReal := by
  unfold tableOf
  cases keyed : es.mapM fun e => e.1.map fun key => (key, e.2) with
  | none => exact fun _ none => absurd none List.not_mem_nil
  | some entries =>
    intro t member
    obtain ⟨entry, inside, rfl⟩ := List.mem_map.1 member
    obtain ⟨e, given, named⟩ := exists_of_mapM keyed entry inside
    obtain ⟨key, -, rfl⟩ := Option.map_eq_some_iff.1 named
    exact h e given

/-- **What stands right below the top of a text that is read**: numbers have doubles. -/
theorem isReal_parts {text : String} {t : Tree} (read : read? text = some t) :
    ∀ u ∈ parts t, u.IsReal := by
  unfold read? at read
  split at read
  next found rest value =>
    split_ifs at read
    cases read
    generalize 2 * text.length + 2 = fuel at value
    cases fuel with
    | zero => cases value
    | succ fuel =>
      unfold value? at value
      split at value
      · cases value
      · split at value
        · cases value
          exact fun _ none => absurd none List.not_mem_nil
        · obtain ⟨⟨items, after⟩, others, same⟩ := Option.map_eq_some_iff.1 value
          cases same
          exact isReal_items? others
      · split at value
        · cases value
          exact fun _ none => absurd none List.not_mem_nil
        · obtain ⟨⟨entries, after⟩, others, same⟩ := Option.map_eq_some_iff.1 value
          cases same
          exact isReal_parts_tableOf (isReal_entries? others)
      · obtain ⟨_, _, rfl, -⟩ := isReal_scalar? value
        exact fun _ none => absurd none List.not_mem_nil
  · cases read

end Json

namespace Document

theorem mem_parts_of_fieldOf {ts : List (String × Tree)} {name : String} {t : Tree}
    (h : fieldOf ts name = .ok (.given t)) : t ∈ ts.map (·.2) := by
  unfold fieldOf at h
  split at h
  · cases h
  · next u only =>
    cases h
    have member : t ∈ entriesOf name ts := only ▸ List.mem_singleton_self t
    obtain ⟨e, inside, rfl⟩ := List.mem_map.1 member
    exact List.mem_map_of_mem (List.mem_of_mem_filter inside)
  · cases h

/-- The fields of a record are parts of its document. -/
theorem mem_parts_of_fields {m : Manner} {names : List String} {t : Tree} {fs : List Field}
    (h : fields m names t = .ok fs) : ∀ u, .given u ∈ fs → u ∈ Json.parts t := by
  intro u member
  unfold fields at h
  split at h
  · obtain ⟨name, -, found⟩ := (of_mapM_ok h).2 _ member
    exact mem_parts_of_fieldOf found
  · cases h
    obtain ⟨_, -, none⟩ := List.mem_map.1 member
    cases none
  · split_ifs at h
    cases h
    rcases List.mem_append.1 member with given | missing
    · obtain ⟨v, inside, same⟩ := List.mem_map.1 given
      cases same
      exact List.mem_of_mem_take inside
    · cases List.eq_of_mem_replicate missing
  · cases h

theorem isReal_required {f : Field} {x : Double} (h : ∀ t, f = .given t → t.IsReal)
    (read : required double f = .ok x) : Decimal.IsReal x.value := by
  cases f with
  | given t => exact isReal_double (h t rfl) read
  | leftOut => cases read
  | cutOff => cases read

end Document

namespace Score

theorem number_clamped {x : Double} (h : x.isNaN = false) : (clamped x).isNaN = false := by
  unfold clamped
  split_ifs
  · rfl
  · rfl
  · exact h

/-- Two numbers have a fraction. -/
theorem number_fraction {score : Score} (earned : Decimal.IsReal score.earned.value)
    (possible : Decimal.IsReal score.possible.value) : score.fraction.isNaN = false := by
  obtain ⟨a, numerator⟩ := earned
  obtain ⟨b, denominator⟩ := possible
  unfold fraction
  split_ifs with nothing
  · rfl
  · refine number_clamped ?_
    rw [denominator.le_iff Decimal.stands_zero, not_le] at nothing
    have quotient := (numerator.div denominator nothing.ne').number
    have defined : score.earned.dividedBy score.possible =
        .ofFloat (score.earned.value / score.possible.value) := by
      rw [Double.dividedBy, quotient]
      rfl
    rw [defined, Double.isNaN, Double.value_ofFloat]
    exact quotient

open Document in
theorem isReal_ofTree {m : Manner} {t : Tree} {score : Score} (parts : ∀ u ∈ Json.parts t, u.IsReal)
    (read : ofTree m t = .ok score) :
    Decimal.IsReal score.earned.value ∧ Decimal.IsReal score.possible.value := by
  obtain ⟨fs, found, read⟩ := ok_of_bind read
  have given := mem_parts_of_fields found
  split at read
  · obtain ⟨_, earned, read⟩ := ok_of_bind read
    obtain ⟨_, possible, read⟩ := ok_of_bind read
    obtain ⟨_, -, read⟩ := ok_of_bind read
    obtain ⟨_, -, read⟩ := ok_of_bind read
    cases read
    exact ⟨isReal_required (fun u same => parts u (given u (by simp [same]))) earned,
      isReal_required (fun u same => parts u (given u (by simp [same]))) possible⟩
  · cases read

theorem number_of_decode {text : String} {score : Score}
    (h : EncodedScores.decode text = .ok score) : score.fraction.isNaN = false := by
  unfold EncodedScores.decode Json.decode at h
  cases read : Json.read? text with
  | none =>
    rw [read] at h
    cases h
  | some t =>
    rw [read] at h
    dsimp only at h
    split at h
    · next found =>
      cases h
      obtain ⟨earned, possible⟩ := isReal_ofTree (Json.isReal_parts read) found
      exact number_fraction earned possible
    · cases h

end Score

/-- **Every score that is read back has a fraction.** -/
theorem EncodedScores.clean_scoresOf {s : EncodedScores} {learner : LearnerId} {key : CourseKey}
    {d : Dictionary Score} (h : s.scoresOf learner key = .ok d) : Calculation.Clean d := by
  intro block score found
  obtain ⟨text, -, decoded⟩ := (find?_of_scoresOf h block score).1 found
  exact Score.number_of_decode decoded

end Gradebook
