/-
# Gradebook.Proofs.Numerals — written numbers read back

The digits of a natural number, padded or not, are digits (`digits_naturalText`,
`digits_paddedText`) and denote it again (`numberOf_naturalText`, `numberOf_paddedText`);
a reader that takes digits as far as they go stops behind them (`digitRun_append`).

A JSON number has a whole part, digits behind a point and an exponent, the last two of
which may be absent (`NumberText`). `number?_text` reads the three parts back; the
exchange form of a double is such a text (`finiteText_exchange`), and below ten to the
sixteenth one that denotes a double again (`NumberText.Downscaled.value`).
-/
import Gradebook.Json

namespace Gradebook

set_option autoImplicit false

namespace Decimal

/-- Nothing but digits. -/
def Digits (text : List Char) : Prop := ∀ c ∈ text, c.isDigit = true

/-- Another character than a digit is next, or none. -/
def PastDigits (rest : List Char) : Prop := ∀ c ∈ rest.head?, c.isDigit = false

theorem digits_nil : Digits [] := fun _ member => nomatch member

theorem pastDigits_nil : PastDigits [] := fun _ h => nomatch h

theorem pastDigits_cons {c : Char} {rest : List Char} (h : c.isDigit = false) :
    PastDigits (c :: rest) := by
  rintro d ⟨⟩
  exact h

theorem digits_append {xs ys : List Char} (h : Digits xs) (k : Digits ys) : Digits (xs ++ ys) :=
  fun c member => (List.mem_append.1 member).elim (h c) (k c)

theorem takeWhile_digits {digits rest : List Char} (h : Digits digits) (past : PastDigits rest) :
    (digits ++ rest).takeWhile Char.isDigit = digits := by
  rw [List.takeWhile_append_of_pos h]
  cases rest with
  | nil => simp
  | cons c rest => simp [past c rfl]

theorem dropWhile_digits {digits rest : List Char} (h : Digits digits) (past : PastDigits rest) :
    (digits ++ rest).dropWhile Char.isDigit = rest := by
  rw [List.dropWhile_append_of_pos h]
  cases rest with
  | nil => rfl
  | cons c rest => simp [past c rfl]

/-- A run of digits ends where the digits end. -/
theorem digitRun_append {digits rest : List Char} (h : Digits digits) (past : PastDigits rest) :
    digitRun (digits ++ rest) = (digits, rest) := by
  rw [digitRun, takeWhile_digits h past, dropWhile_digits h past]

theorem numberOf_eq (digits : List Char) : numberOf digits = Nat.ofDigitChars 10 digits 0 :=
  Nat.ofDigitChars_eq_foldl.symm

/-- As many digits as a power of ten has zeros denote a smaller number. -/
theorem numberOf_lt {digits : List Char} (h : Digits digits) :
    numberOf digits < Nat.pow 10 digits.length := by
  have behind (n : Nat) : Nat.ofDigitChars 10 digits n < (n + 1) * 10 ^ digits.length := by
    induction digits generalizing n with
    | nil => exact Nat.lt_of_lt_of_eq (Nat.lt_succ_self n) (Nat.mul_one _).symm
    | cons c cs ih =>
      have small : c.toNat - '0'.toNat < 10 := by
        have digit := h c List.mem_cons_self
        simp only [Char.isDigit, Bool.and_eq_true, decide_eq_true_eq] at digit
        have : c.toNat ≤ 57 := digit.2
        show c.toNat - 48 < 10
        omega
      rw [Nat.ofDigitChars_cons, List.length_cons, Nat.pow_succ']
      calc Nat.ofDigitChars 10 cs (10 * n + (c.toNat - '0'.toNat))
        _ < (10 * n + (c.toNat - '0'.toNat) + 1) * 10 ^ cs.length :=
            ih (fun d member => h d (List.mem_cons_of_mem _ member)) _
        _ ≤ ((n + 1) * 10) * 10 ^ cs.length := Nat.mul_le_mul_right _ (by omega)
        _ = (n + 1) * (10 * 10 ^ cs.length) := Nat.mul_assoc ..
  simpa [numberOf_eq] using behind 0

/-! ## Natural numbers -/

theorem toList_naturalText (n : Nat) : (naturalText n).toList = Nat.toDigits 10 n :=
  String.toList_ofList

theorem digits_toDigits (n : Nat) : Digits (Nat.toDigits 10 n) :=
  fun _ member => Nat.isDigit_of_mem_toDigits (by decide) (by decide) member

theorem numberOf_toDigits (n : Nat) : numberOf (Nat.toDigits 10 n) = n := by
  rw [numberOf_eq, Nat.ofDigitChars_ten_toDigits]

theorem digits_naturalText (n : Nat) : Digits (naturalText n).toList := by
  rw [toList_naturalText]
  exact digits_toDigits n

theorem numberOf_naturalText (n : Nat) : numberOf (naturalText n).toList = n := by
  rw [toList_naturalText, numberOf_toDigits]

/-- The digits of a number in two or more places start with another digit than zero. -/
theorem head?_toDigits {n : Nat} (h : n ≠ 0) : (Nat.toDigits 10 n).head? ≠ some '0' := by
  induction n using Nat.strongRecOn with
  | ind n ih =>
    rw [Nat.toDigits_eq_if (by decide)]
    split
    · next small =>
      have all : ∀ d < 10, d ≠ 0 → [Nat.digitChar d].head? ≠ some '0' := by decide
      exact all n small h
    · have rest : (Nat.toDigits 10 (n / 10)).head? ≠ some '0' := ih _ (by omega) (by omega)
      cases leading : Nat.toDigits 10 (n / 10) with
      | nil => exact absurd leading Nat.toDigits_ne_nil
      | cons c cs => rwa [leading] at rest

theorem head?_toDigits_of_long {n : Nat} (h : 1 < (Nat.toDigits 10 n).length) :
    (Nat.toDigits 10 n).head? ≠ some '0' := by
  refine head?_toDigits fun zero => ?_
  subst zero
  exact absurd h (by decide)

theorem toList_paddedText (width n : Nat) : (paddedText width n).toList =
    List.replicate (width - (Nat.toDigits 10 n).length) '0' ++ Nat.toDigits 10 n := by
  rw [paddedText, zeros, String.toList_append, String.toList_ofList, toList_naturalText,
    ← String.length_toList, toList_naturalText]

theorem digits_paddedText (width n : Nat) : Digits (paddedText width n).toList := by
  rw [toList_paddedText]
  refine digits_append (fun c member => ?_) (digits_toDigits n)
  rw [List.eq_of_mem_replicate member]
  rfl

theorem numberOf_paddedText (width n : Nat) : numberOf (paddedText width n).toList = n := by
  rw [toList_paddedText, numberOf_eq, Nat.ofDigitChars_append, Nat.ofDigitChars_replicate_zero,
    Nat.mul_zero, Nat.ofDigitChars_ten_toDigits]

theorem le_length_paddedText (width n : Nat) : width ≤ (paddedText width n).toList.length := by
  rw [toList_paddedText, List.length_append, List.length_replicate]
  omega

theorem length_paddedText {width n : Nat} (wide : 0 < width) (h : n < Nat.pow 10 width) :
    (paddedText width n).toList.length = width := by
  have fits := (Nat.length_toDigits_le_iff (b := 10) (by decide) wide).2 h
  rw [toList_paddedText, List.length_append, List.length_replicate]
  omega

/-! ## Scaling -/

/-- Nothing overflows that is scaled down. -/
theorem scaleBy?_of_neg {exponent : Int} (h : exponent < 0) (x : Float) :
    ∃ y, scaleBy? x exponent = some y := by
  fun_induction scaleBy? x exponent with
  | case1 x exponent _ up => omega
  | case2 x exponent _ up => omega
  | case3 => exact ⟨_, rfl⟩
  | case4 x => exact ⟨x, rfl⟩
  | case5 x exponent _ _ up => omega
  | case6 x exponent far _ _ ih => exact ih (by omega)

end Decimal

namespace Json

open Decimal (Digits PastDigits digits_naturalText digits_paddedText digitRun_append
  pastDigits_nil pastDigits_cons)

/-- A number as it is written: its whole part, digits behind a point, and the sign and the
digits of an exponent. No digits behind a point, no point. -/
structure NumberText where
  whole : Nat
  fraction : List Char := []
  exponent : Option (Bool × Nat) := none

namespace NumberText

def fractionText (p : NumberText) : List Char :=
  if p.fraction.isEmpty then [] else '.' :: p.fraction

def exponentText (p : NumberText) : List Char :=
  match p.exponent with
  | none => []
  | some (negative, n) => 'e' :: (if negative then '-' else '+') :: Nat.toDigits 10 n

def text (p : NumberText) : List Char :=
  Nat.toDigits 10 p.whole ++ (p.fractionText ++ p.exponentText)

/-- The scalar that a number with these parts denotes. -/
def value (negative : Bool) (p : NumberText) : Scalar :=
  numberValue negative (Nat.toDigits 10 p.whole) p.fraction
    (p.exponent.map fun e => (e.1, Nat.toDigits 10 e.2))

end NumberText

/-- What can follow a value in a document: nothing, a comma or a closing bracket. -/
def Closes (rest : List Char) : Prop := ∀ c ∈ rest.head?, c = ',' ∨ c = ']' ∨ c = '\x7d'

theorem closes_nil : Closes [] := fun _ h => nomatch h

theorem closes_cons {c : Char} {rest : List Char} (h : c = ',' ∨ c = ']' ∨ c = '\x7d') :
    Closes (c :: rest) := by
  rintro d ⟨⟩
  exact h

theorem Closes.pastDigits {rest : List Char} (h : Closes rest) : PastDigits rest := by
  intro c next
  rcases h c next with rfl | rfl | rfl <;> rfl

section Parts

variable {rest : List Char} (closes : Closes rest)
include closes

theorem exponentPart?_text (p : NumberText) : exponentPart? (p.exponentText ++ rest) =
    some (p.exponent.map fun e => (e.1, Nat.toDigits 10 e.2), rest) := by
  have digits (n : Nat) := digitRun_append (Decimal.digits_toDigits n) closes.pastDigits
  have some (n : Nat) : (Nat.toDigits 10 n).isEmpty = false := by simp
  rw [NumberText.exponentText]
  rcases p.exponent with _ | ⟨_ | _, n⟩
  · cases rest with
    | nil => rfl
    | cons c rest => rcases closes c rfl with rfl | rfl | rfl <;> rfl
  · simp [exponentPart?, Decimal.signOf, digits]
  · simp [exponentPart?, Decimal.signOf, digits]

theorem pastDigits_exponentText (p : NumberText) : PastDigits (p.exponentText ++ rest) := by
  rw [NumberText.exponentText]
  rcases p.exponent with _ | ⟨_, n⟩
  · exact closes.pastDigits
  · exact pastDigits_cons rfl

theorem fractionPart?_text {p : NumberText} (digits : Digits p.fraction) :
    fractionPart? (p.fractionText ++ (p.exponentText ++ rest)) =
      some (p.fraction, p.exponentText ++ rest) := by
  have run := digitRun_append digits (pastDigits_exponentText closes p)
  rw [NumberText.fractionText]
  cases here : p.fraction with
  | nil =>
    -- No point: what follows starts with the mark of an exponent, or closes.
    rw [NumberText.exponentText]
    rcases p.exponent with _ | ⟨_, n⟩
    · cases rest with
      | nil => rfl
      | cons c rest => rcases closes c rfl with rfl | rfl | rfl <;> rfl
    · rfl
  | cons c cs =>
    rw [here, List.cons_append] at run
    simp [fractionPart?, run]

theorem pastDigits_fractionText (p : NumberText) :
    PastDigits (p.fractionText ++ (p.exponentText ++ rest)) := by
  rw [NumberText.fractionText]
  split
  · exact pastDigits_exponentText closes p
  · exact pastDigits_cons rfl

/-- **A written number is read as its three parts**, whatever closes it. -/
theorem number?_text (negative : Bool) {p : NumberText} (digits : Digits p.fraction) :
    number? negative (p.text ++ rest) = some (p.value negative, rest) := by
  have run := digitRun_append (Decimal.digits_toDigits p.whole) (pastDigits_fractionText closes p)
  have nonempty : (Nat.toDigits 10 p.whole).isEmpty = false := by simp
  have leads : ((Nat.toDigits 10 p.whole).head? == some '0' &&
      decide (1 < (Nat.toDigits 10 p.whole).length)) = false := by
    by_cases long : 1 < (Nat.toDigits 10 p.whole).length
    · simp [Decimal.head?_toDigits_of_long long]
    · simp [long]
  rw [NumberText.text, List.append_assoc, List.append_assoc, number?, run]
  simp only [nonempty, leads, Bool.or_false, Bool.false_eq_true, if_false,
    fractionPart?_text closes digits, Option.bind_eq_bind, Option.bind_some,
    exponentPart?_text closes p]
  rfl

end Parts

/-! ## Doubles in the exchange form -/

section Doubles

open Decimal

/-- Not too many digits stand before the point, one stands behind it or the exponent shifts
the point to the left, and no exponent shifts it to the right. -/
structure NumberText.Downscaled (p : NumberText) : Prop where
  whole : p.whole < Nat.pow 10 16
  exponent : ∀ e ∈ p.exponent, e.1 = true ∧ 0 < e.2
  behind : p.fraction ≠ [] ∨ p.exponent ≠ none

theorem lt_pow_length (n : Nat) : n < Nat.pow 10 (naturalText n).length := by
  have digits : 0 < (Nat.toDigits 10 n).length := List.length_pos_iff.2 Nat.toDigits_ne_nil
  rw [← String.length_toList, toList_naturalText]
  exact (Nat.length_toDigits_le_iff (by decide) digits).1 (Nat.le_refl _)

/-- Digits with or without a point. -/
theorem withPoint_text (places n : Nat) : ∃ fraction, Digits fraction ∧
    (places ≠ 0 → fraction ≠ []) ∧ (withPoint places n).toList =
      (NumberText.mk (n / Nat.pow 10 places) fraction none).text := by
  rw [withPoint]
  split
  · next none =>
    subst none
    refine ⟨[], digits_nil, fun some => absurd rfl some, ?_⟩
    have whole : n / Nat.pow 10 0 = n := Nat.div_one n
    rw [whole]
    simp [NumberText.text, NumberText.fractionText, NumberText.exponentText, toList_naturalText]
  · next some =>
    have digits := digits_paddedText places (n % Nat.pow 10 places)
    have long := le_length_paddedText places (n % Nat.pow 10 places)
    generalize (paddedText places (n % Nat.pow 10 places)) = behind at digits long
    have nonempty : behind.toList ≠ [] := fun empty => by
      rw [empty] at long
      exact some (Nat.le_zero.1 long)
    refine ⟨behind.toList, digits, fun _ => nonempty, ?_⟩
    simp [NumberText.text, NumberText.fractionText, NumberText.exponentText, toList_naturalText,
      nonempty]

/-- Digits before a point that is not far from the leading one. -/
theorem div_pow_lt {n places limit : Nat} (h : (naturalText n).length ≤ limit + places) :
    n / Nat.pow 10 places < Nat.pow 10 limit := by
  refine Nat.div_lt_of_lt_mul ?_
  calc n
    _ < 10 ^ (naturalText n).length := lt_pow_length n
    _ ≤ 10 ^ (places + limit) := Nat.pow_le_pow_right (by decide) (by omega)
    _ = Nat.pow 10 places * 10 ^ limit := Nat.pow_add ..

theorem digits_zero : Digits ['0'] := by
  intro c member
  rw [List.mem_singleton.1 member]
  rfl

/-- The positional form of a decimal, a digit behind the point. -/
theorem positionalText_text (n : Numeral) : ∃ p : NumberText, Digits p.fraction ∧
    (n.positionalText ".0").toList = p.text ∧ (n.leading ≤ 15 → p.Downscaled) := by
  rw [Numeral.positionalText]
  split
  · next whole =>
    refine ⟨⟨n.digits * Nat.pow 10 n.exponent.toNat, ['0'], none⟩, digits_zero, ?_, ?_⟩
    · simp [NumberText.text, NumberText.fractionText, NumberText.exponentText, toList_naturalText]
    · intro short
      refine ⟨?_, fun e none => (nomatch none), .inl (List.cons_ne_nil _ _)⟩
      rw [Numeral.leading] at short
      calc n.digits * Nat.pow 10 n.exponent.toNat
        _ < 10 ^ (naturalText n.digits).length * Nat.pow 10 n.exponent.toNat :=
            Nat.mul_lt_mul_of_pos_right (lt_pow_length _) (Nat.pow_pos (by decide))
        _ = 10 ^ ((naturalText n.digits).length + n.exponent.toNat) := (Nat.pow_add ..).symm
        _ ≤ 10 ^ 16 := Nat.pow_le_pow_right (by decide) (by omega)
  · next broken =>
    obtain ⟨fraction, digits, some, same⟩ := withPoint_text n.exponent.natAbs n.digits
    have places : n.exponent.natAbs ≠ 0 := by omega
    refine ⟨_, digits, same, fun short => ⟨?_, fun e none => (nomatch none), .inl (some places)⟩⟩
    · rw [Numeral.leading] at short
      exact div_pow_lt (by omega)

/-- The scientific form of a decimal: one digit before the point. -/
theorem scientificText_text (n : Numeral) : ∃ p : NumberText, Digits p.fraction ∧
    n.scientificText.toList = p.text ∧ (n.leading < 0 → p.Downscaled) := by
  rw [Numeral.scientificText]
  obtain ⟨fraction, digits, -, same⟩ :=
    withPoint_text ((naturalText n.digits).length - 1) n.digits
  refine ⟨⟨n.digits / Nat.pow 10 ((naturalText n.digits).length - 1), fraction,
    some (decide (n.leading < 0), n.leading.natAbs)⟩, digits, ?_, fun small => ?_⟩
  · have sign : (if n.leading < 0 then "-" else "+").toList =
        [if n.leading < 0 then '-' else '+'] := by split <;> rfl
    simp only [String.toList_append, same, sign, NumberText.text, NumberText.fractionText,
      NumberText.exponentText, toList_naturalText, List.append_nil, List.append_assoc,
      decide_eq_true_eq]
    rfl
  · refine ⟨?_, ?_, .inr (Option.some_ne_none _)⟩
    · have one : n.digits / Nat.pow 10 ((naturalText n.digits).length - 1) < 10 ^ 1 :=
        div_pow_lt (by omega)
      exact Nat.lt_of_lt_of_le one (by decide)
    · rintro e ⟨⟩
      exact ⟨decide_eq_true small, by simp only; omega⟩

/-- The exchange form of a decimal is a number of a document. -/
theorem text_exchange (n : Numeral) : ∃ p : NumberText, Digits p.fraction ∧
    (n.text exchange).toList = p.text ∧ (n.leading ≤ 15 → p.Downscaled) := by
  rw [Numeral.text]
  split
  · exact positionalText_text n
  · next scientific =>
    obtain ⟨p, digits, same, down⟩ := scientificText_text n
    refine ⟨p, digits, same, fun short => down ?_⟩
    simp only [exchange, Bool.and_eq_true, decide_eq_true_eq] at scientific
    omega

/-- The text of a finite double is a sign, if it has one, and a number. -/
theorem finiteText_exchange (b : Binary) : ∃ p : NumberText, Digits p.fraction ∧
    (finiteText exchange b).toList = (if b.negative then ['-'] else []) ++ p.text ∧
      ((Numeral.shortest exchange.tie b).leading ≤ 15 → p.Downscaled) := by
  obtain ⟨p, digits, same, down⟩ := text_exchange (Numeral.shortest exchange.tie b)
  refine ⟨p, digits, ?_, down⟩
  rw [finiteText, signed]
  split
  · rw [String.toList_append, same]
    rfl
  · exact same

end Doubles

/-! ## What the parts denote -/

/-- All digits of a number of 64 bits are kept. -/
theorem kept_of_lt {digits : List Char} {n : Nat}
    (h : Nat.ofDigitChars 10 digits n < Nat.pow 2 64) :
    kept n digits = (Nat.ofDigitChars 10 digits n, 0) := by
  induction digits generalizing n with
  | nil => rfl
  | cons c cs ih =>
    rw [Nat.ofDigitChars_cons] at h ⊢
    have next : 10 * n + Decimal.digitValue c < Nat.pow 2 64 := by
      have least : 10 * n + Decimal.digitValue c ≤
          10 ^ cs.length * (10 * n + Decimal.digitValue c) :=
        Nat.le_mul_of_pos_left _ (Nat.pow_pos (by decide))
      rw [Nat.ofDigitChars_eq_ofDigitChars_zero] at h
      exact Nat.lt_of_le_of_lt (Nat.le_trans least (Nat.le_add_right _ _)) h
    rw [kept]
    simp only [next, if_true]
    exact ih h

theorem kept_le (n : Nat) (digits : List Char) : (kept n digits).2 ≤ digits.length := by
  induction digits generalizing n with
  | nil => exact Nat.le_refl _
  | cons c cs ih =>
    rw [kept]
    split
    · exact Nat.le_succ_of_le (ih _)
    · exact Nat.le_refl _

/-- A digit behind few digits is kept. -/
theorem kept_lt {n : Nat} (few : n < Nat.pow 10 16) {c : Char} (digit : c.isDigit = true)
    (cs : List Char) : (kept n (c :: cs)).2 < (c :: cs).length := by
  have value : Decimal.digitValue c < 10 := by
    simp only [Char.isDigit, Bool.and_eq_true, decide_eq_true_eq] at digit
    have : c.toNat ≤ 57 := digit.2
    show c.toNat - 48 < 10
    omega
  have fits : 10 * n + Decimal.digitValue c < Nat.pow 2 64 := by
    have : 10 * Nat.pow 10 16 ≤ Nat.pow 2 64 := by decide
    omega
  rw [kept]
  simp only [fits, if_true]
  exact Nat.lt_succ_of_le (kept_le _ cs)

/-- A number that is scaled down is within the range of doubles. -/
theorem NumberText.Downscaled.value {p : NumberText} (h : p.Downscaled)
    (digits : Digits p.fraction) (negative : Bool) : ∃ x, p.value negative = .double x := by
  have limit : p.whole < Nat.pow 2 64 := Nat.lt_of_lt_of_le h.whole (by decide)
  have same : Nat.ofDigitChars 10 (Nat.toDigits 10 p.whole) 0 = p.whole :=
    Nat.ofDigitChars_ten_toDigits
  have whole : kept 0 (Nat.toDigits 10 p.whole) = (p.whole, 0) := by
    rw [kept_of_lt (same.symm ▸ limit), same]
  have behind : ¬(p.fraction.isEmpty = true ∧
      (p.exponent.map fun e => (e.1, Nat.toDigits 10 e.2)).isNone = true) := by
    rcases h.behind with some | some <;> simp [some]
  have scaled (n : Nat) {exponent : Int} (down : exponent < 0) :
      ∃ y, Decimal.scaled? negative n exponent = some y := by
    obtain ⟨y, found⟩ := Decimal.scaleBy?_of_neg down (Float.ofNat n)
    rw [Decimal.scaled?, found]
    exact ⟨_, rfl⟩
  simp only [NumberText.value, numberValue, whole, true_and, behind, if_false]
  -- Without an exponent a digit stands behind the point, and shifts by at least one place.
  cases power : p.exponent with
  | none =>
    have some : p.fraction ≠ [] := h.behind.resolve_right (absurd power)
    have shift : ((0 : Nat) : Int) - ((p.fraction.length - (kept p.whole p.fraction).2 : Nat) : Int)
        + ((0 : Nat) : Int) < 0 := by
      obtain ⟨c, cs, fraction⟩ := List.exists_cons_of_ne_nil some
      have fits := kept_lt h.whole (digits c (by simp [fraction])) cs
      rw [fraction]
      omega
    obtain ⟨y, found⟩ := scaled (kept p.whole p.fraction).1 shift
    have near : ¬Nat.pow 2 31 ≤ 0 := by decide
    refine ⟨.ofFloat y, ?_⟩
    simp only [Option.map_none, near, if_false, Bool.false_eq_true, found]
  | some e =>
    obtain ⟨down, amount⟩ := e
    obtain ⟨rfl, shifts⟩ := h.exponent _ power
    have shift : ((0 : Nat) : Int) - ((p.fraction.length - (kept p.whole p.fraction).2 : Nat) : Int)
        - (Decimal.numberOf (Nat.toDigits 10 amount) : Int) < 0 := by
      have places : 0 < amount := shifts
      rw [Decimal.numberOf_toDigits]
      omega
    obtain ⟨y, found⟩ := scaled (kept p.whole p.fraction).1 shift
    simp only [Option.map_some, Bool.not_true, Bool.false_eq_true, and_false, if_false, if_true,
      found]
    split <;> exact ⟨_, rfl⟩

end Json

end Gradebook
