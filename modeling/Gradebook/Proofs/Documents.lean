/-
# Gradebook.Proofs.Documents — written documents read back

Reading the text of a document gives the document again: lists and tables by their parts,
each scalar as what its own text reads as (`Scalar.ReadsAs`). Texts and natural numbers of 64
bits read back as themselves; a double reads as the number its digits denote, and as null if
no number denotes it. `Tree.ReadsAs` puts that together, and `read?_write` says that there
is no tree whose text does not read.

Places within the text (`Tree.left`) are not part of a document, and are left open.
-/
import Gradebook.Proofs.Numerals

namespace Gradebook

set_option autoImplicit false

namespace Json

/-! ## Texts -/

theorem hexValue?_hexDigit : ∀ n < 16, hexValue? (hexDigit n) = some n := by decide

/-- A control character is written as the number it is. -/
theorem escapedUnit?_control {c : Char} (h : c.toNat < 0x20) (rest : List Char) :
    escapedUnit? ('0' :: '0' :: hexDigit (c.toNat / 16) :: hexDigit (c.toNat % 16) :: rest) =
      some (.char c, rest) := by
  have high := hexValue?_hexDigit (c.toNat / 16) (by omega)
  have low := hexValue?_hexDigit (c.toNat % 16) (by omega)
  have zero : hexValue? '0' = some 0 := rfl
  have number : ((0 * 16 + 0) * 16 + c.toNat / 16) * 16 + c.toNat % 16 = c.toNat := by omega
  simp only [escapedUnit?, unit?, zero, high, low, Option.bind_eq_bind, Option.bind_some, number]
  rw [if_pos (.inl (by omega)), Char.ofNat_toNat]

/-- One character, escaped or not, is one piece. -/
theorem pieces?_escaped (fuel : Nat) (c : Char) (rest : List Char) :
    pieces? (fuel + 1) (escaped c ++ rest) =
      (pieces? fuel rest).map fun p => (.char c :: p.1, p.2) := by
  have added : ((pieces? fuel rest).bind fun p => some (.char c :: p.1, p.2)) =
      (pieces? fuel rest).map fun p => (.char c :: p.1, p.2) := (Option.map_eq_bind ..).symm
  have named (mark : Char) (h : simpleEscape? mark = some c) (other : mark ≠ 'u') :
      pieces? (fuel + 1) ('\\' :: mark :: rest) =
        (pieces? fuel rest).map fun p => (.char c :: p.1, p.2) := by
    rw [pieces?]
    · simp only [h, Option.bind_eq_bind, Option.bind_some]
      exact added
    · exact other
  have ofNat {n : Nat} (h : c.toNat = n) : Char.ofNat n = c := h ▸ Char.ofNat_toNat c
  unfold escaped
  split
  · next h =>
    subst h
    exact named '"' rfl (by decide)
  split
  · next h =>
    subst h
    exact named '\\' rfl (by decide)
  split
  · next h =>
    subst h
    exact named 'n' rfl (by decide)
  split
  · next h =>
    subst h
    exact named 'r' rfl (by decide)
  split
  · next h =>
    subst h
    exact named 't' rfl (by decide)
  split
  · next h => exact named 'b' (congrArg some (ofNat h)) (by decide)
  split
  · next h => exact named 'f' (congrArg some (ofNat h)) (by decide)
  split
  · next h =>
    simp only [List.cons_append, List.nil_append, pieces?, escapedUnit?_control h,
      Option.bind_eq_bind, Option.bind_some]
    exact added
  · next quote slash _ _ _ _ _ plain =>
    rw [List.cons_append, List.nil_append, pieces?]
    · rw [if_neg plain]
      exact added
    · exact fun h => quote h
    · exact fun _ h _ => slash h
    · exact fun _ _ h _ => slash h

theorem pieces?_quoted (cs rest : List Char) (fuel : Nat) (enough : cs.length < fuel) :
    pieces? fuel (cs.flatMap escaped ++ '"' :: rest) = some (cs.map .char, rest) := by
  induction cs generalizing fuel with
  | nil =>
    obtain ⟨fuel, rfl⟩ : ∃ n, fuel = n + 1 := ⟨fuel - 1, by simp at enough; omega⟩
    rfl
  | cons c cs ih =>
    obtain ⟨fuel, rfl⟩ : ∃ n, fuel = n + 1 := ⟨fuel - 1, by simp at enough; omega⟩
    rw [List.flatMap_cons, List.append_assoc, pieces?_escaped, ih fuel (by simpa using enough)]
    rfl

theorem textOf?_chars (cs : List Char) : textOf? (cs.map .char) = some cs := by
  induction cs with
  | nil => rfl
  | cons c cs ih => simp [textOf?, ih]

/-- **A quoted text is read as itself.** -/
theorem string?_quoted (s : String) (rest : List Char) :
    string? (s.toList.flatMap escaped ++ '"' :: rest) = some (some s, rest) := by
  have enough : s.toList.length <
      (s.toList.flatMap escaped ++ '"' :: rest).length + 1 := by
    have each (cs : List Char) : cs.length ≤ (cs.flatMap escaped).length := by
      induction cs with
      | nil => exact Nat.le_refl _
      | cons c cs ih =>
        have some : 1 ≤ (escaped c).length := by
          unfold escaped
          repeat' split
          all_goals exact Nat.le_add_left ..
        rw [List.flatMap_cons, List.length_append, List.length_cons]
        omega
    have := each s.toList
    rw [List.length_append]
    omega
  rw [string?, pieces?_quoted _ _ _ enough]
  simp [textOf?_chars]

theorem toList_quoted (s : String) :
    (quoted s).toList = '"' :: (s.toList.flatMap escaped ++ ['"']) := by
  simp [quoted]

/-! ## Scalars -/

theorem value?_scalar {c : Char} (space : isSpace c = false) (list : c ≠ '[') (table : c ≠ '\x7b')
    (fuel : Nat) (rest : List Char) : value? (fuel + 1) (c :: rest) = scalar? c rest := by
  have here : skip (c :: rest) = c :: rest := by simp [skip, space]
  rw [value?, here]
  split
  · next none => cases none
  · next same => exact absurd (List.cons.inj same).1 list
  · next same => exact absurd (List.cons.inj same).1 table
  · next same =>
    cases same
    rfl

theorem scalar?_digit {c : Char} (digit : c.isDigit = true) (rest : List Char) :
    scalar? c rest = (number? false (c :: rest)).map fun r => leafAt r.1 r.2 := by
  unfold scalar?
  split
  case h_6 => rfl
  all_goals exact absurd digit (by decide)

theorem isSpace_digit {c : Char} (digit : c.isDigit = true) : isSpace c = false := by
  cases space : isSpace c with
  | false => rfl
  | true =>
    simp only [isSpace, Bool.or_eq_true, beq_iff_eq] at space
    rcases space with ((rfl | rfl) | rfl) | rfl <;> exact absurd digit (by decide)

/-- A signed number is a value. -/
theorem value?_number (negative : Bool) {p : NumberText} (digits : Decimal.Digits p.fraction)
    (fuel : Nat) {rest : List Char} (closes : Closes rest) :
    value? (fuel + 1) ((if negative then ['-'] else []) ++ p.text ++ rest) =
      some (leafAt (p.value negative) rest) := by
  have number := number?_text closes negative digits
  cases negative with
  | true =>
    simp only [if_true, List.cons_append, List.nil_append]
    rw [value?_scalar (by decide) (by decide) (by decide), scalar?, number]
    rfl
  | false =>
    obtain ⟨c, cs, leading⟩ := List.exists_cons_of_ne_nil
      (Nat.toDigits_ne_nil : Nat.toDigits 10 p.whole ≠ [])
    have digit : c.isDigit = true :=
      Decimal.digits_toDigits p.whole c (leading ▸ List.mem_cons_self)
    have text : p.text ++ rest = c :: (cs ++ (p.fractionText ++ p.exponentText) ++ rest) := by
      rw [NumberText.text, leading]
      simp
    have list : c ≠ '[' := by
      rintro rfl
      exact absurd digit (by decide)
    have table : c ≠ '\x7b' := by
      rintro rfl
      exact absurd digit (by decide)
    rw [text] at number
    simp only [Bool.false_eq_true, if_false, List.nil_append]
    rw [text, value?_scalar (isSpace_digit digit) list table, scalar?_digit digit, number]
    rfl

end Json

namespace Scalar

open Json

/-- The text of a scalar is read as the other one, whatever closes it. -/
def ReadsAs (v v' : Scalar) : Prop := ∀ fuel rest, Closes rest →
  value? (fuel + 1) ((scalarText v).toList ++ rest) = some (leafAt v' rest)

/-- A text is read as one scalar only. -/
theorem ReadsAs.unique {v v₁ v₂ : Scalar} (h : v.ReadsAs v₁) (k : v.ReadsAs v₂) : v₁ = v₂ := by
  have same := (h 0 [] closes_nil).symm.trans (k 0 [] closes_nil)
  simp only [leafAt, Option.some.injEq, Prod.mk.injEq, Tree.leaf.injEq] at same
  exact same.1.1

theorem readsAs_null : null.ReadsAs null := by
  intro fuel rest _
  rw [show (scalarText null).toList ++ rest = 'n' :: ("ull".toList ++ rest) from rfl,
    value?_scalar (by decide) (by decide) (by decide)]
  rfl

theorem readsAs_truth (b : Bool) : (truth b).ReadsAs (truth b) := by
  intro fuel rest _
  cases b with
  | true =>
    rw [show (scalarText (truth true)).toList ++ rest = 't' :: ("rue".toList ++ rest) from rfl,
      value?_scalar (by decide) (by decide) (by decide)]
    rfl
  | false =>
    rw [show (scalarText (truth false)).toList ++ rest = 'f' :: ("alse".toList ++ rest) from rfl,
      value?_scalar (by decide) (by decide) (by decide)]
    rfl

theorem readsAs_text (s : String) : (text s).ReadsAs (text s) := by
  intro fuel rest _
  rw [scalarText, toList_quoted, List.cons_append, List.append_assoc, List.singleton_append,
    value?_scalar (by decide) (by decide) (by decide), scalar?, string?_quoted]
  rfl

theorem readsAs_moment (s : String) : (moment s).ReadsAs (text s) := readsAs_text s

/-- A number reads as what its parts denote. -/
theorem readsAs_number {v : Scalar} (negative : Bool) (p : NumberText)
    (digits : Decimal.Digits p.fraction)
    (text : (scalarText v).toList = (if negative then ['-'] else []) ++ p.text) :
    v.ReadsAs (p.value negative) := by
  intro fuel rest closes
  rw [text]
  exact value?_number negative digits fuel closes

theorem text_whole (n : Nat) : (NumberText.mk n [] none).text = Nat.toDigits 10 n := by
  simp [NumberText.text, NumberText.fractionText, NumberText.exponentText]

theorem readsAs_natural {n : Nat} (h : n < Nat.pow 2 64) : (natural n).ReadsAs (natural n) := by
  have text : (scalarText (natural n)).toList =
      (if false = true then ['-'] else []) ++ (NumberText.mk n [] none).text := by
    rw [text_whole, scalarText, Decimal.toList_naturalText]
    rfl
  have value : (NumberText.mk n [] none).value false = natural n := by
    have same : Nat.ofDigitChars 10 (Nat.toDigits 10 n) 0 = n := Nat.ofDigitChars_ten_toDigits
    have kept : kept 0 (Nat.toDigits 10 n) = (n, 0) := by
      rw [kept_of_lt (same.symm ▸ h), same]
    simp [NumberText.value, numberValue, kept]
  have read := readsAs_number false _ Decimal.digits_nil text
  rwa [value] at read

/-- A double that no number denotes reads back as null. -/
theorem readsAs_double_null {x : Double} (h : Decimal.exchanged? x.value = none) :
    (double x).ReadsAs null := by
  have text : scalarText (double x) = scalarText null := by
    simp only [scalarText, h, Option.getD_none]
  intro fuel rest closes
  rw [text]
  exact readsAs_null fuel rest closes

theorem readsAs_finite {x : Double} {b : Decimal.Binary}
    (finite : Decimal.kind x.value = .finite b) : ∃ p : NumberText, Decimal.Digits p.fraction ∧
      (double x).ReadsAs (p.value b.negative) ∧
      ((Decimal.Numeral.shortest Decimal.exchange.tie b).leading ≤ 15 → p.Downscaled) := by
  obtain ⟨p, digits, text, down⟩ := finiteText_exchange b
  refine ⟨p, digits, readsAs_number b.negative p digits ?_, down⟩
  simp only [scalarText, Decimal.exchanged?, finite]
  exact text

theorem exists_readsAs_double (x : Double) : ∃ v', (double x).ReadsAs v' := by
  cases kind : Decimal.kind x.value with
  | finite b =>
    obtain ⟨p, -, reads, -⟩ := readsAs_finite kind
    exact ⟨_, reads⟩
  | infinite negative => exact ⟨_, readsAs_double_null (by simp only [Decimal.exchanged?, kind])⟩
  | nan => exact ⟨_, readsAs_double_null (by simp only [Decimal.exchanged?, kind])⟩

/-- A double below ten to the sixteenth reads back as a double. -/
theorem exists_double_readsAs {x : Double} {b : Decimal.Binary}
    (finite : Decimal.kind x.value = .finite b)
    (short : (Decimal.Numeral.shortest Decimal.exchange.tie b).leading ≤ 15) :
    ∃ y, (double x).ReadsAs (double y) := by
  obtain ⟨p, digits, reads, down⟩ := readsAs_finite finite
  obtain ⟨y, value⟩ := (down short).value digits b.negative
  exact ⟨y, value ▸ reads⟩

/-- There is no scalar whose text does not read. -/
theorem exists_readsAs (v : Scalar) : ∃ v', v.ReadsAs v' := by
  cases v with
  | null => exact ⟨_, readsAs_null⟩
  | truth b => exact ⟨_, readsAs_truth b⟩
  | text s => exact ⟨_, readsAs_text s⟩
  | moment s => exact ⟨_, readsAs_moment s⟩
  | double x => exact exists_readsAs_double x
  | unusable reason => exact ⟨_, readsAs_null⟩
  | natural n =>
    refine ⟨_, readsAs_number false ⟨n, [], none⟩ Decimal.digits_nil ?_⟩
    rw [text_whole, scalarText, Decimal.toList_naturalText]
    rfl
  | negative n =>
    refine ⟨_, readsAs_number true ⟨n, [], none⟩ Decimal.digits_nil ?_⟩
    rw [text_whole, scalarText, String.toList_append, Decimal.toList_naturalText]
    rfl

end Scalar

/-! ## Documents -/

namespace Tree

mutual

/-- The text of a tree is read as the other one, places aside: scalar by scalar. -/
def ReadsAs : Tree → Tree → Prop
  | .leaf v _, .leaf v' _ => v.ReadsAs v'
  | .list ts, .list ts' => ItemsReadAs ts ts'
  | .table es, .table es' => EntriesReadAs es es'
  | _, _ => False

def ItemsReadAs : List Tree → List Tree → Prop
  | [], [] => True
  | t :: ts, t' :: ts' => ReadsAs t t' ∧ ItemsReadAs ts ts'
  | _, _ => False

/-- Keys are read as themselves, in their order. -/
def EntriesReadAs : List (String × Tree) → List (String × Tree) → Prop
  | [], [] => True
  | (key, t) :: es, (key', t') :: es' => key = key' ∧ ReadsAs t t' ∧ EntriesReadAs es es'
  | _, _ => False

end

end Tree

namespace Json

open Gradebook.Tree (ReadsAs ItemsReadAs EntriesReadAs)

theorem skip_of_not_space {c : Char} (h : isSpace c = false) (rest : List Char) :
    skip (c :: rest) = c :: rest := by simp [skip, h]

theorem skip_skip (text : List Char) : skip (skip text) = skip text := by
  induction text with
  | nil => rfl
  | cons c rest ih =>
    cases space : isSpace c with
    | true =>
      have here : skip (c :: rest) = skip rest := by simp [skip, space]
      rw [here, ih]
    | false => rw [skip_of_not_space space, skip_of_not_space space]

/-- Nothing but the text behind white space matters to a reader of values. -/
theorem value?_skip (fuel : Nat) (text : List Char) :
    value? fuel (skip text) = value? fuel text := by
  cases fuel with
  | zero => rfl
  | succ fuel => rw [value?, value?, skip_skip]

theorem value?_bracket {text rest : List Char} (h : skip text = ']' :: rest) (fuel : Nat) :
    value? fuel text = none := by
  cases fuel with
  | zero => rfl
  | succ fuel =>
    rw [← value?_skip, h, value?_scalar (by decide) (by decide) (by decide)]
    rfl

theorem items?_skip (fuel : Nat) (text : List Char) :
    items? fuel (skip text) = items? fuel text := by
  cases fuel with
  | zero => rfl
  | succ fuel => rw [items?, items?, value?_skip]

/-- A list with items is read by its items. -/
theorem value?_list {fuel : Nat} {text rest : List Char} {ts : List Tree}
    (h : items? fuel text = some (ts, rest)) :
    value? (fuel + 1) ('[' :: text) = some (.list ts, rest) := by
  have opened : skip ('[' :: text) = '[' :: text := skip_of_not_space (by decide) text
  rw [value?, opened]
  simp only
  split
  · next closed =>
    cases fuel with
    | zero => cases h
    | succ fuel =>
      rw [items?, value?_bracket closed] at h
      cases h
  · rw [items?_skip, h]
    rfl

/-- A table with entries is read by its entries. -/
theorem value?_table {fuel : Nat} {text rest : List Char}
    {es : List (Option String × Tree)}
    (h : entries? fuel ('"' :: text) = some (es, rest)) :
    value? (fuel + 1) ('\x7b' :: '"' :: text) = some (tableOf es, rest) := by
  rw [value?, skip_of_not_space (by decide)]
  simp only [skip_of_not_space (show isSpace '"' = false from rfl)]
  exact congrArg (Option.map fun r => (tableOf r.1, r.2)) h

theorem tableOf_some (es : List (String × Tree)) :
    tableOf (es.map fun e => (some e.1, e.2)) = .table es := by
  have all : (es.map fun e => (some e.1, e.2)).mapM
      (fun e : Option String × Tree => e.1.map fun key => (key, e.2)) = some es := by
    induction es with
    | nil => rfl
    | cons e es ih => simp [ih]
  rw [tableOf, all]

theorem skip_comma (rest : List Char) : skip (',' :: rest) = ',' :: rest :=
  skip_of_not_space rfl rest

/-- A last item is read by its value. -/
theorem items?_last {fuel : Nat} {text rest : List Char} {t : Tree}
    (h : value? fuel text = some (t, ']' :: rest)) :
    items? (fuel + 1) text = some ([t], rest) := by
  rw [items?, h]
  rfl

theorem items?_next {fuel : Nat} {text between rest : List Char} {t : Tree} {ts : List Tree}
    (h : value? fuel text = some (t, ',' :: between))
    (k : items? fuel between = some (ts, rest)) :
    items? (fuel + 1) text = some (t :: ts, rest) := by
  rw [items?, h]
  simp only [Option.bind_eq_bind, Option.bind_some, skip_comma]
  exact congrArg (Option.bind · _) k

/-- A last entry is read by its key and its value. -/
theorem entries?_last {fuel : Nat} {key : String} {text rest : List Char} {t : Tree}
    (h : value? fuel text = some (t, '\x7d' :: rest)) :
    entries? (fuel + 1) ((quoted key).toList ++ ':' :: text) = some ([(some key, t)], rest) := by
  rw [toList_quoted, List.cons_append, List.append_assoc, List.singleton_append, entries?,
    skip_of_not_space rfl]
  simp only [string?_quoted, Option.bind_eq_bind, Option.bind_some,
    skip_of_not_space (show isSpace ':' = false from rfl), h]
  rfl

theorem entries?_next {fuel : Nat} {key : String} {text between rest : List Char} {t : Tree}
    {es : List (Option String × Tree)} (h : value? fuel text = some (t, ',' :: between))
    (k : entries? fuel between = some (es, rest)) :
    entries? (fuel + 1) ((quoted key).toList ++ ':' :: text) =
      some ((some key, t) :: es, rest) := by
  rw [toList_quoted, List.cons_append, List.append_assoc, List.singleton_append, entries?,
    skip_of_not_space rfl]
  simp only [string?_quoted, Option.bind_eq_bind, Option.bind_some,
    skip_of_not_space (show isSpace ':' = false from rfl), h, skip_comma]
  exact congrArg (Option.bind · _) k

mutual

/-- **A written tree is read**, whatever closes it. The reader goes down a level with at
least one character of the text, so its length is fuel enough. -/
theorem value?_write : ∀ (t : Tree) (fuel : Nat) (rest : List Char), Closes rest →
    (write t).toList.length < fuel →
    ∃ t', value? fuel ((write t).toList ++ rest) = some (t', rest) ∧ t.ReadsAs t'
  | .leaf v left => by
    intro fuel rest closes enough
    obtain ⟨fuel, rfl⟩ : ∃ n, fuel = n + 1 := ⟨fuel - 1, by omega⟩
    obtain ⟨v', reads⟩ := Scalar.exists_readsAs v
    refine ⟨.leaf v' rest.length, ?_, reads⟩
    rw [write]
    exact reads fuel rest closes
  | .list [] => by
    intro fuel rest _ enough
    obtain ⟨fuel, rfl⟩ : ∃ n, fuel = n + 1 := ⟨fuel - 1, by omega⟩
    exact ⟨.list [], rfl, trivial⟩
  | .list (t :: ts) => by
    intro fuel rest _ enough
    obtain ⟨fuel, rfl⟩ : ∃ n, fuel = n + 1 := ⟨fuel - 1, by omega⟩
    have long : (write (.list (t :: ts))).toList =
        '[' :: ((",".intercalate (writeItems (t :: ts))).toList ++ [']']) := by
      simp [write]
    rw [long] at enough ⊢
    simp only [List.length_cons, List.length_append, List.length_nil] at enough
    obtain ⟨ts', read, same⟩ := items?_write t ts fuel rest (by omega)
    refine ⟨.list ts', ?_, same⟩
    rw [List.cons_append, List.append_assoc, List.singleton_append]
    exact value?_list read
  | .table [] => by
    intro fuel rest _ enough
    obtain ⟨fuel, rfl⟩ : ∃ n, fuel = n + 1 := ⟨fuel - 1, by omega⟩
    exact ⟨.table [], rfl, trivial⟩
  | .table ((key, t) :: es) => by
    intro fuel rest _ enough
    obtain ⟨fuel, rfl⟩ : ∃ n, fuel = n + 1 := ⟨fuel - 1, by omega⟩
    have long : (write (.table ((key, t) :: es))).toList =
        '\x7b' :: ((",".intercalate (writeEntries ((key, t) :: es))).toList ++ ['\x7d']) := by
      simp [write]
    rw [long] at enough ⊢
    simp only [List.length_cons, List.length_append, List.length_nil] at enough
    obtain ⟨es', read, same⟩ := entries?_write key t es fuel rest (by omega)
    refine ⟨.table es', ?_, same⟩
    rw [List.cons_append, List.append_assoc, List.singleton_append, ← tableOf_some]
    obtain ⟨text, quote⟩ : ∃ text,
        (",".intercalate (writeEntries ((key, t) :: es))).toList ++ '\x7d' :: rest =
          '"' :: text := by
      rcases es with _ | ⟨⟨_, _⟩, es⟩ <;>
        simp [writeEntries, toList_quoted, String.intercalate_cons_cons]
    rw [quote] at read ⊢
    exact value?_table read
termination_by t => sizeOf t

theorem items?_write : ∀ (t : Tree) (ts : List Tree) (fuel : Nat) (rest : List Char),
    (",".intercalate (writeItems (t :: ts))).toList.length + 1 < fuel →
    ∃ ts', items? fuel ((",".intercalate (writeItems (t :: ts))).toList ++ ']' :: rest) =
      some (ts', rest) ∧ ItemsReadAs (t :: ts) ts'
  | t, [] => by
    intro fuel rest enough
    obtain ⟨fuel, rfl⟩ : ∃ n, fuel = n + 1 := ⟨fuel - 1, by omega⟩
    simp only [writeItems, String.intercalate_singleton] at enough ⊢
    obtain ⟨t', read, same⟩ :=
      value?_write t fuel (']' :: rest) (closes_cons (by simp)) (by omega)
    exact ⟨[t'], items?_last read, same, trivial⟩
  | t, u :: us => by
    intro fuel rest enough
    obtain ⟨fuel, rfl⟩ : ∃ n, fuel = n + 1 := ⟨fuel - 1, by omega⟩
    have split : (",".intercalate (writeItems (t :: u :: us))).toList =
        (write t).toList ++ ',' :: (",".intercalate (writeItems (u :: us))).toList := by
      simp [writeItems, String.intercalate_cons_cons]
    rw [split] at enough ⊢
    rw [List.length_append, List.length_cons] at enough
    obtain ⟨t', first, same⟩ := value?_write t fuel
      (',' :: ((",".intercalate (writeItems (u :: us))).toList ++ ']' :: rest))
      (closes_cons (by simp)) (by omega)
    obtain ⟨us', others, alike⟩ := items?_write u us fuel rest (by omega)
    refine ⟨t' :: us', ?_, same, alike⟩
    rw [List.append_assoc, List.cons_append]
    exact items?_next first others
termination_by t ts => sizeOf (t :: ts)

theorem entries?_write : ∀ (key : String) (t : Tree) (es : List (String × Tree)) (fuel : Nat)
    (rest : List Char),
    (",".intercalate (writeEntries ((key, t) :: es))).toList.length + 1 < fuel →
    ∃ es', entries? fuel
        ((",".intercalate (writeEntries ((key, t) :: es))).toList ++ '\x7d' :: rest) =
      some (es'.map fun e => (some e.1, e.2), rest) ∧ EntriesReadAs ((key, t) :: es) es'
  | key, t, [] => by
    intro fuel rest enough
    obtain ⟨fuel, rfl⟩ : ∃ n, fuel = n + 1 := ⟨fuel - 1, by omega⟩
    have split : (",".intercalate (writeEntries [(key, t)])).toList =
        (quoted key).toList ++ ':' :: (write t).toList := by
      simp [writeEntries]
    rw [split] at enough ⊢
    rw [List.length_append, List.length_cons] at enough
    obtain ⟨t', read, same⟩ :=
      value?_write t fuel ('\x7d' :: rest) (closes_cons (by simp)) (by omega)
    refine ⟨[(key, t')], ?_, rfl, same, trivial⟩
    rw [List.append_assoc, List.cons_append]
    exact entries?_last read
  | key, t, (key', u) :: us => by
    intro fuel rest enough
    obtain ⟨fuel, rfl⟩ : ∃ n, fuel = n + 1 := ⟨fuel - 1, by omega⟩
    have split : (",".intercalate (writeEntries ((key, t) :: (key', u) :: us))).toList =
        (quoted key).toList ++ ':' :: ((write t).toList ++
          ',' :: (",".intercalate (writeEntries ((key', u) :: us))).toList) := by
      simp [writeEntries, String.intercalate_cons_cons]
    rw [split] at enough ⊢
    simp only [List.length_append, List.length_cons] at enough
    obtain ⟨t', first, same⟩ := value?_write t fuel
      (',' :: ((",".intercalate (writeEntries ((key', u) :: us))).toList ++ '\x7d' :: rest))
      (closes_cons (by simp)) (by omega)
    obtain ⟨us', others, alike⟩ := entries?_write key' u us fuel rest (by omega)
    refine ⟨(key, t') :: us', ?_, rfl, same, alike⟩
    rw [List.append_assoc, List.cons_append, List.append_assoc, List.cons_append]
    exact entries?_next first others
termination_by key t es => sizeOf ((key, t) :: es)

end

/-- **Every written document is read again**, scalar by scalar. -/
theorem read?_write (t : Tree) : ∃ t', read? (write t) = some t' ∧ t.ReadsAs t' := by
  have enough : (write t).toList.length < 2 * (write t).length + 2 := by
    rw [String.length_toList]
    omega
  obtain ⟨t', read, same⟩ := value?_write t _ [] closes_nil enough
  refine ⟨t', ?_, same⟩
  rw [List.append_nil] at read
  rw [read?, read]
  rfl

end Json

end Gradebook
