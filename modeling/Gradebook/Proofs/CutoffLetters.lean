/-
# Gradebook.Proofs.CutoffLetters — the letter a fraction earns

A letter is found in two steps under two orders. A cutoff is met if it is at most the fraction
with the allowance, as numbers are compared: NaN meets nothing, and the zeros are alike. Of the
cutoffs met the greatest is taken in the total order of bit patterns, where a zero is above a
negative zero, and of letters with the very same pattern the last one.

`Yields` is the second order, over entries. The scan of the entries keeps one to which all
others yield (`bestMet?_of_meets`), and no two entries yield to each other, so what is found is
determined (`bestMet?_eq_some`). A greater fraction meets whatever a smaller one meets, since
adding the allowance keeps the order of doubles, and what is found there is one more entry that
yields to the best of them (`bestMet?_rises`). The order of letters, by characters, is that of
their UTF-8 bytes (`Text.before_utf8`).
-/
import Gradebook.Proofs.Averages
import Gradebook.Proofs.ScoreKeys
import Gradebook.Proofs.ServedBack

namespace Gradebook

set_option autoImplicit false

open Double (AtMost)
open Text (utf8)

/-! ## Texts in byte order -/

namespace Text

theorem before_cons_iff {a b : UInt8} {as bs : Bytes} : before (a :: as) (b :: bs) = true ↔
    a.toNat < b.toNat ∨ a.toNat = b.toNat ∧ before as bs = true := by
  simp only [before, UInt8.lt_iff_toNat_lt]
  split_ifs with less more
  · simp [less]
  · simp
    omega
  · have same : a.toNat = b.toNat := by omega
    simp [same]

theorem before_append (start as bs : Bytes) :
    before (start ++ as) (start ++ bs) = before as bs := by
  induction start with
  | nil => rfl
  | cons a start ih =>
    rw [List.cons_append, List.cons_append, Bool.eq_iff_iff, before_cons_iff, ih]
    simp

/-- A lower character has lower bytes, whatever follows. -/
theorem before_encodeChar {c d : Char} (less : c < d) (as bs : Bytes) :
    before (String.utf8EncodeChar c ++ as) (String.utf8EncodeChar d ++ bs) = true := by
  have order : c.val.toNat < d.val.toNat := less
  have valid : d.val.toNat < 0x110000 := by
    have := d.valid
    simp only [UInt32.isValidChar, Nat.isValidChar] at this
    omega
  -- The digits in base 64, as one quotient after the other.
  have second (n : ℕ) : n / 4096 = n / 64 / 64 := by omega
  have third (n : ℕ) : n / 262144 = n / 64 / 64 / 64 := by omega
  have small {n : ℕ} (below : n < 256) : n % 2 ^ 8 = n := Nat.mod_eq_of_lt below
  simp only [String.utf8EncodeChar, second, third]
  split_ifs <;>
    simp (disch := omega) only [List.cons_append, List.nil_append, before_cons_iff,
      UInt8.toNat_ofNat', small] <;>
    omega

/-- **The byte order of texts is that of their characters.** -/
theorem before_utf8 {s t : String} : before (utf8 s) (utf8 t) = true ↔ s < t := by
  rw [utf8_eq, utf8_eq, show s < t ↔ s.toList < t.toList from Iff.rfl]
  generalize s.toList = cs, t.toList = ds
  have nonempty (c : Char) : String.utf8EncodeChar c ≠ [] := by
    simp only [String.utf8EncodeChar]
    split_ifs <;> exact List.cons_ne_nil _ _
  induction cs generalizing ds with
  | nil =>
    cases ds with
    | nil => simp [before]
    | cons d ds =>
      rw [List.flatMap_cons, iff_true_right (List.nil_lt_cons d ds)]
      obtain ⟨b, bs, encoded⟩ := List.exists_cons_of_ne_nil (nonempty d)
      rw [encoded]
      rfl
  | cons c cs ih =>
    cases ds with
    | nil =>
      obtain ⟨a, as, encoded⟩ := List.exists_cons_of_ne_nil (nonempty c)
      rw [List.flatMap_cons, encoded, iff_false_right (List.not_lt_nil _)]
      exact Bool.false_ne_true
    | cons d ds =>
      rw [List.flatMap_cons, List.flatMap_cons, List.cons_lt_cons_iff]
      rcases lt_trichotomy c d with less | rfl | more
      · exact iff_of_true (before_encodeChar less _ _) (.inl less)
      · simp [before_append, ih]
      · refine iff_of_false (before_asymm (before_encodeChar more _ _)) ?_
        rintro (less | ⟨same, -⟩)
        · exact less.not_gt more
        · exact more.ne' same

end Text

/-! ## The best cutoff met -/

namespace GradingPolicy

/-- An entry gives way to another one: its cutoff is lower in the total order, or it is the same
and the letter is no later. -/
structure Yields (e kept : String × Double) : Prop where
  cutoff : AtMost e.2 kept.2
  letter : e.2 = kept.2 → e.1 ≤ kept.1

namespace Yields

variable {e f g : String × Double}

theorem refl (e : String × Double) : Yields e e := ⟨Double.atMost_refl _, fun _ => String.le_refl _⟩

theorem trans (h : Yields e f) (k : Yields f g) : Yields e g := by
  refine ⟨Double.atMost_trans h.cutoff k.cutoff, fun same => ?_⟩
  have level : e.2 = f.2 := antisymm_of AtMost h.cutoff (same ▸ k.cutoff)
  exact String.le_trans (h.letter level) (k.letter (level.symm.trans same))

theorem antisymm (h : Yields e f) (k : Yields f e) : e = f := by
  have level : e.2 = f.2 := antisymm_of AtMost h.cutoff k.cutoff
  exact Prod.ext (String.le_antisymm (h.letter level) (k.letter level.symm)) level

end Yields

/-- Of an entry and what was kept of those before, both yield to what is kept. -/
theorem better_spec {best : Option (String × Double)} {entry : String × Double}
    (later : ∀ e, best = some e → e.1 < entry.1) :
    ∃ kept, better best entry = some kept ∧ Yields entry kept ∧
      ∀ e, best = some e → Yields e kept := by
  cases best with
  | none => exact ⟨entry, rfl, .refl entry, fun e none => nomatch none⟩
  | some best =>
    have earlier := later best rfl
    rw [better]
    split_ifs with most
    · refine ⟨entry, rfl, .refl entry, fun e same => ?_⟩
      obtain rfl := Option.some.inj same
      exact ⟨most, fun _ => Std.le_of_lt earlier⟩
    · refine ⟨best, rfl, ⟨?_, fun same => ?_⟩, fun e same => ?_⟩
      · exact (total_of AtMost best.2 entry.2).resolve_left most
      · exact absurd (same ▸ Double.atMost_refl _) most
      · exact Option.some.inj same ▸ .refl e

/-- **All entries yield to the one that is kept**, when they come in the order of their
letters. -/
theorem foldl_better_spec {entries : List (String × Double)} {best : Option (String × Double)}
    (ascending : entries.Pairwise fun a b => a.1 < b.1)
    (later : ∀ e, best = some e → ∀ f ∈ entries, e.1 < f.1) {e : String × Double}
    (h : e ∈ entries ∨ best = some e) :
    ∃ kept, entries.foldl better best = some kept ∧ Yields e kept := by
  induction entries generalizing best e with
  | nil =>
    rcases h with inside | rfl
    · exact absurd inside List.not_mem_nil
    · exact ⟨e, rfl, .refl e⟩
  | cons entry rest ih =>
    obtain ⟨first, ascending⟩ := List.pairwise_cons.1 ascending
    obtain ⟨next, taken, yields, yield⟩ := better_spec fun e held => later e held entry
      List.mem_cons_self
    have later' : ∀ e, better best entry = some e → ∀ f ∈ rest, e.1 < f.1 := by
      intro e held f inside
      rcases better_mem held with rfl | before
      · exact first f inside
      · exact later e before f (List.mem_cons_of_mem entry inside)
    have go (h : Yields e next) :
        ∃ kept, (entry :: rest).foldl better best = some kept ∧ Yields e kept := by
      obtain ⟨kept, found, above⟩ := ih ascending later' (.inr taken)
      exact ⟨kept, found, h.trans above⟩
    rcases h with inside | held
    · rcases List.mem_cons.1 inside with rfl | inside
      · exact go yields
      · exact ih ascending later' (.inl inside)
    · exact go (yield e held)

variable {p : GradingPolicy} {x y : Float} {e : String × Double}

theorem bestMet?_of_meets (inside : e ∈ p.cutoffs.entries) (met : meets x e.2 = true) :
    ∃ kept, p.bestMet? x = some kept ∧ Yields e kept :=
  foldl_better_spec (p.cutoffs.ascending.filter _) (by simp)
    (.inl (List.mem_filter.2 ⟨inside, met⟩))

theorem bestMet?_met (best : p.bestMet? x = some e) :
    e ∈ p.cutoffs.entries ∧ meets x e.2 = true := by
  rcases foldl_better_mem best with inside | none
  · exact List.mem_filter.1 inside
  · cases none

theorem bestMet?_eq_none :
    p.bestMet? x = none ↔ ∀ e ∈ p.cutoffs.entries, ¬meets x e.2 = true := by
  constructor
  · intro none e inside met
    obtain ⟨kept, found, -⟩ := bestMet?_of_meets inside met
    exact absurd (none.symm.trans found) (Option.some_ne_none kept).symm
  · intro unmet
    cases best : p.bestMet? x with
    | none => rfl
    | some e =>
      obtain ⟨inside, met⟩ := bestMet?_met best
      exact absurd met (unmet e inside)

/-- **What is found is the entry met to which all entries met yield.** -/
theorem bestMet?_eq_some : p.bestMet? x = some e ↔
    (e ∈ p.cutoffs.entries ∧ meets x e.2 = true) ∧
      ∀ f ∈ p.cutoffs.entries, meets x f.2 = true → Yields f e := by
  constructor
  · intro best
    refine ⟨bestMet?_met best, fun f inside met => ?_⟩
    obtain ⟨kept, found, yields⟩ := bestMet?_of_meets inside met
    exact Option.some.inj (found.symm.trans best) ▸ yields
  · rintro ⟨⟨inside, met⟩, most⟩
    obtain ⟨kept, found, yields⟩ := bestMet?_of_meets inside met
    obtain ⟨inside', met'⟩ := bestMet?_met found
    rw [found, yields.antisymm (most kept inside' met')]

theorem meets_mono {cutoff : Double} (le : x ≤ y) (met : meets x cutoff = true) :
    meets y cutoff = true := by
  obtain ⟨t, allowance, -⟩ := isFraction_iff.1 (show isFraction tolerance = true by decide +kernel)
  rw [meets, decide_eq_true_eq] at met ⊢
  exact Decimal.le_trans met (allowance.add_mono le)

/-- **A greater fraction earns a letter at least as good.** -/
theorem bestMet?_rises (le : x ≤ y) (best : p.bestMet? x = some e) :
    ∃ e', p.bestMet? y = some e' ∧ AtMost e.2 e'.2 ∧ e.2.value ≤ e'.2.value := by
  obtain ⟨inside, met⟩ := bestMet?_met best
  obtain ⟨e', best', yields⟩ := bestMet?_of_meets inside (meets_mono le met)
  have number {x : Float} {cutoff : Double} (met : meets x cutoff = true) :
      cutoff.isNaN = false :=
    (Decimal.number_of_le (of_decide_eq_true met)).1
  exact ⟨e', best', yields.cutoff,
    Double.le_of_atMost (number met) (number (bestMet?_met best').2) yields.cutoff⟩

end GradingPolicy

/-- **Letters are the best cutoff met, and monotone.** There is no letter if and only if no cutoff
is at most the fraction with the allowance. A letter is the one named if and only if its cutoff is
such, and every other such cutoff is lower in the total order of doubles, or the very same for a
letter that comes before in byte order. A fraction that is no less has a letter if the lesser one
has, with a cutoff at least as high, in both orders. All of this holds for all doubles as
fractions and cutoffs, NaN and the infinities included. -/
theorem letters_are_best_met (p : GradingPolicy) (x : Float) :
    let met (x : Float) (letter : String) (cutoff : Double) : Prop :=
      p.cutoffs.find? letter = some cutoff ∧ cutoff.value ≤ x + GradingPolicy.tolerance
    (p.letterFor? x = none ↔ ∀ letter cutoff, ¬met x letter cutoff) ∧
      (∀ letter, p.letterFor? x = some letter ↔ ∃ cutoff, met x letter cutoff ∧
        ∀ other cutoff', met x other cutoff' → AtMost cutoff' cutoff ∧
          (cutoff' = cutoff → other = letter ∨ Text.before (utf8 other) (utf8 letter) = true)) ∧
      ∀ y letter, x ≤ y → p.letterFor? x = some letter →
        ∃ letter' cutoff cutoff', p.letterFor? y = some letter' ∧ met x letter cutoff ∧
          met y letter' cutoff' ∧ AtMost cutoff cutoff' ∧ cutoff.value ≤ cutoff'.value := by
  intro met
  have entry {x : Float} {letter : String} {cutoff : Double} : met x letter cutoff ↔
      (letter, cutoff) ∈ p.cutoffs.entries ∧ GradingPolicy.meets x cutoff = true := by
    rw [Dictionary.mem_entries, GradingPolicy.meets, decide_eq_true_eq]
  have yields {e f : String × Double} : GradingPolicy.Yields e f ↔ AtMost e.2 f.2 ∧
      (e.2 = f.2 → e.1 = f.1 ∨ Text.before (utf8 e.1) (utf8 f.1) = true) := by
    simp only [Text.before_utf8, ← le_iff_eq_or_lt]
    exact ⟨fun h => ⟨h.cutoff, h.letter⟩, fun h => ⟨h.1, h.2⟩⟩
  refine ⟨?_, fun letter => ?_, fun y letter le earned => ?_⟩
  · rw [GradingPolicy.letterFor?, Option.map_eq_none_iff, GradingPolicy.bestMet?_eq_none]
    simp only [Prod.forall, entry, not_and]
  · rw [GradingPolicy.letterFor?, Option.map_eq_some_iff]
    simp only [Prod.exists, exists_and_right, exists_eq_right, GradingPolicy.bestMet?_eq_some,
      Prod.forall, entry, yields, and_imp]
  · obtain ⟨⟨letter, cutoff⟩, best, rfl⟩ := Option.map_eq_some_iff.1 earned
    obtain ⟨⟨letter', cutoff'⟩, best', order, value⟩ := GradingPolicy.bestMet?_rises le best
    exact ⟨letter', cutoff, cutoff', Option.map_eq_some_iff.2 ⟨_, best', rfl⟩,
      entry.2 (GradingPolicy.bestMet?_met best), entry.2 (GradingPolicy.bestMet?_met best'),
      order, value⟩

namespace Sample

/-- Letters with the same cutoff, cutoffs that are equal as numbers only, and one that is none. -/
def zeros : GradingPolicy where
  graders := []
  cutoffs := .ofList [("A", .ofFloat 0.5), ("B", .ofFloat 0.0), ("C", .ofFloat 0.0),
    ("D", .ofFloat (-0.0)), ("E", .undefined), ("Ä", .ofFloat 0.5)]

end Sample

/-- The zero is above the negative zero, the later letter before the earlier, and an infinite
fraction earns the best letter. -/
theorem letters_are_best_met_zeros :
    Sample.zeros.letterFor? 0.0 = some "C" ∧ ∃ letter cutoff cutoff',
      Sample.zeros.letterFor? (1.0 / 0.0) = some letter ∧ letter = "Ä" ∧
      Sample.zeros.cutoffs.find? "C" = some cutoff ∧
      Sample.zeros.cutoffs.find? letter = some cutoff' ∧ AtMost cutoff cutoff' := by
  have earned : Sample.zeros.letterFor? 0.0 = some "C" := by decide +kernel
  have best : Sample.zeros.letterFor? (1.0 / 0.0) = some "Ä" := by decide +kernel
  have le : (0.0 : Float) ≤ 1.0 / 0.0 := by decide +kernel
  obtain ⟨letter, cutoff, cutoff', earned', held, held', order, -⟩ :=
    (letters_are_best_met Sample.zeros 0.0).2.2 _ _ le earned
  exact ⟨earned, letter, cutoff, cutoff', earned', Option.some.inj (earned'.symm.trans best),
    held.1, held'.1, order⟩

end Gradebook
