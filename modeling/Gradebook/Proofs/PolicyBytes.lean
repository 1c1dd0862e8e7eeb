/-
# Gradebook.Proofs.PolicyBytes — the bytes of a policy determine it

A fingerprint digests a policy as bytes: a text behind its length, a number in eight bytes, a
list behind the number of its items. Each of these is `Delimited`: whatever bytes follow, they
tell the value and where it ends. That property passes to records (`Delimited.pair`,
`Delimited.comap`) and to lists (`Delimited.counted`), whatever texts are in them, also texts
that look like a length.

So policies are written alike only if they are the same (`bytes_injective`), and policies that
share a fingerprint are the same, unless their bytes are a collision of the digest. The lengths
have to fit their eight bytes (`GradingPolicy.Sized`), as all lengths do that a machine can
hold.
-/
import Gradebook.Calculator
import Gradebook.Policy.Fingerprint

namespace Gradebook

set_option autoImplicit false

open Gradebook.Text (Bytes word utf8)

/-- Two byte sequences with one digest. -/
def Digest.Collision (a b : Bytes) : Prop := a ≠ b ∧ digest a = digest b

/-! ## Delimited writing -/

/-- Values that fit are told by what is written for them, and so is where that ends. -/
def Delimited {α : Type} (write : α → Bytes) (fits : α → Prop) : Prop :=
  ∀ a b r s, fits a → fits b → write a ++ r = write b ++ s → a = b ∧ r = s

theorem delimited_word : Delimited word fun _ => True := by
  intro m n r s _ _ same
  obtain ⟨number, rest⟩ := List.append_inj same rfl
  exact ⟨Text.word_inj number, rest⟩

namespace Delimited

variable {α β : Type} {f : α → Bytes} {F : α → Prop} {g : β → Bytes} {G : β → Prop}

/-- What is made of a value that is told tells what it is made of. -/
theorem comap {part : β → α} (inj : Function.Injective part) (h : Delimited f F) :
    Delimited (fun b => f (part b)) fun b => F (part b) := by
  intro b b' r s fit fit' same
  obtain ⟨parts, rest⟩ := h _ _ r s fit fit' same
  exact ⟨inj parts, rest⟩

theorem pair (h : Delimited f F) (k : Delimited g G) :
    Delimited (fun p : α × β => f p.1 ++ g p.2) fun p => F p.1 ∧ G p.2 := by
  rintro ⟨a, b⟩ ⟨a', b'⟩ r s ⟨fitA, fitB⟩ ⟨fitA', fitB'⟩ same
  simp only [List.append_assoc] at same
  obtain ⟨rfl, second⟩ := h a a' _ _ fitA fitA' same
  obtain ⟨rfl, rest⟩ := k b b' r s fitB fitB' second
  exact ⟨rfl, rest⟩

/-- As many items on both sides are told one after the other. -/
theorem items (h : Delimited f F) {xs ys : List α} {r s : Bytes} (many : xs.length = ys.length)
    (fit : ∀ x ∈ xs, F x) (fit' : ∀ y ∈ ys, F y)
    (same : xs.flatMap f ++ r = ys.flatMap f ++ s) : xs = ys ∧ r = s := by
  induction xs generalizing ys with
  | nil =>
    obtain rfl := List.eq_nil_of_length_eq_zero many.symm
    exact ⟨rfl, same⟩
  | cons x xs ih =>
    cases ys with
    | nil => cases many
    | cons y ys =>
      obtain ⟨fitX, fitXs⟩ := List.forall_mem_cons.1 fit
      obtain ⟨fitY, fitYs⟩ := List.forall_mem_cons.1 fit'
      rw [List.flatMap_cons, List.flatMap_cons, List.append_assoc, List.append_assoc] at same
      obtain ⟨rfl, others⟩ := h x y _ _ fitX fitY same
      obtain ⟨rfl, rest⟩ := ih (Nat.succ.inj many) fitXs fitYs others
      exact ⟨rfl, rest⟩

end Delimited

/-- A length that fits in eight bytes. -/
def FitsWord (n : Nat) : Prop := n < Nat.pow 2 64

instance (n : Nat) : Decidable (FitsWord n) := inferInstanceAs (Decidable (n < Nat.pow 2 64))

theorem FitsWord.toUInt64_inj {m n : Nat} (hm : FitsWord m) (hn : FitsWord n)
    (same : m.toUInt64 = n.toUInt64) : m = n := by
  have values := congrArg UInt64.toNat same
  rwa [Nat.toUInt64_eq, Nat.toUInt64_eq, UInt64.toNat_ofNat_of_lt' hm,
    UInt64.toNat_ofNat_of_lt' hn] at values

/-- A list behind the number of its items. -/
theorem Delimited.counted {α : Type} {f : α → Bytes} {F : α → Prop} (h : Delimited f F) :
    Delimited (fun xs : List α => word xs.length.toUInt64 ++ xs.flatMap f)
      fun xs => FitsWord xs.length ∧ ∀ x ∈ xs, F x := by
  rintro xs ys r s ⟨size, fit⟩ ⟨size', fit'⟩ same
  simp only [List.append_assoc] at same
  obtain ⟨number, rest⟩ := delimited_word _ _ _ _ trivial trivial same
  exact h.items (size.toUInt64_inj size' number) fit fit' rest

/-! ## Policies -/

namespace GradingPolicy

/-- Every length in the policy fits in the eight bytes it is written in. -/
structure Sized (p : GradingPolicy) : Prop where
  graders : FitsWord p.graders.length
  kinds : ∀ g ∈ p.graders, FitsWord g.kind.utf8ByteSize ∧ FitsWord g.shortLabel.utf8ByteSize
  cutoffs : FitsWord p.cutoffs.size
  letters : ∀ e ∈ p.cutoffs.entries, FitsWord e.1.utf8ByteSize

theorem delimited_text : Delimited textBytes fun s => FitsWord s.utf8ByteSize := by
  intro a b r s fit fit' same
  rw [textBytes, textBytes, List.append_assoc, List.append_assoc] at same
  obtain ⟨size, rest⟩ := delimited_word _ _ _ _ trivial trivial same
  have sizes : (utf8 a).length = (utf8 b).length := by
    rw [Text.length_utf8, Text.length_utf8]
    exact fit.toUInt64_inj fit' size
  obtain ⟨texts, rest⟩ := List.append_inj rest sizes
  exact ⟨Text.utf8_inj texts, rest⟩

theorem delimited_double : Delimited doubleBytes fun _ => True := by
  have inj : Function.Injective Double.bits := by
    rintro ⟨bits⟩ ⟨bits'⟩ rfl
    rfl
  have h := delimited_word.comap inj
  exact h

theorem delimited_grader : Delimited graderBytes fun g =>
    FitsWord g.kind.utf8ByteSize ∧ FitsWord g.shortLabel.utf8ByteSize := by
  let fields (g : AssignmentType) := ((((g.kind, g.shortLabel), g.weight), g.minCount), g.dropCount)
  have inj : Function.Injective fields := fun g h same => by
    cases g
    cases h
    cases same
    rfl
  have all := ((((delimited_text.pair delimited_text).pair delimited_double).pair
    delimited_word).pair delimited_word).comap inj
  intro g h r s fit fit' same
  exact all g h r s ⟨⟨⟨fit, trivial⟩, trivial⟩, trivial⟩ ⟨⟨⟨fit', trivial⟩, trivial⟩, trivial⟩ same

theorem delimited_cutoff : Delimited cutoffBytes fun e => FitsWord e.1.utf8ByteSize := by
  intro e e' r s fit fit' same
  exact delimited_text.pair delimited_double e e' r s ⟨fit, trivial⟩ ⟨fit', trivial⟩ same

/-- **Policies that are written alike are the same.** -/
theorem eq_of_bytes_eq {p q : GradingPolicy} (hp : p.Sized) (hq : q.Sized)
    (same : p.bytes = q.bytes) : p = q := by
  have lists := delimited_grader.counted.pair delimited_cutoff.counted
  have split (p : GradingPolicy) : p.bytes = utf8 "grading_policy" ++
      ((word p.graders.length.toUInt64 ++ p.graders.flatMap graderBytes) ++
        (word p.cutoffs.entries.length.toUInt64 ++ p.cutoffs.entries.flatMap cutoffBytes)) := by
    simp only [bytes, Dictionary.size, List.append_assoc]
  rw [split, split] at same
  have rest := congrArg (· ++ []) (List.append_cancel_left same)
  obtain ⟨parts, -⟩ := lists (p.graders, p.cutoffs.entries) (q.graders, q.cutoffs.entries) [] []
    ⟨⟨hp.graders, hp.kinds⟩, hp.cutoffs, hp.letters⟩
    ⟨⟨hq.graders, hq.kinds⟩, hq.cutoffs, hq.letters⟩ rest
  obtain ⟨graders, entries⟩ := Prod.mk.inj parts
  cases p
  cases q
  cases graders
  cases Dictionary.ext entries
  rfl

/-- Policies with one fingerprint are written alike, or are a collision. -/
theorem bytes_eq_or_collision {p q : GradingPolicy} (h : p.hash = q.hash) :
    p.bytes = q.bytes ∨ Digest.Collision p.bytes q.bytes := by
  by_cases same : p.bytes = q.bytes
  · exact .inl same
  · exact .inr ⟨same, digest_eq_of_hash_eq h⟩

/-- The weighted calculation for a learner in a context whose content has this policy: all it
asks, and what it ends in for all that it may be answered. -/
def weighing (p : GradingPolicy) (learner : LearnerId) (c : Context) (x : ContentStructure) :
    Dialogue (Except Failure GradeBreakdown) :=
  (·.1) <$> (Calculator.weighted learner).dialogue
    { c with content? := some { x with gradingPolicy := p } }

/-- **The bytes of a policy determine it**: graders, their order and all of their fields, letters
and cutoffs, doubles by their bits. So two policies that share a fingerprint are one policy,
and every calculation goes alike under both, or else the digest has a collision. -/
theorem bytes_injective {p q : GradingPolicy} (hp : p.Sized) (hq : q.Sized) :
    (p.bytes = q.bytes ↔ p = q) ∧
      (p.hash = q.hash → ¬Digest.Collision p.bytes q.bytes →
        p = q ∧ ∀ learner c x, p.weighing learner c x = q.weighing learner c x) := by
  refine ⟨⟨eq_of_bytes_eq hp hq, congrArg bytes⟩, fun shared unique => ?_⟩
  have written := (bytes_eq_or_collision shared).resolve_right unique
  have same := eq_of_bytes_eq hp hq written
  exact ⟨same, fun learner c x => by rw [same]⟩

namespace Sample

/-- Half of the grade is homework, with these letters. -/
def homework (kind label : String) (letters : List (String × Double)) : GradingPolicy :=
  ⟨[⟨kind, label, ⟨0x3fe0000000000000⟩, 2, 1⟩], .ofList letters⟩

def letters : List (String × Double) := [("A", ⟨0x3feccccccccccccd⟩), ("", ⟨0x8000000000000000⟩)]

/-- A label that looks like a length and a text is told from a longer kind, and letters put
down in another order make no difference. -/
theorem bytes_injective_lookalikes :
    let p := homework "a" "\x00\x00\x00\x00\x00\x00\x00\x01b" letters
    let q := homework "a\x00\x00\x00\x00\x00\x00\x00\x01b" "" letters
    let r := homework "a" "\x00\x00\x00\x00\x00\x00\x00\x01b" letters.reverse
    (p.Sized ∧ q.Sized ∧ r.Sized) ∧ p.bytes ≠ q.bytes ∧
      (p.hash = r.hash ∧ ¬Digest.Collision p.bytes r.bytes) ∧
      ∀ learner c x, p.weighing learner c x = r.weighing learner c x := by
  intro p q r
  have hp : p.Sized := ⟨by decide, by decide, by decide, by decide⟩
  have hq : q.Sized := ⟨by decide, by decide, by decide, by decide⟩
  have hr : r.Sized := ⟨by decide, by decide, by decide, by decide⟩
  have reordered : p = r := by decide
  have unique : ¬Digest.Collision p.bytes r.bytes := fun h => h.1 (congrArg bytes reordered)
  refine ⟨⟨hp, hq, hr⟩, fun same => ?_, ⟨congrArg hash reordered, unique⟩, ?_⟩
  · exact absurd ((bytes_injective hp hq).1.1 same) (by decide)
  · exact ((bytes_injective hp hr).2 (congrArg hash reordered) unique).2

end Sample

end GradingPolicy

end Gradebook
