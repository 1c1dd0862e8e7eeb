/-
# Gradebook.Proofs.EqualPolicies — equal policies, by their numbers and by their bytes

Policies are equal if their fields are, weights and cutoffs as numbers. A fingerprint digests
patterns instead, and what is equal as a number has one pattern, NaN being equal to nothing,
unless it is zero: zero has a sign that a comparison does not see (`Double.Equal.eq_iff`). A
weight or cutoff of negative zero is as valid as one of zero.

So equal policies have one fingerprint if their negative zeros stand at the same places, and
two otherwise (`equal_policies_share_fingerprint`), and to write one zero for the other makes
the grades on record stale.
-/
import Gradebook.Proofs.Freshness
import Gradebook.Proofs.ServedBack
import Gradebook.Proofs.TotalOrder

namespace Gradebook

set_option autoImplicit false

/-! ## Equal doubles -/

namespace Double

open Float.Model (Format)
open Float.Model.UnpackedFloat

/-- Equal as numbers. -/
def Equal (x y : Double) : Prop := (x.value == y.value) = true

instance : DecidableRel Equal := fun x y =>
  inferInstanceAs (Decidable ((x.value == y.value) = true))

def isNegativeZero (x : Double) : Bool := x == ⟨0x8000000000000000⟩

/-- A number has no pattern but its own. -/
theorem ofFloat_value {x : Double} (number : x.isNaN = false) : ofFloat x.value = x := by
  have some : unpack Format.binary64 x.bits.toBitVec ≠ .notANumber := by
    rw [← unpack_value]
    exact Decimal.isNaN_eq_false.1 number
  have valid : Format.binary64.Valid x.bits.toBitVec := by
    constructor
    intro full given
    rw [Decimal.unpack_fields, if_pos full, if_neg given] at some
    exact absurd rfl some
  have same : x.value.toBits.toBitVec = x.bits.toBitVec := pack_unpack_of_valid valid
  exact congrArg Double.mk (UInt64.toBitVec_inj.1 same)

/-- **Equal numbers have one pattern, or are the two zeros.** -/
theorem Equal.eq_iff {x y : Double} (h : Equal x y) :
    x = y ↔ x.isNegativeZero = y.isNegativeZero := by
  obtain ⟨left, right, cases⟩ := Float.beq_iff_ne_nan_and_eq.1 h
  have number {z : Double} (some : z.value ≠ Float.nan) : z.isNaN = false := by
    rw [isNaN, Float.isNaN_eq_decide_eq_nan, decide_eq_false some]
  rw [← ofFloat_value (number left), ← ofFloat_value (number right)]
  rcases cases with same | ⟨plain, negative⟩ | ⟨negative, plain⟩
  · rw [same]
    exact ⟨fun _ => rfl, fun _ => rfl⟩
  · rw [plain, negative]
    decide +kernel
  · rw [plain, negative]
    decide +kernel

end Double

/-! ## Equal policies -/

/-- Equal field by field, the weights as numbers. -/
structure AssignmentType.Equal (g h : AssignmentType) : Prop where
  kind : g.kind = h.kind
  shortLabel : g.shortLabel = h.shortLabel
  weight : g.weight.Equal h.weight
  minCount : g.minCount = h.minCount
  dropCount : g.dropCount = h.dropCount

namespace GradingPolicy

/-- Equal field by field, weights and cutoffs as numbers. -/
structure Equal (p q : GradingPolicy) : Prop where
  graders : List.Forall₂ AssignmentType.Equal p.graders q.graders
  cutoffs : List.Forall₂ (fun e f => e.1 = f.1 ∧ e.2.Equal f.2) p.cutoffs.entries q.cutoffs.entries

/-- Negative zeros stand at the same places. -/
structure SameZeros (p q : GradingPolicy) : Prop where
  weights : (p.graders.map fun g => g.weight.isNegativeZero) =
    q.graders.map fun g => g.weight.isNegativeZero
  cutoffs : (p.cutoffs.entries.map fun e => e.2.isNegativeZero) =
    q.cutoffs.entries.map fun e => e.2.isNegativeZero

theorem exists_of_forall₂ {α : Type} {R : α → α → Prop} {as bs : List α}
    (related : List.Forall₂ R as bs) : ∀ b ∈ bs, ∃ a ∈ as, R a b := by
  induction related with
  | nil => exact fun _ none => absurd none List.not_mem_nil
  | @cons a b as bs first rest ih =>
    intro c inside
    rcases List.mem_cons.1 inside with rfl | inside
    · exact ⟨a, List.mem_cons_self, first⟩
    · obtain ⟨d, among, related⟩ := ih c inside
      exact ⟨d, List.mem_cons_of_mem a among, related⟩

/-- Where a mark tells related items apart, marks tell related lists apart. -/
theorem eq_iff_of_marks {α : Type} {R : α → α → Prop} {mark : α → Bool}
    (told : ∀ a b, R a b → (a = b ↔ mark a = mark b)) {as bs : List α}
    (related : List.Forall₂ R as bs) : as = bs ↔ as.map mark = bs.map mark := by
  induction related with
  | nil => exact ⟨fun _ => rfl, fun _ => rfl⟩
  | cons first rest ih => rw [List.map_cons, List.map_cons, List.cons.injEq, List.cons.injEq,
      told _ _ first, ih]

theorem grader_eq_iff {g h : AssignmentType} (equal : g.Equal h) :
    g = h ↔ g.weight.isNegativeZero = h.weight.isNegativeZero := by
  rw [← equal.weight.eq_iff]
  constructor
  · intro same
    rw [same]
  · intro weight
    obtain ⟨kind, shortLabel, -, minCount, dropCount⟩ := equal
    cases g
    cases h
    simp_all

theorem cutoff_eq_iff {e f : String × Double} (equal : e.1 = f.1 ∧ e.2.Equal f.2) :
    e = f ↔ e.2.isNegativeZero = f.2.isNegativeZero := by
  rw [← equal.2.eq_iff]
  exact ⟨fun same => congrArg Prod.snd same, fun cutoff => Prod.ext equal.1 cutoff⟩

/-- **Equal policies are the same, zeros aside.** -/
theorem Equal.eq_iff {p q : GradingPolicy} (equal : p.Equal q) : p = q ↔ p.SameZeros q := by
  have graders := eq_iff_of_marks (fun _ _ => grader_eq_iff) equal.graders
  have cutoffs := eq_iff_of_marks (fun _ _ => cutoff_eq_iff) equal.cutoffs
  constructor
  · rintro rfl
    exact ⟨rfl, rfl⟩
  · intro zeros
    have first := graders.2 zeros.weights
    have second := Dictionary.ext (cutoffs.2 zeros.cutoffs)
    cases p
    cases q
    simp_all

theorem Equal.sized {p q : GradingPolicy} (equal : p.Equal q) (h : p.Sized) : q.Sized := by
  constructor
  · rw [← equal.graders.length_eq]
    exact h.graders
  · intro g' inside
    obtain ⟨g, among, same⟩ := exists_of_forall₂ equal.graders g' inside
    rw [← same.kind, ← same.shortLabel]
    exact h.kinds g among
  · rw [Dictionary.size, ← equal.cutoffs.length_eq]
    exact h.cutoffs
  · intro e' inside
    obtain ⟨e, among, same, -⟩ := exists_of_forall₂ equal.cutoffs e' inside
    rw [← same]
    exact h.letters e among

end GradingPolicy

namespace Session

/-- **Equal policies have one fingerprint exactly if their negative zeros stand at the same
places**, collisions of the digest aside. Of a grade kept under the one, and content with the
other at hand, a create serves the grade if they have, and never if they have not. -/
theorem equal_policies_share_fingerprint {p q : GradingPolicy} (equal : p.Equal q) :
    (p.SameZeros q → p.hash = q.hash) ∧
    (p.Sized → ¬Digest.Collision p.bytes q.bytes → p.hash = q.hash → p.SameZeros q) ∧
    ∀ (s : Session) (learner : Learner) (i : CourseInputs) (c : Context) (row : StoredGrade)
      (x : ContentStructure), Context.ofInputs (some learner.id) i = .ok c →
      s.engine.flags.persists c.key = true →
      (s.world.findRow learner.id c.key).1 = .ok (some row) → row.policyHash = p.hash →
      s.world.contentOf c = .ok x → x.gradingPolicy = q →
      (p.hash = q.hash → (s.step (.create learner i)).1 = .grade (.ok (.ofStored row))) ∧
      (p.hash ≠ q.hash → s.engine.calculator = .weighted →
        ∀ g, (s.step (.create learner i)).1.grade? = some g → g.source ≠ .stored) := by
  refine ⟨fun zeros => ?_, fun sized unique shared => ?_, ?_⟩
  · exact congrArg GradingPolicy.hash (equal.eq_iff.2 zeros)
  · have written := (GradingPolicy.bytes_eq_or_collision shared).resolve_right unique
    exact equal.eq_iff.1 (GradingPolicy.eq_of_bytes_eq sized (equal.sized sized) written)
  · rintro s learner i c row x opened persists found stamped content rfl
    have hashed := hashOf_opened opened content
    constructor
    · intro shared
      exact step_create opened persists found (hashed.trans (by rw [stamped, shared]))
    · intro differ weighted g answered stored
      obtain ⟨learner', c', row', resolving, found', current, -⟩ :=
        served_of_stored weighted answered stored
      have here : s.resolving? (.create learner i) = some (learner, .createIfStale, c) := by
        rw [resolving?, opened]
        rfl
      obtain ⟨rfl, -, rfl⟩ : learner = learner' ∧ _ ∧ c = c' := by
        simpa only [here, Option.some.injEq, Prod.mk.injEq] using resolving
      obtain rfl : row = row' := Option.some.inj (Except.ok.inj (found.symm.trans found'))
      exact differ (stamped.symm.trans (Except.ok.inj (current.symm.trans hashed)))

/-- The small course with a weight of nothing, written as a zero of this pattern. -/
def weightless (bits : UInt64) : CourseDefinition :=
  { Sample.course (some "v1") [] with
    gradingPolicy := { Sample.homework with
      graders := [⟨"Homework", "HW", ⟨bits⟩, 0, 0⟩] } }

theorem weightless_equal (bits : UInt64) (zero : Double.Equal ⟨0⟩ ⟨bits⟩) :
    (weightless 0).gradingPolicy.Equal (weightless bits).gradingPolicy :=
  ⟨.cons ⟨rfl, rfl, zero, rfl, rfl⟩ .nil, .cons ⟨rfl, by decide +kernel⟩ .nil⟩

theorem weightless_differ : (weightless 0).gradingPolicy.hash ≠
    (weightless 0x8000000000000000).gradingPolicy.hash := by
  decide +kernel

/-- A grade on record under a weight of zero is served under just that weight, and not
under negative zero. -/
theorem equal_policies_share_fingerprint_weightless :
    let plain := weightless 0
    let negative := weightless 0x8000000000000000
    let row : StoredGrade := ⟨⟨1⟩, Sample.key, some "v1", none, plain.gradingPolicy.hash, 0.0,
      "", none, false, default, default⟩
    let onRecord (d : CourseDefinition) : Session := { engine := Sample.engine, world :=
      { Sample.world d with rows := .memory [((⟨1⟩, Sample.key), row)] } }
    let create : Step := .create Sample.learner (.ofKey Sample.key)
    plain.gradingPolicy.Equal negative.gradingPolicy ∧
      ((onRecord plain).step create).1 = .grade (.ok (.ofStored row)) ∧
      ∀ g, ((onRecord negative).step create).1.grade? = some g → g.source ≠ .stored := by
  intro plain negative row onRecord create
  let i := CourseInputs.ofKey Sample.key
  let c : Context := ⟨some Sample.learner.id, Sample.key, none, none, none⟩
  have opened : Context.ofInputs (some Sample.learner.id) i = .ok c := rfl
  have persists (d : CourseDefinition) : (onRecord d).engine.flags.persists c.key = true := rfl
  have found (d : CourseDefinition) :
      ((onRecord d).world.findRow Sample.learner.id c.key).1 = .ok (some row) := rfl
  have same := weightless_equal 0 (by decide +kernel)
  have equal := weightless_equal 0x8000000000000000 (by decide +kernel)
  refine ⟨equal, ?_, ?_⟩
  · obtain ⟨shared, -, sessions⟩ := equal_policies_share_fingerprint same
    exact (sessions (onRecord plain) Sample.learner i c row plain.content opened
      (persists plain) (found plain) rfl rfl rfl).1 (shared ⟨rfl, rfl⟩)
  · obtain ⟨-, -, sessions⟩ := equal_policies_share_fingerprint equal
    exact (sessions (onRecord negative) Sample.learner i c row negative.content opened
      (persists negative) (found negative) rfl rfl rfl).2 weightless_differ rfl

/-- **The sign of a zero is no difference between policies, and one between fingerprints.** Both
policies are valid and equal, and writing one for the other makes the grade on record stale. -/
theorem negative_zero_makes_grades_stale :
    let plain := weightless 0
    let negative := weightless 0x8000000000000000
    let create : Step := .create Sample.learner (.ofKey Sample.key)
    let kept := ((sample plain).step (.update Sample.learner (.ofKey Sample.key))).2
    plain.gradingPolicy.validate.toOption = some () ∧
      negative.gradingPolicy.validate.toOption = some () ∧
      plain.gradingPolicy.Equal negative.gradingPolicy ∧
      plain.gradingPolicy.hash ≠ negative.gradingPolicy.hash ∧
      ([plain, negative].map fun d => ((kept.step (.define d)).2.step create).1.grade?.map
        (·.source)) = [some .stored, some (.computed true)] := by
  intro plain negative create kept
  refine ⟨?_, ?_, weightless_equal _ ?_, weightless_differ, ?_⟩ <;> decide +kernel

end Session

end Gradebook
