/-
# Gradebook.Proofs.Upserting — the exchanges of one resolution

A resolution goes up to a decision (`reach`): a grade to answer, or a breakdown. From there
it concludes (`settle`). What it exchanges is then of one of three kinds (`Exchanged`):

  hidden   nothing was written and nobody told: a grade answered or a failure
  told     a breakdown was computed, not kept, and announced
  kept     a breakdown was computed, its row written, and then announced

`Prepared` is all that lies before the one row written: it was made of one breakdown, one
reading of the clock, one row found before that reading, and the context of this resolution,
which these exchanges filled.
-/
import Gradebook.Proofs.Failing
import Gradebook.Proofs.Grading
import Gradebook.Proofs.Recording

namespace Gradebook

set_option autoImplicit false

open Lookup (Within Tries crashes within_pure within_bind within_map within_ask within_get
  within_log)

/-! ## Up to a decision, and from there -/

namespace Request

/-- What it takes to record a row. -/
def records : Request → Prop
  | .findRow _ _ | .clock => True
  | r => r.structural

theorem records_of_structural {r : Request} (h : r.structural) : r.records := by
  cases r <;> first | exact h | trivial

theorem discreet_of_records {r : Request} (h : r.records) : r.discreet := by
  cases r <;> first | exact h.elim | trivial

theorem spares_of_records {r : Request} (h : r.records) : r.spares := by
  cases r <;> first | exact h | trivial

end Request

namespace GradeEngine

/-- How far a resolution comes before it concludes. -/
inductive Reached where
  | answered (g : ResolvedGrade)
  | computed (readOnly : Bool) (known : Option StoredGrade) (b : GradeBreakdown)

def compute (e : GradeEngine) (learner : Learner) (readOnly : Bool)
    (known : Option StoredGrade) : Lookup Reached := do
  Lookup.ask (.computing learner.id)
  Reached.computed readOnly known <$> e.calculator learner.id

def reachStored (e : GradeEngine) (learner : Learner) (row : StoredGrade) : Lookup Reached := do
  if row.policyHash = (← Context.policyHash) then pure (.answered (.ofStored row))
  else e.compute learner false (some row)

def reachAbsent (e : GradeEngine) (learner : Learner) : Lookup Reached := do
  if e.flags.assumesZero (← get).key then .answered <$> createZero learner
  else e.compute learner true none

/-- A resolution up to its decision. -/
def reach (e : GradeEngine) (learner : Learner) : Strategy → Lookup Reached
  | .forceUpdate => e.compute learner false none
  | .createIfStale => do
    match ← e.readStored learner with
    | some row => e.reachStored learner row
    | none => e.reachAbsent learner

/-- A resolution from its decision on. -/
def settle (e : GradeEngine) (learner : Learner) : Reached → Lookup ResolvedGrade
  | .answered g => pure g
  | .computed readOnly known b => e.conclude learner readOnly known b

theorem compute_settle (e : GradeEngine) (learner : Learner) (readOnly : Bool)
    (known : Option StoredGrade) :
    e.compute learner readOnly known >>= e.settle learner = e.recompute learner readOnly known := by
  refine (bind_assoc _ _ _).trans (congrArg (_ >>= ·) (funext fun _ => ?_))
  exact bind_map_left _ _ _

theorem reachStored_settle (e : GradeEngine) (learner : Learner) (row : StoredGrade) :
    e.reachStored learner row >>= e.settle learner = e.createStored learner row := by
  simp only [reachStored, createStored, bind_assoc]
  congr 1
  funext hash
  split
  · exact pure_bind _ _
  · exact e.compute_settle learner false (some row)

theorem reachAbsent_settle (e : GradeEngine) (learner : Learner) :
    e.reachAbsent learner >>= e.settle learner = e.createAbsent learner := by
  simp only [reachAbsent, createAbsent, bind_assoc]
  congr 1
  funext c
  split
  · rw [bind_map_left]
    exact bind_pure _
  · exact e.compute_settle learner true none

/-- **A resolution goes up to its decision and concludes.** -/
theorem reach_settle (e : GradeEngine) (learner : Learner) (s : Strategy) :
    e.reach learner s >>= e.settle learner = e.resolveHere learner s := by
  cases s with
  | forceUpdate => exact e.compute_settle learner false none
  | createIfStale =>
    simp only [reach, resolveHere, createHere, bind_assoc]
    congr 1
    funext found
    cases found with
    | some row => exact e.reachStored_settle learner row
    | none => exact e.reachAbsent_settle learner

variable {e : GradeEngine} {learner : Learner} {s : Strategy} {c c' : Context}
  {xs : List Exchange}

/-! ### What comes before the decision -/

theorem within_rowOf {kinds : Request → Prop} {learner : LearnerId} {key : CourseKey}
    (h : kinds (.findRow learner key)) : Within kinds (rowOf learner key) := by
  refine within_bind (within_ask h) fun found => ?_
  cases found with
  | ok row => exact within_pure _
  | error x => exact Lookup.within_throw _

section Kinds

variable {kinds : Request → Prop} (structural : ∀ r, r.structural → kinds r)
include structural

theorem within_readStored (rows : ∀ learner key, kinds (.findRow learner key)) (e : GradeEngine)
    (learner : Learner) : Within kinds (e.readStored learner) := by
  refine within_bind within_get fun c => ?_
  split
  · exact within_pure _
  · refine within_bind (within_rowOf (rows _ _)) fun found => ?_
    cases found with
    | none => exact within_pure _
    | some row =>
      exact within_bind (within_log _ _ _ _ fun _ => structural _ trivial) fun _ => within_pure _

theorem within_createZero (learner : Learner) : Within kinds (createZero learner) :=
  within_bind within_get fun _ =>
    within_bind (within_log _ _ _ _ fun _ => structural _ trivial) fun _ => within_pure _

/-- Up to its decision a resolution asks for a row and for the content, and turns to the
calculator. -/
theorem within_reach (rows : ∀ learner key, kinds (.findRow learner key))
    (computing : ∀ learner, kinds (.computing learner)) {e : GradeEngine} {learner : Learner}
    (calculates : Within kinds (e.calculator learner.id)) (s : Strategy) :
    Within kinds (e.reach learner s) := by
  have computes (readOnly : Bool) (known : Option StoredGrade) :
      Within kinds (e.compute learner readOnly known) :=
    within_bind (within_ask (computing _)) fun _ => within_map _ calculates
  cases s with
  | forceUpdate => exact computes false none
  | createIfStale =>
    refine within_bind (within_readStored structural rows e learner) fun found => ?_
    cases found with
    | some row =>
      refine within_bind (Context.structural_policyHash.mono structural) fun hash => ?_
      split
      · exact within_pure _
      · exact computes false (some row)
    | none =>
      refine within_bind within_get fun c => ?_
      split
      · exact within_map _ (within_createZero structural learner)
      · exact computes true none

end Kinds

theorem gathers_reach (e : GradeEngine) (learner : Learner) (s : Strategy) :
    Within Request.gathers (e.reach learner s) :=
  within_reach (fun _ => Request.gathers_of_structural) (fun _ _ => trivial) (fun _ => trivial)
    ((e.calculator.consults learner.id).mono fun _ => Request.gathers_of_consults) s

/-- A resolution asks for what it gathers, and for what follows a computation. -/
theorem within_resolveHere {kinds : Request → Prop} (gathers : ∀ r, r.gathers → kinds r)
    (concludes : ∀ r, r.concludes → kinds r) (e : GradeEngine) (learner : Learner) (s : Strategy) :
    Within kinds (e.resolveHere learner s) := by
  rw [← reach_settle]
  refine within_bind ((gathers_reach e learner s).mono gathers) fun reached => ?_
  cases reached with
  | answered g => exact within_pure g
  | computed readOnly known b => exact (within_conclude e learner readOnly known b).mono concludes

theorem goes_rowOf {learner : LearnerId} {key : CourseKey} {found : Option StoredGrade}
    (h : (rowOf learner key).Goes c xs (.ok found) c') :
    xs = [⟨.findRow learner key, .ok found⟩] ∧ c' = c := by
  obtain ⟨_, _, reply, c₁, rfl, asked, replied⟩ := Lookup.goes_bind_ok h
  obtain ⟨reply, rfl, same, rfl⟩ := Lookup.goes_ask asked
  cases same
  cases reply with
  | error x => cases (Dialogue.goes_done.1 replied).2
  | ok row =>
    obtain ⟨rfl, same, rfl⟩ := Lookup.goes_pure replied
    cases same
    exact ⟨rfl, rfl⟩

/-- A row that is read is one the store replied. -/
theorem goes_readStored {row : StoredGrade}
    (h : (e.readStored learner).Goes c xs (.ok (some row)) c') :
    ⟨.findRow learner.id c.key, .ok (some row)⟩ ∈ xs := by
  obtain ⟨_, _, here, c₁, rfl, got, read⟩ := Lookup.goes_bind_ok h
  obtain ⟨rfl, same, rfl⟩ := Lookup.goes_get got
  cases same
  split at read
  · cases (Lookup.goes_pure read).2.1
  · obtain ⟨_, _, found, c₂, rfl, looked, served⟩ := Lookup.goes_bind_ok read
    obtain ⟨rfl, rfl⟩ := goes_rowOf looked
    cases found with
    | none => cases (Lookup.goes_pure served).2.1
    | some found =>
      obtain ⟨_, _, _, c₃, rfl, -, answered⟩ := Lookup.goes_bind_ok served
      cases (Lookup.goes_pure answered).2.1
      exact List.mem_cons_self

/-- What a decision rests on: a grade that was not computed now, or a breakdown the calculator
came to, for a row that the store replied, if for any. -/
def Reached.Rests (e : GradeEngine) (learner : Learner) (key : CourseKey) (xs : List Exchange)
    (c' : Context) : Reached → Prop
  | .answered g => ∀ kept, g.source ≠ .computed kept
  | .computed _ known b =>
    (∀ row, known = some row → ⟨.findRow learner.id key, .ok (some row)⟩ ∈ xs) ∧
    ∃ before during c₀, xs = before ++ ⟨.computing learner.id, ()⟩ :: during ∧
      (e.calculator learner.id).Goes c₀ during (.ok b) c'

theorem Reached.Rests.after {r : Reached} {key : CourseKey} {ys : List Exchange}
    (h : r.Rests e learner key xs c') : r.Rests e learner key (ys ++ xs) c' := by
  cases r with
  | answered g => exact h
  | computed readOnly known b =>
    obtain ⟨found, before, during, c₀, rfl, computes⟩ := h
    refine ⟨fun row same => List.mem_append_right _ (found row same), ys ++ before, during, c₀, ?_,
      computes⟩
    rw [List.append_assoc]

theorem goes_compute {readOnly : Bool} {known : Option StoredGrade} {r : Reached}
    (h : (e.compute learner readOnly known).Goes c xs (.ok r) c') :
    ∃ b during, xs = ⟨.computing learner.id, ()⟩ :: during ∧ r = .computed readOnly known b ∧
      (e.calculator learner.id).Goes c during (.ok b) c' := by
  obtain ⟨_, during, begun, c₁, rfl, asked, computed⟩ := Lookup.goes_bind_ok h
  obtain ⟨begun, rfl, -, rfl⟩ := Lookup.goes_ask asked
  obtain ⟨b, rfl, computes⟩ := Lookup.goes_map_ok computed
  exact ⟨b, during, rfl, rfl, computes⟩

theorem source_createZero {g : ResolvedGrade} (h : (createZero learner).Goes c xs (.ok g) c')
    (kept : Bool) : g.source ≠ .computed kept := by
  obtain ⟨_, _, here, c₁, rfl, got, zero⟩ := Lookup.goes_bind_ok h
  obtain ⟨_, _, _, c₂, rfl, -, answered⟩ := Lookup.goes_bind_ok zero
  cases (Lookup.goes_pure answered).2.1
  exact GradeSource.noConfusion

/-- **What a resolution goes by**, from the stored row to the breakdown. -/
theorem goes_reach {r : Reached} (h : (e.reach learner s).Goes c xs (.ok r) c') :
    r.Rests e learner c.key xs c' := by
  have computed {readOnly : Bool} {known : Option StoredGrade} {c₁ : Context}
      (before : List Exchange) {xs : List Exchange}
      (found : ∀ row, known = some row → ⟨.findRow learner.id c.key, .ok (some row)⟩ ∈ before)
      (h : (e.compute learner readOnly known).Goes c₁ xs (.ok r) c') :
      r.Rests e learner c.key (before ++ xs) c' := by
    obtain ⟨b, during, rfl, rfl, computes⟩ := goes_compute h
    exact ⟨fun row same => List.mem_append_left _ (found row same), before, during, c₁, rfl,
      computes⟩
  cases s with
  | forceUpdate => exact computed [] (fun row same => by cases same) h
  | createIfStale =>
    obtain ⟨ys, zs, found, c₁, rfl, read, decided⟩ := Lookup.goes_bind_ok h
    cases found with
    | some row =>
      obtain ⟨us, vs, hash, c₂, rfl, -, decided⟩ := Lookup.goes_bind_ok decided
      split at decided
      · cases (Lookup.goes_pure decided).2.1
        exact fun kept => GradeSource.noConfusion
      · rw [← List.append_assoc]
        refine computed _ (fun row same => ?_) decided
        cases same
        exact List.mem_append_left _ (goes_readStored read)
    | none =>
      obtain ⟨us, vs, here, c₂, rfl, -, decided⟩ := Lookup.goes_bind_ok decided
      split at decided
      · obtain ⟨g, rfl, zero⟩ := Lookup.goes_map_ok decided
        exact source_createZero zero
      · rw [← List.append_assoc]
        exact computed _ (fun row same => by cases same) decided

/-- In these exchanges a resolution has decided on a breakdown. -/
def Decides (e : GradeEngine) (learner : Learner) (s : Strategy) (c : Context)
    (xs : List Exchange) (b : GradeBreakdown) : Prop :=
  ∃ ys zs readOnly known c', xs = ys ++ zs ∧
    (e.reach learner s).Goes c ys (.ok (.computed readOnly known b)) c'

section Decides

variable {b b' : GradeBreakdown}

theorem Decides.append (h : e.Decides learner s c xs b) (ys : List Exchange) :
    e.Decides learner s c (xs ++ ys) b := by
  obtain ⟨us, vs, readOnly, known, c', rfl, reached⟩ := h
  exact ⟨us, vs ++ ys, readOnly, known, c', List.append_assoc .., reached⟩

/-- The exchanges leave no choice of the breakdown. -/
theorem Decides.unique (h : e.Decides learner s c xs b) (h' : e.Decides learner s c xs b') :
    b = b' := by
  obtain ⟨us, vs, readOnly, known, c₁, rfl, reached⟩ := h
  obtain ⟨us', vs', readOnly', known', c₁', same, reached'⟩ := h'
  obtain ⟨-, -, pair⟩ := Dialogue.Goes.ends_once reached reached' same
  cases pair
  rfl

/-- It is what the calculator came to for the learner, after the resolution turned to it. -/
theorem Decides.calculated (h : e.Decides learner s c xs b) :
    ∃ before during after c₀ c', xs = before ++ ⟨.computing learner.id, ()⟩ :: during ++ after ∧
      (e.calculator learner.id).Goes c₀ during (.ok b) c' := by
  obtain ⟨us, vs, readOnly, known, c', rfl, reached⟩ := h
  obtain ⟨-, before, during, c₀, rfl, calculated⟩ := goes_reach reached
  exact ⟨before, during, vs, c₀, c', rfl, calculated⟩

end Decides

/-! ### The row -/

/-- The row to be written for a breakdown. -/
def recordOver (learner : Learner) (known : Option StoredGrade) (b : GradeBreakdown) :
    Lookup StoredGrade := do
  let c ← get
  let previous ← match known with
    | some row => pure (some row)
    | none => rowOf learner.id c.key
  let now ← Lookup.ask .clock
  StoredGrade.record learner.id b previous now

theorem recordOver_write (learner : Learner) (known : Option StoredGrade) (b : GradeBreakdown) :
    recordOver learner known b >>= write = keep learner known b := by
  cases known <;> simp only [recordOver, keep, bind_assoc]

theorem within_recordOver (learner : Learner) (known : Option StoredGrade) (b : GradeBreakdown) :
    Within Request.records (recordOver learner known b) := by
  refine within_bind within_get fun c => ?_
  have rest (previous : Option StoredGrade) : Within Request.records (do
      let now ← Lookup.ask .clock
      StoredGrade.record learner.id b previous now) :=
    within_bind (within_ask trivial) fun now =>
      (StoredGrade.structural_record learner.id b previous now).mono fun _ =>
        Request.records_of_structural
  cases known with
  | some row => exact rest (some row)
  | none => exact within_bind (within_rowOf trivial) rest

/-- A row is recorded over the one known, or over what the store replied before the clock was
read. -/
theorem goes_recordOver {known : Option StoredGrade} {b : GradeBreakdown} {row : StoredGrade}
    (h : (recordOver learner known b).Goes c xs (.ok row) c') :
    ∃ previous now before after, xs = before ++ ⟨.clock, now⟩ :: after ∧
      (∀ x ∈ before, x.1.gathers) ∧ (∀ x ∈ after, x.1.gathers) ∧
      (known = none → ⟨.findRow learner.id c.key, .ok previous⟩ ∈ before) ∧
      (∀ row, known = some row → previous = some row) ∧
      row.Records learner.id b previous now c' := by
  obtain ⟨_, _, here, c₁, rfl, got, recording⟩ := Lookup.goes_bind_ok h
  obtain ⟨rfl, same, rfl⟩ := Lookup.goes_get got
  cases same
  have rest {previous : Option StoredGrade} {ys : List Exchange} {c₂ : Context}
      (h : Lookup.Goes (do
        let now ← Lookup.ask .clock
        StoredGrade.record learner.id b previous now) c₂ ys (.ok row) c') :
      ∃ now after, ys = ⟨.clock, now⟩ :: after ∧ (∀ x ∈ after, x.1.gathers) ∧
        row.Records learner.id b previous now c' := by
    obtain ⟨_, after, now, c₃, rfl, asked, recorded⟩ := Lookup.goes_bind_ok h
    obtain ⟨now, rfl, same, rfl⟩ := Lookup.goes_ask asked
    cases same
    have looks := ((StoredGrade.within_record _ _ _ _).goes recorded).1
    exact ⟨now, after, rfl, fun x member => Request.gathers_of_looks (looks x member),
      StoredGrade.goes_record recorded⟩
  cases known with
  | some known =>
    obtain ⟨now, after, rfl, gathers, records⟩ := rest recording
    exact ⟨some known, now, [], after, rfl, fun _ member => (nomatch member), gathers,
      fun absent => (nomatch absent), fun _ same => same, records⟩
  | none =>
    obtain ⟨ys, zs, previous, c₂, rfl, looked, timed⟩ := Lookup.goes_bind_ok recording
    obtain ⟨rfl, rfl⟩ := goes_rowOf looked
    obtain ⟨now, after, rfl, gathers, records⟩ := rest timed
    exact ⟨previous, now, _, after, rfl, ((within_rowOf trivial).goes looked).1, gathers,
      fun _ => List.mem_singleton_self _, fun _ absent => (nomatch absent), records⟩

/-- **All that lies before a row is written.** -/
structure Prepared (e : GradeEngine) (learner : Learner) (s : Strategy) (c : Context)
    (xs : List Exchange) (b : GradeBreakdown) (previous : Option StoredGrade) (now : Instant)
    (row : StoredGrade) (c' : Context) : Prop where
  /-- The resolution came to its decision, in a context with the descriptor of this one. -/
  reached : ∃ ys zs readOnly known c₁, xs = ys ++ zs ∧
    (e.reach learner s).Goes c ys (.ok (.computed readOnly known b)) c₁ ∧
    e.keeps c.key readOnly b = true ∧ c'.course? = c₁.course?
  /-- The row to write over was replied before the clock was read, and nothing else shows. -/
  replied : ∃ before after, xs = before ++ ⟨.clock, now⟩ :: after ∧
    (∀ x ∈ before, x.1.gathers) ∧ (∀ x ∈ after, x.1.gathers) ∧
    ⟨.findRow learner.id c.key, .ok previous⟩ ∈ before
  filled : c.FilledBy xs c'
  records : row.Records learner.id b previous now c'

theorem prepared {ys zs : List Exchange} {readOnly : Bool} {known : Option StoredGrade}
    {b : GradeBreakdown} {row : StoredGrade} {c₁ : Context}
    (reached : (e.reach learner s).Goes c ys (.ok (.computed readOnly known b)) c₁)
    (keeps : e.keeps c.key readOnly b = true)
    (recorded : (recordOver learner known b).Goes c₁ zs (.ok row) c') :
    ∃ previous now, Prepared e learner s c (ys ++ zs) b previous now row c' := by
  obtain ⟨gathers, filled⟩ := (gathers_reach e learner s).goes reached
  have recording := within_recordOver learner known b
  have filled' := (recording.goes recorded).2
  have described := (recording.mono fun _ => Request.spares_of_records).course?_eq recorded
  obtain ⟨found, -⟩ := goes_reach reached
  obtain ⟨previous, now, before, after, rfl, early, late, fetched, given, records⟩ :=
    goes_recordOver recorded
  refine ⟨previous, now, ⟨ys, _, readOnly, known, c₁, rfl, reached, keeps, described⟩,
    ⟨ys ++ before, after, (List.append_assoc ..).symm, ?_, late, ?_⟩, filled.trans filled', records⟩
  · exact fun x member => (List.mem_append.1 member).elim (gathers x) (early x)
  · cases known with
    | some row =>
      cases given row rfl
      exact List.mem_append_left _ (found row rfl)
    | none => exact List.mem_append_right _ (filled.key ▸ fetched rfl)

section Prepared

variable {b : GradeBreakdown} {previous : Option StoredGrade} {now : Instant} {row : StoredGrade}

theorem Prepared.decides (h : Prepared e learner s c xs b previous now row c') :
    e.Decides learner s c xs b := by
  obtain ⟨ys, zs, readOnly, known, c₁, rfl, reached, -⟩ := h.reached
  exact ⟨ys, zs, readOnly, known, c₁, rfl, reached⟩

theorem Prepared.hidden (h : Prepared e learner s c xs b previous now row c') :
    ∀ x ∈ xs, x.Hidden := by
  obtain ⟨before, after, rfl, early, late, -⟩ := h.replied
  intro x member
  rcases List.mem_append.1 member with first | second
  · exact hidden_of_gathers early x first
  · rcases List.mem_cons.1 second with rfl | second
    · exact Request.not_shows (show Request.discreet .clock from trivial) now
    · exact hidden_of_gathers late x second

theorem Prepared.readings (h : Prepared e learner s c xs b previous now row c') :
    readings xs = [now] := by
  obtain ⟨before, after, rfl, early, late, -⟩ := h.replied
  rw [readings_append, readings_gathers early, ← List.singleton_append, readings_append,
    readings_gathers late]
  rfl

end Prepared

/-! ### The notices -/

/-- What is seen of an announcement. -/
def announcement (e : GradeEngine) (learner : Learner) (g : ResolvedGrade)
    (deadline : Option Instant) : List Sight :=
  e.listeners.map (.told · (.changed learner g g.courseKey deadline)) ++
    if g.passed then e.listeners.map (.told · (.nowPassed learner g.courseKey)) else []

theorem goes_tell {notice : Notice} {report : DispatchReport} {listener : Listener}
    {o : Except Failure DispatchReport} (h : (tell notice report listener).Goes c xs o c') :
    sights xs = [.told listener notice] ∧ ∃ r, o = .ok r := by
  rw [tell, Lookup.Goes] at h
  simp only [Lookup.dialogue_bind, Lookup.dialogue_ask, Dialogue.ask_bind, Dialogue.done_bind] at h
  obtain ⟨delivery, ys, rfl, rest⟩ := Dialogue.goes_ask.1 h
  cases failed : Delivery.failure? delivery with
  | none =>
    rw [failed] at rest
    obtain ⟨rfl, same⟩ := Dialogue.goes_done.1 rest
    cases same
    exact ⟨rfl, _, rfl⟩
  | some text =>
    rw [failed] at rest
    obtain ⟨_, zs, rfl, logged⟩ := Dialogue.goes_ask.1 rest
    obtain ⟨rfl, same⟩ := Dialogue.goes_done.1 logged
    cases same
    exact ⟨rfl, _, rfl⟩

/-- Every listener is told once, in order, however the others take it. -/
theorem goes_dispatch {notice : Notice} {o : Except Failure DispatchReport}
    (h : (e.dispatch notice).Goes c xs o c') :
    sights xs = e.listeners.map (.told · notice) := by
  unfold dispatch at h
  generalize ({} : DispatchReport) = report at h
  generalize e.listeners = listeners at h ⊢
  induction listeners generalizing report c xs with
  | nil =>
    obtain ⟨rfl, -, -⟩ := Lookup.goes_pure h
    rfl
  | cons listener rest ih =>
    rw [List.foldlM_cons] at h
    rcases Lookup.goes_bind h with ⟨ys, zs, r, c₁, rfl, first, others⟩ | ⟨f, -, first⟩
    · rw [sights_append, (goes_tell first).1, ih _ others]
      rfl
    · cases (goes_tell first).2.choose_spec

theorem sights_looks (h : ∀ x ∈ xs, x.1.looks) : sights xs = [] :=
  sights_hidden (hidden_of_looks h)

/-- **A grade announced is told to every listener**: first that it changed, then, if it passes,
that the course is now passed. -/
theorem goes_announce_ok {key : CourseKey} {b : GradeBreakdown} {kept : Bool} {g : ResolvedGrade}
    (h : (e.announce learner key b kept).Goes c xs (.ok g) c') :
    g = .ofBreakdown learner.id key b kept ∧
      ∃ deadline, sights xs = e.announcement learner g deadline := by
  obtain ⟨as, _, course, c₁, rfl, described, h⟩ := Lookup.goes_bind_ok h
  obtain ⟨ds, rest, _, c₂, rfl, changed, h⟩ := Lookup.goes_bind_ok h
  have logged {grade : ResolvedGrade} {ys : List Exchange} {c₃ : Context}
      (h : Lookup.Goes (do
        let full ← Context.fullText
        Lookup.log .info .engine ("Grades: Update, " ++ full ++ ", User: " ++ learner.id.text ++
          ", " ++ grade.text ++ ", persisted: " ++ boolText kept)
        pure grade) c₃ ys (.ok g) c') : g = grade ∧ sights ys = [] := by
    obtain ⟨us, _, full, c₄, rfl, texted, h⟩ := Lookup.goes_bind_ok h
    obtain ⟨vs, _, _, c₅, rfl, logged, h⟩ := Lookup.goes_bind_ok h
    obtain ⟨rfl, same, rfl⟩ := Lookup.goes_pure h
    have looks := (Context.within_fullText.goes texted).1
    have logs := ((within_log _ _ _ _ fun _ => trivial : Within Request.looks _).goes logged).1
    rw [sights_append, sights_append, sights_looks looks, sights_looks logs]
    exact ⟨Except.ok.inj same, rfl⟩
  have quiet := sights_looks (within_availableCourse.goes described).1
  have told := goes_dispatch changed
  rw [sights_append, sights_append, quiet, told, List.nil_append]
  split at h
  · next passed =>
    obtain ⟨ns, _, _, c₃, rfl, nowPassed, h⟩ := Lookup.goes_bind_ok h
    obtain ⟨rfl, silent⟩ := logged h
    refine ⟨rfl, course.bind (·.ends), ?_⟩
    rw [sights_append, silent, goes_dispatch nowPassed, List.append_nil, announcement,
      if_pos passed]
    rfl
  · next failed =>
    obtain ⟨rfl, silent⟩ := logged h
    refine ⟨rfl, course.bind (·.ends), ?_⟩
    rw [silent, List.append_nil, announcement, if_neg failed, List.append_nil]
    rfl

end GradeEngine

/-- The loader crashed. -/
def Exchange.loaderCrashed : Exchange → Bool
  | ⟨.loadCourse _, .error (.crash _)⟩ | ⟨.loadContent _, .error (.crash _)⟩ => true
  | _ => false

theorem Exchange.given_reporting {x : Exchange} (h : x.loaderCrashed = false) :
    (Terms.reporting fun _ => True).given x.1 x.2 := by
  obtain ⟨r, reply⟩ := x
  cases r with
  | loadCourse key =>
    rintro (cause | k) rfl
    · exact ⟨cause, rfl, trivial⟩
    · cases h
  | loadContent key =>
    rintro (cause | k) rfl
    · exact ⟨cause, rfl, trivial⟩
    · cases h
  | _ => trivial

namespace GradeEngine

variable {e : GradeEngine} {learner : Learner} {s : Strategy} {c c' : Context}
  {xs : List Exchange} {o : Except Failure ResolvedGrade}

/-- Nothing but a crash of the loader keeps a grade from being announced. -/
theorem goes_announce {key : CourseKey} {b : GradeBreakdown} {kept : Bool}
    (h : (e.announce learner key b kept).Goes c xs o c')
    (calm : ∀ x ∈ xs, x.loaderCrashed = false) :
    o = .ok (.ofBreakdown learner.id key b kept) ∧ ∃ deadline,
      sights xs = e.announcement learner (.ofBreakdown learner.id key b kept) deadline := by
  have tries : Tries (Terms.reporting fun _ => True) (fun _ => True)
      (crashes (Failure.IsError fun _ => True)) (e.announce learner key b kept) :=
    tries_announce (fun _ _ _ => trivial) e loadable_reporting key b kept
  obtain ⟨ended, -⟩ := (tries c trivial).goes h fun x member =>
    Exchange.given_reporting (calm x member)
  cases o with
  | error f => exact (not_crashes_isError ended.1).elim
  | ok g =>
    obtain ⟨rfl, told⟩ := goes_announce_ok h
    exact ⟨rfl, told⟩

/-! ### One resolution -/

/-- What a resolution exchanged on its way to an outcome. -/
inductive Exchanged (e : GradeEngine) (learner : Learner) (s : Strategy) (c : Context) :
    List Exchange → Except Failure ResolvedGrade → Prop where
  /-- Nothing was written and nobody told: an answer that was not computed, or a failure. -/
  | hidden {xs : List Exchange} {o : Except Failure ResolvedGrade} (hidden : ∀ x ∈ xs, x.Hidden)
      (answered : ∀ g, o = .ok g → ∀ kept, g.source ≠ .computed kept) : Exchanged e learner s c xs o
  /-- A breakdown was computed and announced, but not kept. -/
  | told {xs notices : List Exchange} {o : Except Failure ResolvedGrade} {b : GradeBreakdown}
      {c₁ c₂ : Context} (gathers : ∀ x ∈ xs, x.1.gathers)
      (announced : (e.announce learner c.key b false).Goes c₁ notices o c₂) :
      Exchanged e learner s c (xs ++ notices) o
  /-- A breakdown was computed, its row written, and then announced. -/
  | kept {xs notices : List Exchange} {o : Except Failure ResolvedGrade} {b : GradeBreakdown}
      {previous : Option StoredGrade} {now : Instant} {row : StoredGrade} {c₁ c₂ c₃ : Context}
      (prepared : Prepared e learner s c xs b previous now row c₁)
      (announced : (e.announce learner c.key b true).Goes c₂ notices o c₃) :
      Exchanged e learner s c (xs ++ ⟨.putRow row, .ok ()⟩ :: notices) o

theorem goes_write {row : StoredGrade} {u : Except Failure Unit}
    (h : (write row).Goes c xs u c') :
    c' = c ∧ ((u = .ok () ∧ xs = [⟨.putRow row, .ok ()⟩]) ∨
      (∃ f, u = .error f) ∧ ∃ x, xs = [⟨.putRow row, .error x⟩]) := by
  rw [write, Lookup.Goes] at h
  simp only [Lookup.dialogue_bind, Lookup.dialogue_ask, Dialogue.ask_bind, Dialogue.done_bind] at h
  obtain ⟨reply, ys, rfl, rest⟩ := Dialogue.goes_ask.1 h
  cases reply with
  | ok _ =>
    obtain ⟨rfl, same⟩ := Dialogue.goes_done.1 rest
    cases same
    exact ⟨rfl, .inl ⟨rfl, rfl⟩⟩
  | error x =>
    obtain ⟨rfl, same⟩ := Dialogue.goes_done.1 rest
    cases same
    exact ⟨rfl, .inr ⟨⟨_, rfl⟩, x, rfl⟩⟩

/-- A breakdown is kept as its row, or something failed and nothing shows. -/
theorem goes_keep {known : Option StoredGrade} {b : GradeBreakdown} {u : Except Failure Unit}
    (h : (keep learner known b).Goes c xs u c') :
    ((∃ f, u = .error f) ∧ ∀ x ∈ xs, x.Hidden) ∨
      ∃ ys row, u = .ok () ∧ xs = ys ++ [⟨.putRow row, .ok ()⟩] ∧
        (recordOver learner known b).Goes c ys (.ok row) c' := by
  rw [← recordOver_write] at h
  have hidden {ys : List Exchange} {r : Except Failure StoredGrade} {c₁ : Context}
      (h : (recordOver learner known b).Goes c ys r c₁) : ∀ x ∈ ys, x.Hidden :=
    hidden_of_discreet fun x member =>
      Request.discreet_of_records (((within_recordOver learner known b).goes h).1 x member)
  rcases Lookup.goes_bind h with ⟨ys, zs, row, c₁, rfl, recorded, wrote⟩ | ⟨f, rfl, recorded⟩
  · obtain ⟨rfl, ⟨rfl, rfl⟩ | ⟨failed, x, rfl⟩⟩ := goes_write wrote
    · exact .inr ⟨ys, row, rfl, rfl, recorded⟩
    · refine .inl ⟨failed, fun y member => ?_⟩
      rcases List.mem_append.1 member with first | last
      · exact hidden recorded y first
      · cases List.mem_singleton.1 last
        exact fun shown => by cases shown
  · exact .inl ⟨⟨f, rfl⟩, hidden recorded⟩

/-- A breakdown is announced as it is, or kept first. -/
theorem goes_conclude {readOnly : Bool} {known : Option StoredGrade} {b : GradeBreakdown}
    (h : (e.conclude learner readOnly known b).Goes c xs o c') :
    (∃ c₁ c₂, (e.announce learner c.key b false).Goes c₁ xs o c₂) ∨
      (e.keeps c.key readOnly b = true ∧ ∃ ys zs row c₁ c₂ c₃,
        xs = ys ++ ⟨.putRow row, .ok ()⟩ :: zs ∧
        (recordOver learner known b).Goes c ys (.ok row) c₁ ∧
        (e.announce learner c.key b true).Goes c₂ zs o c₃) ∨
      (∃ f, o = .error f) ∧ ∀ x ∈ xs, x.Hidden := by
  rcases Lookup.goes_bind h with ⟨gs, ts, here, c₁, rfl, got, concluding⟩ | ⟨f, -, got⟩
  · obtain ⟨rfl, same, rfl⟩ := Lookup.goes_get got
    cases same
    dsimp only at concluding
    split at concluding
    · next keeps =>
      rw [keeps] at concluding
      rcases Lookup.goes_bind concluding with ⟨ks, ns, u, c₂, rfl, kept, announced⟩ | ⟨f, rfl, kept⟩
      · rcases goes_keep kept with ⟨⟨f, failed⟩, -⟩ | ⟨rs, row, -, rfl, recorded⟩
        · cases failed
        · refine .inr (.inl ⟨keeps, rs, ns, row, _, c₂, _, ?_, recorded, announced⟩)
          rw [List.nil_append, List.append_assoc, List.singleton_append]
      · rcases goes_keep kept with ⟨-, hidden⟩ | ⟨rs, row, done, -⟩
        · exact .inr (.inr ⟨⟨f, rfl⟩, hidden⟩)
        · cases done
    · next keeps =>
      rw [eq_false_of_ne_true keeps] at concluding
      exact .inl ⟨_, _, concluding⟩
  · cases (Lookup.goes_get got).2.1

/-- **What one resolution exchanges.** -/
theorem exchanged (h : (e.resolveHere learner s).Goes c xs o c') :
    Exchanged e learner s c xs o := by
  rw [← reach_settle] at h
  rcases Lookup.goes_bind h with ⟨ys, zs, r, c₁, rfl, reached, settled⟩ | ⟨f, rfl, reached⟩
  · obtain ⟨gathers, filled⟩ := (gathers_reach e learner s).goes reached
    have early := hidden_of_gathers gathers
    cases r with
    | answered g =>
      obtain ⟨rfl, rfl, -⟩ := Lookup.goes_pure settled
      rw [List.append_nil]
      refine .hidden early fun g' same => ?_
      cases same
      exact goes_reach reached
    | computed readOnly known b =>
      have concluded := goes_conclude settled
      rw [filled.key] at concluded
      rcases concluded with ⟨c₂, c₃, announced⟩ |
        ⟨keeps, rs, ns, row, c₂, c₃, c₄, rfl, recorded, announced⟩ | ⟨⟨f, rfl⟩, late⟩
      · exact .told gathers announced
      · obtain ⟨previous, now, prepared⟩ := prepared reached keeps recorded
        rw [← List.append_assoc]
        exact .kept prepared announced
      · refine .hidden (fun x member => ?_) fun g done => by cases done
        exact (List.mem_append.1 member).elim (early x) (late x)
  · have gathers := ((gathers_reach e learner s).goes reached).1
    exact .hidden (hidden_of_gathers gathers) fun g done => by cases done

/-- A resolution writes no row, or one, behind all that was prepared for it. -/
theorem Exchanged.upsert (h : Exchanged e learner s c xs o) : written xs = [] ∨
    ∃ ys zs b previous now row c', xs = ys ++ ⟨.putRow row, .ok ()⟩ :: zs ∧
      Prepared e learner s c ys b previous now row c' ∧ ∀ x ∈ zs, x.1.announces := by
  cases h with
  | hidden hidden _ => exact .inl (written_hidden hidden)
  | told gathers announced =>
    have announces := ((within_announce e learner c.key _ _).goes announced).1
    have early := hidden_of_gathers gathers
    exact .inl (by rw [written_append, written_hidden early, written_announces announces]; rfl)
  | kept prepared announced =>
    have announces := ((within_announce e learner c.key _ _).goes announced).1
    exact .inr ⟨_, _, _, _, _, _, _, rfl, prepared, announces⟩

end GradeEngine

end Gradebook
