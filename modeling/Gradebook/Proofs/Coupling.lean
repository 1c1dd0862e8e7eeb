/-
# Gradebook.Proofs.Coupling — two resolutions that go alike

A `Pairing` relates a world and a context to another world and context. `Lookup.Alike` says of
two lookups that from a related pair they come to the same outcome and to a related pair again;
it composes request by request.

What a resolution needs of a pairing is that the contexts are of one course, and that the
requests made for its learner and the lookups of the course go alike (`Coupling`). Then the
whole resolution goes alike (`alike_resolveHere`), also with two calculators that do.
-/
import Gradebook.Proofs.Committing
import Gradebook.Proofs.Computing

namespace Gradebook

set_option autoImplicit false

open Dialogue (Honors)
open Lookup (Within)

/-! ## One dialogue in two surroundings -/

namespace Dialogue

/-- A dialogue within its terms comes to one end in surroundings that answer it alike. -/
theorem Honors.run_pair {α σ : Type} {t : Terms} {ends : α → Prop} {d : Dialogue α}
    (h : Honors t ends d) {answer : Answering σ} {Q : σ → σ → Prop}
    (kept : ∀ r s s', Q s s' → t.asks r → t.given r (answer r s).1 ∧
      (answer r s').1 = (answer r s).1 ∧ Q (answer r s).2 (answer r s').2)
    {s s' : σ} (start : Q s s') :
    (Dialogue.run answer d s').1 = (Dialogue.run answer d s).1 ∧
      ends (Dialogue.run answer d s).1 ∧
      Q (Dialogue.run answer d s).2 (Dialogue.run answer d s').2 := by
  induction d generalizing s s' with
  | done a => exact ⟨rfl, h, start⟩
  | ask r next ih =>
    obtain ⟨given, same, still⟩ := kept r s s' start h.1
    rw [run_ask, run_ask, same]
    exact ih _ (h.2 _ given) still

end Dialogue

/-- How two worlds and the contexts looked at in them may stand to each other. -/
abbrev Pairing : Type := World → Context → World → Context → Prop

/-- Equal contexts that have `I`, in worlds related by `Q`. -/
def Pairing.sharing (Q : World → World → Prop) (I : Context → Prop) : Pairing :=
  fun w c w' c' => Q w w' ∧ c' = c ∧ I c

namespace Lookup

variable {α β : Type} {R : Pairing}

/-- From a related pair to the same outcome, and to a related pair. -/
def Alike (R : Pairing) (l l' : Lookup α) : Prop :=
  ∀ w c w' c', R w c w' c' → (w'.look l' c').1.1 = (w.look l c).1.1 ∧
    R (w.look l c).2 (w.look l c).1.2 (w'.look l' c').2 (w'.look l' c').1.2

/-- What the lookup may find, where the pairing holds. -/
def Finds (R : Pairing) (l : Lookup α) (a : α) : Prop :=
  ∃ w c w' c', R w c w' c' ∧ (w.look l c).1.1 = .ok a

theorem alike_pure (a : α) : Alike R (pure a) (pure a) := fun _ _ _ _ related => ⟨rfl, related⟩

theorem alike_throw (f : Failure) : Alike R (throw f : Lookup α) (throw f) :=
  fun _ _ _ _ related => ⟨rfl, related⟩

theorem alike_bind {l l' : Lookup α} {f f' : α → Lookup β} (first : Alike R l l')
    (next : ∀ a, Finds R l a → Alike R (f a) (f' a)) : Alike R (l >>= f) (l' >>= f') := by
  intro w c w' c' related
  have found (a : α) (h : (w.look l c).1.1 = .ok a) : Finds R l a := ⟨w, c, w', c', related, h⟩
  obtain ⟨same, still⟩ := first w c w' c' related
  rw [World.look_bind, World.look_bind]
  generalize w.look l c = r at found same still
  generalize w'.look l' c' = r' at same still
  obtain ⟨⟨o, c₁⟩, w₁⟩ := r
  obtain ⟨⟨o', c₁'⟩, w₁'⟩ := r'
  cases o with
  | error f =>
    cases same
    exact ⟨rfl, still⟩
  | ok a =>
    cases same
    exact next a (found a rfl) w₁ c₁ w₁' c₁' still

/-- What is read off the contexts may differ. -/
theorem alike_get {f f' : Context → Lookup β}
    (next : ∀ w c w' c', R w c w' c' → Alike R (f c) (f' c')) :
    Alike R (get >>= f) (get >>= f') := by
  intro w c w' c' related
  rw [World.look_bind, World.look_bind]
  exact next w c w' c' related w c w' c' related

theorem alike_map (f : α → β) {l l' : Lookup α} (h : Alike R l l') :
    Alike R (f <$> l) (f <$> l') := by
  rw [← bind_pure_comp, ← bind_pure_comp]
  exact alike_bind h fun a _ => alike_pure (f a)

theorem alike_attempt {l l' : Lookup α} (h : Alike R l l') :
    Alike R (attempt l) (attempt l') := by
  have caught (w : World) (l : Lookup α) (c : Context) : w.look (attempt l) c =
      ((Lookup.caught (w.look l c).1.1, (w.look l c).1.2), (w.look l c).2) := by
    simp only [World.look, World.run, dialogue_attempt, Dialogue.run_bind, Dialogue.run_done]
  intro w c w' c' related
  obtain ⟨same, still⟩ := h w c w' c' related
  rw [caught, caught, same]
  exact ⟨rfl, still⟩

theorem alike_attempt? {l l' : Lookup α} (h : Alike R l l') :
    Alike R (attempt? l) (attempt? l') := alike_map _ (alike_attempt h)

/-- A lookup from equal contexts goes alike where its requests do. -/
theorem alike_within {kinds : Request → Prop} {l : Lookup α} (h : Within kinds l) {t : Terms}
    {Q : World → World → Prop} {I : Context → Prop} (asks : ∀ r, kinds r → t.asks r)
    (lasting : Context.Lasting t I)
    (kept : ∀ r w w', Q w w' → t.asks r → t.given r (World.answer r w).1 ∧
      (World.answer r w').1 = (World.answer r w).1 ∧
      Q (World.answer r w).2 (World.answer r w').2) :
    Alike (.sharing Q I) l l := by
  rintro w c w' c' ⟨related, rfl, start⟩
  have filled : Honors t (fun r => I r.2) (l.dialogue c') :=
    (h t I asks lasting c' start).imp fun r ended => by obtain ⟨f | a, c⟩ := r <;> exact ended
  obtain ⟨same, ended, still⟩ := filled.run_pair kept related
  exact ⟨congrArg (·.1) same, still, congrArg (·.2) same, ended⟩

end Lookup

open Lookup (Alike Finds alike_pure alike_throw alike_bind alike_get alike_map alike_attempt
  alike_attempt?)

/-- What resolutions for a learner ask goes alike, in contexts of one course. -/
structure Coupling (R : Pairing) (learner : LearnerId) : Prop where
  key : ∀ {w c w' c'}, R w c w' c' → c'.key = c.key
  asks : ∀ r, r.concerns learner → Alike R (Lookup.ask r) (Lookup.ask r)
  course : Alike R Context.course Context.course
  content : Alike R Context.content Context.content
  policyHash : Alike R Context.policyHash Context.policyHash
  contentVersion : Alike R Context.contentVersion Context.contentVersion
  contentEditedAt : Alike R Context.contentEditedAt Context.contentEditedAt

/-- Resolutions from equal contexts go alike where their requests do. -/
theorem coupling_sharing {t : Terms} {Q : World → World → Prop} {I : Context → Prop}
    {learner : LearnerId} (looks : ∀ r, r.looks → t.asks r)
    (concerns : ∀ r, r.concerns learner → t.asks r) (lasting : Context.Lasting t I)
    (kept : ∀ r w w', Q w w' → t.asks r → t.given r (World.answer r w).1 ∧
      (World.answer r w').1 = (World.answer r w).1 ∧
      Q (World.answer r w).2 (World.answer r w').2) :
    Coupling (.sharing Q I) learner where
  key related := congrArg (·.key) related.2.1
  asks _ about := Lookup.alike_within (Lookup.within_ask about) concerns lasting kept
  course := Lookup.alike_within Context.within_course looks lasting kept
  content := Lookup.alike_within Context.within_content looks lasting kept
  policyHash := Lookup.alike_within Context.within_policyHash looks lasting kept
  contentVersion := Lookup.alike_within Context.within_contentVersion looks lasting kept
  contentEditedAt := Lookup.alike_within Context.within_contentEditedAt looks lasting kept

namespace Coupling

open GradeEngine

variable {R : Pairing} {learner : Learner} (h : Coupling R learner.id)
include h

theorem text {w w' : World} {c c' : Context} (related : R w c w' c') : c'.text = c.text := by
  unfold Context.text
  rw [h.key related]

theorem fullText : Alike R Context.fullText Context.fullText := by
  refine alike_bind (alike_attempt? h.contentVersion) fun version _ => ?_
  refine alike_bind (alike_attempt? h.contentEditedAt) fun editedAt _ => ?_
  refine alike_bind (alike_attempt? h.policyHash) fun hash _ => ?_
  refine alike_get fun w c w' c' related => ?_
  rw [h.text related]
  exact alike_pure _

theorem availableCourse : Alike R GradeEngine.availableCourse GradeEngine.availableCourse := by
  refine alike_bind (alike_attempt h.course) fun o _ => ?_
  cases o with
  | ok course => exact alike_pure _
  | error e =>
    refine alike_get fun w c w' c' related => ?_
    simp only [Context.keyField, h.key related]
    exact alike_bind (h.asks _ trivial) fun _ _ => alike_pure _

theorem tell {notice : Notice} (about : notice.learner = learner.id) (report : DispatchReport)
    (listener : Listener) :
    Alike R (GradeEngine.tell notice report listener)
      (GradeEngine.tell notice report listener) := by
  refine alike_bind (h.asks _ about) fun delivery _ => ?_
  cases Delivery.failure? delivery with
  | none => exact alike_pure _
  | some text => exact alike_bind (h.asks _ trivial) fun _ _ => alike_pure _

theorem dispatch (e : GradeEngine) {notice : Notice} (about : notice.learner = learner.id) :
    Alike R (e.dispatch notice) (e.dispatch notice) := by
  unfold GradeEngine.dispatch
  generalize ({} : DispatchReport) = report
  induction e.listeners generalizing report with
  | nil => exact alike_pure _
  | cons listener rest ih =>
    rw [List.foldlM_cons]
    exact alike_bind (h.tell about report listener) fun report _ => ih report

theorem announce (e : GradeEngine) (key : CourseKey) (b : GradeBreakdown) (kept : Bool) :
    Alike R (e.announce learner key b kept) (e.announce learner key b kept) := by
  refine alike_bind h.availableCourse fun course _ => ?_
  refine alike_bind (h.dispatch e rfl) fun _ _ => ?_
  have rest (grade : ResolvedGrade) :
      let logged : Lookup ResolvedGrade := do
        let full ← Context.fullText
        Lookup.log .info .engine ("Grades: Update, " ++ full ++ ", User: " ++ learner.id.text ++
          ", " ++ grade.text ++ ", persisted: " ++ boolText kept)
        pure grade
      Alike R logged logged :=
    alike_bind h.fullText fun _ _ => alike_bind (h.asks _ trivial) fun _ _ => alike_pure _
  split
  · exact alike_bind (h.dispatch e rfl) fun _ _ => rest _
  · exact rest _

omit h in
theorem stored {α : Type} (o : Except StorageError α) :
    Alike R (GradeEngine.stored o) (GradeEngine.stored o) := by
  cases o with
  | ok a => exact alike_pure a
  | error x => exact alike_throw _

theorem rowOf (key : CourseKey) :
    Alike R (GradeEngine.rowOf learner.id key) (GradeEngine.rowOf learner.id key) :=
  alike_bind (h.asks _ rfl) fun _ _ => stored _

theorem readStored (e : GradeEngine) : Alike R (e.readStored learner) (e.readStored learner) := by
  refine alike_get fun w c w' c' related => ?_
  simp only [h.text related, h.key related]
  split
  · exact alike_pure _
  · refine alike_bind (h.rowOf c.key) fun found _ => ?_
    cases found with
    | none => exact alike_pure _
    | some row => exact alike_bind (h.asks _ trivial) fun _ _ => alike_pure _

theorem createZero : Alike R (GradeEngine.createZero learner) (GradeEngine.createZero learner) := by
  refine alike_get fun w c w' c' related => ?_
  simp only [h.text related, h.key related]
  exact alike_bind (h.asks _ trivial) fun _ _ => alike_pure _

/-- **Reading goes alike.** -/
theorem readHere (e : GradeEngine) : Alike R (e.readHere learner) (e.readHere learner) := by
  refine alike_bind (h.readStored e) fun found _ => ?_
  cases found with
  | some row => exact alike_pure _
  | none =>
    refine alike_get fun w c w' c' related => ?_
    simp only [h.key related]
    split
    · exact alike_map _ h.createZero
    · exact alike_pure _

theorem record (b : GradeBreakdown) (previous : Option StoredGrade) (now : Instant) :
    Alike R (StoredGrade.record learner.id b previous now)
      (StoredGrade.record learner.id b previous now) := by
  refine alike_bind h.contentVersion fun version _ => ?_
  refine alike_bind h.contentEditedAt fun editedAt _ => ?_
  refine alike_bind h.policyHash fun hash _ => ?_
  refine alike_get fun w c w' c' related => ?_
  simp only [h.key related]
  exact alike_pure _

theorem keep (known : Option StoredGrade) (b : GradeBreakdown) :
    Alike R (GradeEngine.keep learner known b) (GradeEngine.keep learner known b) := by
  refine alike_get fun w c w' c' related => ?_
  have rest (previous : Option StoredGrade) :
      let kept : Lookup Unit := do
        let now ← Lookup.ask .clock
        let row ← StoredGrade.record learner.id b previous now
        write row
      Alike R kept kept := by
    refine alike_bind (h.asks _ trivial) fun now _ => ?_
    refine alike_bind (h.record b previous now) fun row found => ?_
    obtain ⟨w, c, w', c', -, recorded⟩ := found
    have own : row.learner = learner.id := (StoredGrade.keeps_of_record recorded).1.learner
    exact alike_bind (h.asks _ own) fun _ _ => stored _
  cases known with
  | some row => exact rest (some row)
  | none =>
    simp only [h.key related]
    exact alike_bind (h.rowOf c.key) fun previous _ => rest previous

variable {e : GradeEngine} {k : Calculator}

theorem conclude (e : GradeEngine) (k : Calculator) (readOnly : Bool) (known : Option StoredGrade)
    (b : GradeBreakdown) : Alike R (e.conclude learner readOnly known b)
      ({ e with calculator := k }.conclude learner readOnly known b) := by
  refine alike_get fun w c w' c' related => ?_
  have announces (kept : Bool) : Alike R (e.announce learner c.key b kept)
      ({ e with calculator := k }.announce learner c.key b kept) := h.announce e c.key b kept
  have same (keys : CourseKey) :
      ({ e with calculator := k } : GradeEngine).keeps keys readOnly b = e.keeps keys readOnly b :=
    rfl
  simp only [h.key related, same]
  split
  · exact alike_bind (h.keep known b) fun _ _ => announces _
  · exact announces _

variable (computes : Alike R (e.calculator learner.id) (k learner.id))
include computes

theorem recompute (readOnly : Bool) (known : Option StoredGrade) :
    Alike R (e.recompute learner readOnly known)
      ({ e with calculator := k }.recompute learner readOnly known) :=
  alike_bind (h.asks _ rfl) fun _ _ =>
    alike_bind computes fun b _ => h.conclude e k readOnly known b

theorem createStored (row : StoredGrade) : Alike R (e.createStored learner row)
    ({ e with calculator := k }.createStored learner row) := by
  refine alike_bind h.policyHash fun hash _ => ?_
  split
  · exact alike_pure _
  · exact h.recompute computes false (some row)

theorem createAbsent : Alike R (e.createAbsent learner)
    ({ e with calculator := k }.createAbsent learner) := by
  refine alike_get fun w c w' c' related => ?_
  simp only [h.key related]
  split
  · exact h.createZero
  · exact h.recompute computes true none

/-- **A resolution goes alike where the computations do.** -/
theorem resolveHere (s : Strategy) : Alike R (e.resolveHere learner s)
    ({ e with calculator := k }.resolveHere learner s) := by
  cases s with
  | forceUpdate => exact h.recompute computes false none
  | createIfStale =>
    refine alike_bind (h.readStored e) fun found _ => ?_
    cases found with
    | some row => exact h.createStored computes row
    | none => exact h.createAbsent computes

end Coupling

/-- The weighted grade is computed alike where groups and scores are. -/
theorem Calculator.alike_weighted {R : Pairing} {learner : LearnerId} (h : Coupling R learner)
    (groups : ∀ x, Finds R Context.content x →
      let request := Request.groups x.courseKey x.version x.gradedBlocksByFormat
      Alike R (Lookup.ask request) (Lookup.ask request))
    (scores : ∀ key, Alike R (Lookup.ask (.scoresOf learner key))
      (Lookup.ask (.scoresOf learner key))) :
    Alike R (weighted learner) (weighted learner) := by
  refine alike_bind h.content fun x found => ?_
  cases x.gradingPolicy.validate with
  | error cause => exact alike_throw _
  | ok u =>
    refine alike_bind (groups x found) fun built _ => ?_
    refine alike_bind (scores x.courseKey) fun o _ => ?_
    cases o with
    | error cause => exact alike_throw _
    | ok scores => exact alike_bind (h.asks _ trivial) fun _ _ => alike_pure _

end Gradebook
