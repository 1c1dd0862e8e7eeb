/-
# Gradebook.Proofs.LearnerView — what some learners see of a world

`World.SameFor own w w'` says that two worlds have the same rows and scores of the learners of
`own`, that the same was announced about them, and that clock and loader are the same. Derived
data and other learners' rows may differ.

Two things make it useful: requests about these learners are answered alike in such worlds
(`SameFor.answer`), and a resolution for anybody else leaves the world the same for them
(`sameFor_resolveHere`).
-/
import Gradebook.Proofs.Coupling

namespace Gradebook

set_option autoImplicit false

open Dialogue (KeptBy)
open Lookup (Meets Tries Within)

/-! ## Rows -/

namespace RowStore

/-- A row written hides no row of another learner. -/
theorem find?_put_other {row : StoredGrade} {learner : LearnerId} (other : row.learner ≠ learner)
    (s : RowStore) (key : CourseKey) : (s.put row).find? learner key = s.find? learner key := by
  cases s with
  | memory rows =>
    have differs : ¬(row.learner, row.courseKey) = (learner, key) :=
      fun same => other (congrArg (·.1) same)
    simp only [put, find?, MemoryRows.find?, MemoryRows.put, Assoc.find?_put, if_neg differs]
  | encoded rows =>
    -- The number of the learner is the first eight bytes of a key.
    have differs : EncodedRows.keyOf row.learner row.courseKey ≠ EncodedRows.keyOf learner key := by
      intro same
      have words := (List.append_inj same (by simp only [Text.word_length])).1
      have numbers : row.learner.number = learner.number := Text.word_inj words
      exact other (congrArg LearnerId.mk numbers)
    simp only [put, find?, EncodedRows.find?, EncodedRows.put, ByteTable.find?_put, if_neg differs]

variable {own : LearnerId → Bool}

/-- Rows of one kind, and the same for these learners. -/
structure Agree (own : LearnerId → Bool) (s s' : RowStore) : Prop where
  kind : s'.InMemory ↔ s.InMemory
  find? : ∀ learner key, own learner → s'.find? learner key = s.find? learner key

theorem Agree.refl (s : RowStore) : s.Agree own s := ⟨Iff.rfl, fun _ _ _ => rfl⟩

theorem Agree.symm {s s' : RowStore} (h : s.Agree own s') : s'.Agree own s :=
  ⟨h.kind.symm, fun learner key owned => (h.find? learner key owned).symm⟩

theorem Agree.trans {s₁ s₂ s₃ : RowStore} (h : s₁.Agree own s₂) (k : s₂.Agree own s₃) :
    s₁.Agree own s₃ :=
  ⟨k.kind.trans h.kind,
    fun learner key owned => (k.find? learner key owned).trans (h.find? learner key owned)⟩

theorem inMemory_put_iff (s : RowStore) (row : StoredGrade) :
    (s.put row).InMemory ↔ s.InMemory := by
  cases s <;> exact Iff.rfl

/-- Both get the same row. -/
theorem Agree.put {s s' : RowStore} (h : s.Agree own s') (row : StoredGrade) :
    (s.put row).Agree own (s'.put row) where
  kind := (inMemory_put_iff s' row).trans (h.kind.trans (inMemory_put_iff s row).symm)
  find? learner key owned := by
    have before := h.find? learner key owned
    have kind := h.kind
    cases s with
    | memory rows =>
      cases s' with
      | encoded rows' => exact (kind.2 trivial).elim
      | memory rows' =>
        simp only [RowStore.find?, MemoryRows.find?, Except.ok.injEq] at before
        simp only [RowStore.put, RowStore.find?, MemoryRows.find?, MemoryRows.put,
          Assoc.find?_put, before]
    | encoded rows =>
      cases s' with
      | memory rows' => exact (kind.1 trivial).elim
      | encoded rows' =>
        simp only [RowStore.find?, EncodedRows.find?] at before
        simp only [RowStore.put, RowStore.find?, EncodedRows.find?, EncodedRows.put,
          ByteTable.find?_put]
        by_cases same : EncodedRows.keyOf row.learner row.courseKey = EncodedRows.keyOf learner key
        · simp only [if_pos same]
        · simpa only [if_neg same] using before

theorem agree_put_other {row : StoredGrade} (other : ¬own row.learner) (s : RowStore) :
    s.Agree own (s.put row) where
  kind := inMemory_put_iff s row
  find? _ key owned := find?_put_other (fun same => other (same ▸ owned)) s key

end RowStore

/-! ## Worlds -/

namespace World

variable {own : LearnerId → Bool} {w w' : World}

/-- What was announced about these learners, and to whom. -/
def announcedTo (own : LearnerId → Bool) (w : World) : List (Listener × Notice) :=
  w.deliveries.filter fun d => own d.2.learner

/-- The same world for these learners. -/
structure SameFor (own : LearnerId → Bool) (w w' : World) : Prop extends SameSource w w' where
  rows : w.rows.Agree own w'.rows
  scores : ∀ learner key, own learner →
    w'.scores.scoresOf learner key = w.scores.scoresOf learner key
  now : w'.now = w.now
  announced : w'.announcedTo own = w.announcedTo own

theorem SameFor.refl (w : World) : SameFor own w w :=
  ⟨⟨rfl, rfl⟩, .refl _, fun _ _ _ => rfl, rfl, rfl⟩

theorem SameFor.symm (h : SameFor own w w') : SameFor own w' w where
  source := h.source.symm
  faults := h.faults.symm
  rows := h.rows.symm
  scores learner key owned := (h.scores learner key owned).symm
  now := h.now.symm
  announced := h.announced.symm

theorem SameFor.trans {w₁ w₂ w₃ : World} (h : SameFor own w₁ w₂) (k : SameFor own w₂ w₃) :
    SameFor own w₁ w₃ where
  toSameSource := h.toSameSource.trans k.toSameSource
  rows := h.rows.trans k.rows
  scores learner key owned := (k.scores learner key owned).trans (h.scores learner key owned)
  now := k.now.trans h.now
  announced := k.announced.trans h.announced

/-- Each of two worlds has become one that is the same for these learners. -/
theorem SameFor.along {w₁ w₁' : World} (h : SameFor own w w') (k : SameFor own w w₁)
    (k' : SameFor own w' w₁') : SameFor own w₁ w₁' := k.symm.trans (h.trans k')

theorem Steady.sameFor (h : w.Steady w') (told : w'.deliveries = w.deliveries) :
    SameFor own w w' where
  toSameSource := h.toSameSource
  rows := h.rows ▸ .refl _
  scores _ _ _ := by rw [h.scores]
  now := h.now
  announced := congrArg (List.filter _) told

theorem Quiet.sameFor (h : w.Quiet w') : SameFor own w w' := h.toSteady.sameFor h.deliveries

/-- Both get the same score. -/
theorem SameFor.record (same : SameFor own w w') (memory : w.scores.InMemory)
    (memory' : w'.scores.InMemory) (learner : LearnerId) (owned : own learner) (key : CourseKey)
    (block : BlockId) (score : Score) :
    SameFor own (w.record learner key block score) (w'.record learner key block score) :=
  { same with
    scores := fun other key' owned' => by
      simp only [World.record, ScoreStore.scoresOf_record memory,
        ScoreStore.scoresOf_record memory', same.scores learner key owned,
        same.scores other key' owned'] }

/-- A score recorded for anybody else is not among theirs. -/
theorem sameFor_record (memory : w.scores.InMemory) {learner : LearnerId} (other : ¬own learner)
    (key : CourseKey) (block : BlockId) (score : Score) :
    SameFor own w (w.record learner key block score) :=
  { SameFor.refl w with
    scores := fun id key' owned => by
      have differs : ¬(learner = id ∧ key = key') := fun same => other (same.1 ▸ owned)
      simp only [World.record, ScoreStore.scoresOf_record memory, if_neg differs] }

/-- Scores are only looked at. -/
theorem scores_answer (r : Request) (w : World) : (answer r w).2.scores = w.scores := by
  cases r with
  | loadCourse key =>
    simp only [answer, loadCourse]
    split <;> rfl
  | loadContent key =>
    simp only [answer, loadContent]
    split <;> rfl
  | findRow learner key =>
    simp only [answer, findRow]
    split <;> rfl
  | putRow row =>
    simp only [answer, putRow]
    split <;> rfl
  | scoresOf learner key =>
    simp only [answer, scoresOf]
    split <;> rfl
  | groups | clear | computing | deliver | clock | log => rfl

theorem scores_run {α : Type} (d : Dialogue α) (w : World) : (w.run d).2.scores = w.scores := by
  induction d generalizing w with
  | done a => rfl
  | ask r next ih => exact (ih _ _).trans (scores_answer r w)

end World

namespace Request

/-- Asked about these learners, if about anyone, and not for derived data. -/
def ofOwn (own : LearnerId → Bool) : Request → Prop
  | .findRow learner _ | .scoresOf learner _ => own learner
  | .putRow row => own row.learner
  | .deliver _ notice => own notice.learner
  | .groups _ _ _ | .clear _ => False
  | _ => True

/-- Nothing that these learners see. -/
def apart (own : LearnerId → Bool) : Request → Prop
  | .putRow row => ¬own row.learner
  | .deliver _ notice => ¬own notice.learner
  | _ => True

variable {own : LearnerId → Bool} {r : Request} {learner : LearnerId}

theorem ofOwn_of_looks (h : r.looks) : r.ofOwn own := by
  cases r <;> first | exact h.elim | trivial

theorem ofOwn_of_concerns (owned : own learner) (h : r.concerns learner) : r.ofOwn own := by
  cases r with
  | findRow other key =>
    cases h
    exact owned
  | putRow row =>
    cases h
    exact owned
  | deliver listener notice =>
    cases h
    exact owned
  | computing | clock | log => trivial
  | loadCourse | loadContent | scoresOf | groups | clear => exact h.elim

theorem apart_of_consults (h : r.consults) : r.apart own := by
  cases r <;> first | exact h.elim | trivial

theorem apart_of_concerns (other : ¬own learner) (h : r.concerns learner) : r.apart own := by
  cases r with
  | putRow row =>
    cases h
    exact other
  | deliver listener notice =>
    cases h
    exact other
  | _ => trivial

end Request

namespace World

variable {own : LearnerId → Bool} {w w' : World}

theorem announcedTo_append (own : LearnerId → Bool) (w : World) (entry : Listener × Notice) :
    (w.deliveries ++ [entry]).filter (fun d => own d.2.learner) =
      w.announcedTo own ++ if own entry.2.learner then [entry] else [] := by
  rw [List.filter_append, announcedTo, List.filter_cons, List.filter_nil]

/-- No request changes the content on offer, or which requests fail. -/
theorem sameSource_answer (r : Request) (w : World) : w.SameSource (answer r w).2 := by
  have mild (mild : r.mild) : w.SameSource (answer r w).2 :=
    (steady_answer mild w).toSameSource
  cases r with
  | putRow row =>
    simp only [answer, putRow]
    split <;> exact ⟨rfl, rfl⟩
  | clear key => exact ⟨rfl, rfl⟩
  | computing learner => exact ⟨rfl, rfl⟩
  | loadCourse | loadContent | findRow | scoresOf | groups | deliver | clock | log =>
    exact mild trivial

/-- Listeners are told only by being told. -/
theorem deliveries_answer {r : Request} (h : ∀ listener notice, r ≠ .deliver listener notice)
    (w : World) : (answer r w).2.deliveries = w.deliveries := by
  cases r with
  | deliver listener notice => exact absurd rfl (h listener notice)
  | loadCourse key => exact (answer_looks (r := .loadCourse key) trivial w).2
  | loadContent key => exact (answer_looks (r := .loadContent key) trivial w).2
  | findRow learner key =>
    simp only [answer, findRow]
    split <;> rfl
  | putRow row =>
    simp only [answer, putRow]
    split <;> rfl
  | scoresOf learner key =>
    simp only [answer, scoresOf]
    split <;> rfl
  | groups | clear | computing | clock | log => rfl

/-- **What these learners do not see leaves the world the same for them.** -/
theorem sameFor_answer {r : Request} (h : r.apart own) (w : World) :
    SameFor own w (answer r w).2 := by
  have mild (mild : r.mild) (other : ∀ listener notice, r ≠ .deliver listener notice) :
      SameFor own w (answer r w).2 := (steady_answer mild w).sameFor (deliveries_answer other w)
  cases r with
  | putRow row =>
    simp only [answer, putRow]
    split
    · exact .refl w
    · exact { SameFor.refl w with rows := RowStore.agree_put_other h w.rows }
  | deliver listener notice =>
    have told := announcedTo_append own w (listener, notice)
    rw [if_neg h, List.append_nil] at told
    exact { SameFor.refl w with announced := told }
  | clear key => exact { SameFor.refl w with }
  | computing learner => exact { SameFor.refl w with }
  | loadCourse | loadContent | findRow | scoresOf | groups | clock | log =>
    exact mild trivial fun _ _ => Request.noConfusion

/-- **What is asked about these learners is answered alike.** -/
theorem SameFor.answer {r : Request} (h : r.ofOwn own) (same : SameFor own w w') :
    (World.answer r w').1 = (World.answer r w).1 ∧
      SameFor own (World.answer r w).2 (World.answer r w').2 := by
  have unseen (apart : r.apart own) : SameFor own (World.answer r w).2 (World.answer r w').2 :=
    same.along (sameFor_answer apart w) (sameFor_answer apart w')
  cases r with
  | loadCourse key => exact ⟨same.loadCourse_eq key, unseen trivial⟩
  | loadContent key => exact ⟨same.loadContent_eq key, unseen trivial⟩
  | findRow learner key =>
    refine ⟨?_, unseen trivial⟩
    simp only [World.answer, findRow, same.faults]
    split
    · rfl
    · exact same.rows.find? learner key h
  | scoresOf learner key =>
    refine ⟨?_, unseen trivial⟩
    simp only [World.answer, World.scoresOf, same.faults]
    split
    · rfl
    · exact same.scores learner key h
  | putRow row =>
    have faults : w'.faults.putRow = w.faults.putRow := congrArg (·.putRow) same.faults
    simp only [World.answer, putRow, faults]
    split
    · exact ⟨rfl, same⟩
    · exact ⟨rfl, { same with rows := same.rows.put row }⟩
  | deliver listener notice =>
    refine ⟨rfl, { same with announced := ?_ }⟩
    simp only [World.answer, deliver]
    rw [announcedTo, announcedTo, announcedTo_append, announcedTo_append, same.announced]
  | computing learner => exact ⟨rfl, unseen trivial⟩
  | clock => exact ⟨same.now, unseen trivial⟩
  | log entry => exact ⟨rfl, unseen trivial⟩
  | groups | clear => exact h.elim

/-! ## Resolutions -/

/-- A lookup of nothing that these learners see leaves the world the same for them. -/
theorem sameFor_look {α : Type} {kinds : Request → Prop} {l : Lookup α} (h : Within kinds l)
    (apart : ∀ r, kinds r → r.apart own) (w : World) (c : Context) :
    SameFor own w (w.look l c).2 := by
  have kept : KeptBy ⟨kinds, fun _ _ => True⟩ answer (SameFor own w) :=
    fun r w' same kind => ⟨trivial, same.trans (sameFor_answer (apart r kind) w')⟩
  exact ((h _ _ (fun _ kind => kind) Context.lasting_true c trivial).run kept (.refl w)).2

theorem resolvable_apart {learner : LearnerId} (other : ¬own learner) :
    GradeEngine.Resolvable ⟨Request.apart own, fun _ _ => True⟩ (fun _ => True) (fun _ => True)
      (fun _ => True) learner where
  loads :=
    { asks := fun _ looks => Request.apart_of_consults (Request.consults_of_looks looks)
      lasting := Context.lasting_true
      course := fun _ _ _ _ => trivial
      content := fun _ _ _ _ => trivial }
  asks _ := Request.apart_of_concerns other
  loading _ _ := trivial
  storing _ := trivial

/-- **A resolution for anybody else leaves the world the same for these learners.** -/
theorem sameFor_resolveHere (e : GradeEngine) {learner : Learner} (other : ¬own learner.id)
    (s : Strategy) (w : World) (c : Context) :
    SameFor own w (w.look (e.resolveHere learner s) c).2 := by
  let t : Terms := ⟨Request.apart own, fun _ _ => True⟩
  have computes : Tries t.discreet (fun _ => True) (fun _ => True) (e.calculator learner.id) := by
    have consults := e.calculator.consults learner.id t.discreet (fun _ => True)
      (fun _ kind => ⟨Request.apart_of_consults kind, Request.discreet_of_consults kind⟩)
      Context.lasting_true
    exact consults.imp (fun _ h => h) (fun _ _ h => h) fun _ _ _ => ⟨trivial, trivial⟩
  have settles := GradeEngine.settles_resolveHere (resolvable_apart other) computes s
  have kept : KeptBy t answer (SameFor own w) :=
    fun r w' same apart => ⟨trivial, same.trans (sameFor_answer apart w')⟩
  exact (settles.look (fun _ _ => trivial) kept (.refl w) trivial).2

/-- Resolutions for these learners go alike in worlds that are the same for them. -/
theorem coupling_sameFor {learner : LearnerId} (owned : own learner) {I : Context → Prop}
    (lasting : Context.Lasting ⟨Request.ofOwn own, fun _ _ => True⟩ I) :
    Coupling (.sharing (SameFor own) I) learner :=
  coupling_sharing (fun _ => Request.ofOwn_of_looks) (fun _ => Request.ofOwn_of_concerns owned)
    lasting fun _ _ _ same asks => ⟨trivial, same.answer asks⟩

end World

end Gradebook
