/-
# Gradebook.Proofs.Unkept — where no grades are kept the store does not matter

Some courses keep no grades. For them the store could be anything: `GradeStore` has a state of
its own and replies to the two requests for rows as it likes, failures included; it may count
its calls, so that a state left as it was means that none was made. `runOver` is a session in
which such a store stands in for the rows of the world.

A step of a session is one dialogue and a change of the world that asks nothing
(`Session.move`, `step_move`), so it can be answered by either. On a course that keeps no grades
that dialogue is `aloof`: on every branch it asks for no row, writes none, and tells of no grade
as kept. The course is a matter of the context at hand, so this is shown with the key of the
context as the invariant (`Aloof`), once for each part of an operation.
-/
import Gradebook.Proofs.BatchElements
import Gradebook.Proofs.Performances

namespace Gradebook

set_option autoImplicit false

open Dialogue (Honors KeptBy)
open Lookup (Within Meets within_bind within_ask within_pure)

/-! ## Stores of their own -/

/-- Rows kept elsewhere, in a state that every call may change. -/
structure GradeStore (τ : Type) where
  find : LearnerId → CourseKey → τ → Except StorageError (Option StoredGrade) × τ
  put : StoredGrade → τ → Except StorageError Unit × τ

/-- Requests for rows go to the store, all others to the world. -/
def GradeStore.answer {τ : Type} (store : GradeStore τ) : Dialogue.Answering (World × τ)
  | .findRow learner key, (w, t) => ((store.find learner key t).1, w, (store.find learner key t).2)
  | .putRow row, (w, t) => ((store.put row t).1, w, (store.put row t).2)
  | r, (w, t) => ((World.answer r w).1, (World.answer r w).2, t)

/-- Looking for a row, or writing one. -/
def Request.forRows : Request → Prop
  | .findRow _ _ | .putRow _ => True
  | _ => False

/-! ## A step as a dialogue -/

/-- What a step changes in the world without asking anything. -/
def Step.edit : Step → World → World
  | .record learner key block score, w => w.record learner key block score
  | .define d, w => { w with source := w.source.define d }
  | .publish source, w => { w with source }
  | .disturb faults, w => { w with faults }
  | .clock now, w => { w with now }
  | _, w => w

namespace Session

/-- What is done with something at hand, if there is something of its number. -/
def holding {β : Type} (s : Session) (held? : Option β)
    (next : β → Dialogue (Answer × Session)) : Dialogue (Answer × Session) :=
  match held? with
  | none => pure (.unknown, s)
  | some b => next b

/-- What a step asks, and the answer and the session it ends in, but for the world. -/
def move (s : Session) : Step → Dialogue (Answer × Session)
  | .create learner i => (fun o => (.grade o, s)) <$> s.engine.create learner i
  | .read learner i => (fun o => (.found o, s)) <$> s.engine.read learner i
  | .update learner i => (fun o => (.grade o, s)) <$> s.engine.update learner i
  | .openContext learner i => pure (s.openContext learner i)
  | .resolve context learner strategy => s.holding s.contexts[context]? fun c =>
      (fun o => (.grade o, s)) <$> s.engine.resolve learner c strategy
  | .resolveIn holder learner strategy => s.holding (s.contextAt? holder) fun c =>
      (fun r => (.grade r.1, s.putContext holder r.2)) <$>
        (s.engine.resolveHere learner strategy).dialogue c
  | .fork holder learner => pure (s.fork holder learner)
  | .consult holder q => s.holding (s.contextAt? holder) fun c =>
      (fun r => (.learned r.1, s.putContext holder r.2)) <$> (Context.consult q).dialogue c
  | .startBatch supply i strategy => (fun
    | .error f => (.kept (.error f), s)
    | .ok b => (.kept (.ok s.batches.length), { s with batches := s.batches ++ [b] })) <$>
      Batch.start supply i strategy
  | .nextResult batch => s.holding s.batches[batch]? fun b =>
      (fun r => (.result r.1, { s with batches := s.batches.set batch r.2 })) <$> b.next s.engine
  | .closeBatch batch => s.holding s.batches[batch]? fun b =>
      (fun b => (.done, { s with batches := s.batches.set batch b })) <$> b.close
  | .beginTransaction key => pure (s.beginTransaction key)
  | .release transaction => s.holding s.transactions[transaction]? fun t => do
      if !t.released then Dialogue.request (.clear t.key)
      pure (.done, { s with
        transactions := s.transactions.set transaction { t with released := true } })
  | .clear key => do
    let () ← Dialogue.request (.clear key)
    pure (.done, s)
  | .record .. | .define _ | .publish _ | .disturb _ | .clock _ => pure (.done, s)

/-- The session a step ends in, with this world. -/
def settled (r : (Answer × Session) × World) (step : Step) : Answer × Session :=
  (r.1.1, { r.1.2 with world := step.edit r.2 })

/-- **A step is its dialogue**, answered by the world. -/
theorem step_move (s : Session) (step : Step) :
    s.step step = settled (s.world.run (s.move step)) step := by
  cases step with
  | create | read | update =>
    rw [move, World.run_map]
    rfl
  | openContext learner i =>
    simp only [Session.step, openContext, move]
    split <;> rfl
  | fork holder learner =>
    simp only [Session.step, fork, move]
    split <;> rfl
  | resolve n learner strategy =>
    simp only [Session.step, resolve, move]
    cases s.contexts[n]? with
    | none => rfl
    | some c =>
      simp only [holding, World.run_map]
      rfl
  | resolveIn holder learner strategy =>
    simp only [Session.step, resolveIn, move]
    cases s.contextAt? holder with
    | none => rfl
    | some c =>
      simp only [lookUp, holding, World.run_map]
      cases holder <;> rfl
  | consult holder q =>
    simp only [Session.step, consult, move]
    cases s.contextAt? holder with
    | none => rfl
    | some c =>
      simp only [lookUp, holding, World.run_map]
      cases holder <;> rfl
  | startBatch supply i strategy =>
    simp only [Session.step, startBatch, carryOut, move, World.run_map]
    generalize s.world.run (Batch.start supply i strategy) = r
    obtain ⟨f | b, w⟩ := r <;> rfl
  | nextResult n =>
    simp only [Session.step, nextResult, move]
    cases s.batches[n]? with
    | none => rfl
    | some b =>
      simp only [holding, World.run_map]
      rfl
  | closeBatch n =>
    simp only [Session.step, closeBatch, move]
    cases s.batches[n]? with
    | none => rfl
    | some b =>
      simp only [holding, World.run_map]
      rfl
  | release n =>
    simp only [Session.step, release, World.release, move]
    cases s.transactions[n]? with
    | none => rfl
    | some t => cases released : t.released <;> simp only [holding, released] <;> rfl
  | beginTransaction | record | define | publish | disturb | clear | clock => rfl

variable {τ : Type}

/-- One step with rows kept in the store. -/
def stepOver (store : GradeStore τ) (s : Session) (t : τ) (step : Step) : Answer × Session × τ :=
  let (r, w, t) := Dialogue.run store.answer (s.move step) (s.world, t)
  let (a, s) := settled (r, w) step
  (a, s, t)

/-- Steps in order with rows kept in the store. -/
def runOver (store : GradeStore τ) (s : Session) (t : τ) : List Step → List Answer × Session × τ
  | [] => ([], s, t)
  | step :: rest =>
    let (a, s, t) := s.stepOver store t step
    let (answers, s, t) := s.runOver store t rest
    (a :: answers, s, t)

/-- All that is asked meanwhile, of the store and of the world. -/
def askedOver (store : GradeStore τ) (s : Session) (t : τ) : List Step → List Request
  | [] => []
  | step :: rest =>
    let after := s.stepOver store t step
    Dialogue.trace store.answer (s.move step) (s.world, t) ++
      after.2.1.askedOver store after.2.2 rest

end Session

/-! ## Nothing is kept -/

/-- A grade that is not one computed and kept. -/
def ResolvedGrade.Unkept (g : ResolvedGrade) : Prop :=
  ∀ kept, g.source = .computed kept → kept = false

theorem ResolvedGrade.unkept_ofBreakdown (learner : LearnerId) (key : CourseKey)
    (b : GradeBreakdown) : (ofBreakdown learner key b false).Unkept :=
  fun _ same => (GradeSource.computed.inj same).symm

/-- No grade is told of as kept. -/
def Notice.Unkept : Notice → Prop
  | .changed _ g _ _ => g.Unkept
  | .nowPassed _ _ => True

namespace Answer

/-- The grade that an answer shows, computed or not. -/
def shown? : Answer → Option ResolvedGrade
  | .found o => o.toOption.join
  | a => a.grade?

/-- No grade is answered as kept. -/
def Unkept (a : Answer) : Prop := ∀ g, a.shown? = some g → g.Unkept

end Answer

/-- All but asking for a row, writing one, and telling of a grade as kept. -/
def Request.aloof : Request → Prop
  | .findRow _ _ | .putRow _ => False
  | .deliver _ notice => notice.Unkept
  | _ => True

/-- Whatever is replied. -/
def Terms.aloof : Terms := ⟨Request.aloof, fun _ _ => True⟩

namespace Request

theorem aloof_of_looks {r : Request} (h : r.looks) : r.aloof := by
  cases r <;> first | exact h.elim | trivial

theorem aloof_of_consults {r : Request} (h : r.consults) : r.aloof := by
  cases r <;> first | exact h.elim | trivial

end Request

/-- The course of the context keeps no grades. -/
def Context.Unkept (flags : GradeFlags) (c : Context) : Prop := flags.persists c.key = false

namespace Lookup

variable {α β : Type} {flags : GradeFlags}

/-- On a course that keeps no grades a lookup is aloof, and what it finds is in `ends`. -/
def Aloof (flags : GradeFlags) (ends : α → Prop) (l : Lookup α) : Prop :=
  Meets .aloof (Context.Unkept flags) l (fun a c => ends a ∧ c.Unkept flags)
    fun _ => Context.Unkept flags

theorem aloof_pure {ends : α → Prop} {a : α} (h : ends a) : Aloof flags ends (pure a) :=
  fun _ start => ⟨h, start⟩

theorem aloof_bind {found : α → Prop} {ends : β → Prop} {l : Lookup α} {f : α → Lookup β}
    (first : Aloof flags found l) (next : ∀ a, found a → Aloof flags ends (f a)) :
    Aloof flags ends (l >>= f) :=
  meets_bind first fun a c h => next a h.1 c h.2

theorem aloof_get {ends : β → Prop} {f : Context → Lookup β}
    (next : ∀ c : Context, c.Unkept flags → Aloof flags ends (f c)) :
    Aloof flags ends (get >>= f) := by
  intro c start
  rw [dialogue_bind, dialogue_get]
  exact next c start c start

/-- What asks for no row on any course is aloof. -/
theorem aloof_within {kinds : Request → Prop} {l : Lookup α} (h : Within kinds l)
    (asks : ∀ r, kinds r → r.aloof) : Aloof flags (fun _ => True) l := by
  have lasting : Context.Lasting .aloof (Context.Unkept flags) :=
    ⟨fun _ _ start _ _ => start, fun _ _ start _ _ => start, fun _ _ start _ _ => start⟩
  exact (h _ _ asks lasting).imp (fun _ start => start) (fun _ _ ended => ⟨trivial, ended⟩)
    fun _ _ ended => ended

theorem aloof_ask {r : Request} (h : r.aloof) : Aloof flags (fun _ => True) (ask r) :=
  have asks : Within Request.aloof (ask r) := within_ask h
  aloof_within asks fun _ asks => asks

end Lookup

open Lookup (Aloof aloof_pure aloof_bind aloof_get aloof_ask aloof_within)

/-! ## One operation -/

namespace GradeEngine

variable (e : GradeEngine) (learner : Learner)

/-- No row is read. -/
theorem aloof_readStored : Aloof e.flags (· = none) (e.readStored learner) := by
  refine aloof_get fun c unkept => ?_
  rw [unkept]
  exact aloof_pure rfl

theorem aloof_createZero : Aloof e.flags ResolvedGrade.Unkept (createZero learner) := by
  refine aloof_get fun c _ => ?_
  refine aloof_bind (aloof_ask trivial) fun _ _ => aloof_pure fun kept same => ?_
  cases same

/-- A breakdown is announced as not kept. -/
theorem aloof_announce (key : CourseKey) (b : GradeBreakdown) :
    Aloof e.flags ResolvedGrade.Unkept (e.announce learner key b false) := by
  have unkept := ResolvedGrade.unkept_ofBreakdown learner.id key b
  have logged (grade : ResolvedGrade) (h : grade.Unkept) : Aloof e.flags ResolvedGrade.Unkept (do
      let full ← Context.fullText
      Lookup.log .info .engine ("Grades: Update, " ++ full ++ ", User: " ++ learner.id.text ++
        ", " ++ grade.text ++ ", persisted: " ++ boolText false)
      pure grade) :=
    aloof_bind (aloof_within Context.within_fullText fun _ => Request.aloof_of_looks) fun _ _ =>
      aloof_bind (aloof_ask trivial) fun _ _ => aloof_pure h
  have told (notice : Notice) (h : notice.Unkept) :
      Aloof e.flags (fun _ => True) (e.dispatch notice) :=
    have asks : Within Request.aloof (e.dispatch notice) :=
      within_dispatch e (fun _ => h) fun _ => trivial
    aloof_within asks fun _ asks => asks
  refine aloof_bind (aloof_within within_availableCourse fun _ => Request.aloof_of_looks)
    fun course _ => aloof_bind (told _ unkept) fun _ _ => ?_
  split
  · exact aloof_bind (told _ trivial) fun _ _ => logged _ unkept
  · exact logged _ unkept

/-- A computation is not kept. -/
theorem aloof_recompute (readOnly : Bool) (known : Option StoredGrade) :
    Aloof e.flags ResolvedGrade.Unkept (e.recompute learner readOnly known) := by
  refine aloof_bind (aloof_ask trivial) fun _ _ => ?_
  refine aloof_bind (aloof_within (e.calculator.consults learner.id)
    fun _ => Request.aloof_of_consults) fun b _ => ?_
  refine aloof_get fun c unkept => ?_
  have kept : e.keeps c.key readOnly b = false := by
    rw [keeps, unkept, Bool.and_false, Bool.false_and]
  dsimp only
  rw [kept, if_neg Bool.false_ne_true]
  exact aloof_announce e learner c.key b

theorem aloof_resolveHere (σ : Strategy) :
    Aloof e.flags ResolvedGrade.Unkept (e.resolveHere learner σ) := by
  cases σ with
  | forceUpdate => exact aloof_recompute e learner false none
  | createIfStale =>
    refine aloof_bind (aloof_readStored e learner) fun found none => ?_
    subst none
    refine aloof_get fun c _ => ?_
    split
    · exact aloof_createZero e learner
    · exact aloof_recompute e learner true none

theorem aloof_readHere :
    Aloof e.flags (fun found => ∀ g, found = some g → g.Unkept) (e.readHere learner) := by
  refine aloof_bind (aloof_readStored e learner) fun found none => ?_
  subst none
  refine aloof_get fun c _ => ?_
  split
  · rw [← bind_pure_comp]
    refine aloof_bind (aloof_createZero e learner) fun g unkept => aloof_pure fun _ same => ?_
    cases same
    exact unkept
  · exact aloof_pure fun g same => by cases same

end GradeEngine

/-! ## One step -/

theorem Dialogue.honors_map {α β : Type} {t : Terms} {ends : β → Prop} (f : α → β)
    (d : Dialogue α) : Honors t ends (f <$> d) ↔ Honors t (fun a => ends (f a)) d := by
  rw [← bind_pure_comp, Dialogue.honors_bind]
  rfl

namespace Lookup

variable {α : Type} {flags : GradeFlags} {ends : α → Prop} {l : Lookup α}

theorem Aloof.honors (h : Aloof flags ends l) {c : Context} (unkept : c.Unkept flags) :
    Honors .aloof (fun r => ∀ a, r.1 = .ok a → ends a) (l.dialogue c) := by
  refine (h c unkept).imp fun r ended a found => ?_
  obtain ⟨f | b, c'⟩ := r
  · cases found
  · cases found
    exact ended.1

/-- An operation on the context of the inputs. -/
theorem Aloof.within (h : Aloof flags ends l) (learner : Learner) {i : CourseInputs}
    (unkept : ∀ key, i.agreedKey = .ok key → flags.persists key = false) :
    Honors .aloof (fun o => ∀ a, o = .ok a → ends a) (GradeEngine.within learner i l) := by
  unfold GradeEngine.within Context.ofInputs
  cases agreed : i.agreedKey with
  | error x => exact fun a found => by cases found
  | ok key =>
    rw [Dialogue.honors_map]
    exact h.honors (c := ⟨some learner.id, key, i.course, i.content, none⟩) (unkept key agreed)

end Lookup

namespace Batch

variable (e : GradeEngine) {b : Batch} (unkept : b.context.Unkept e.flags)
include unkept

theorem aloof_gradeOne (learner : Learner) : Honors .aloof
    (fun r => ∀ g, r.outcome = .ok g → g.Unkept) (b.gradeOne e learner) := by
  unfold gradeOne GradeEngine.resolve
  rw [Dialogue.honors_bind, Dialogue.honors_map]
  refine ((GradeEngine.aloof_resolveHere e learner b.strategy).honors
    (c := b.context.forLearner learner.id) unkept).imp fun r graded => ?_
  obtain ⟨o, c⟩ := r
  cases o with
  | error f => exact ⟨trivial, fun _ _ => ⟨trivial, fun _ _ g found => by cases found⟩⟩
  | ok g => exact ⟨trivial, fun _ _ g' found => graded g' (by cases found; rfl)⟩

omit unkept e in
theorem aloof_close (b : Batch) : Honors .aloof (fun _ => True) b.close := by
  unfold close
  split
  · trivial
  · exact ⟨trivial, fun _ _ => trivial⟩

theorem aloof_next : Honors .aloof
    (fun r => ∀ x g, r.1 = some x → x.outcome = .ok g → g.Unkept) (b.next e) := by
  unfold next
  split
  · next learner rest supply =>
    rw [Dialogue.honors_bind]
    refine (aloof_gradeOne e unkept learner).imp fun r graded x g same found => ?_
    cases same
    exact graded g found
  · rw [Dialogue.honors_bind]
    exact (aloof_close _).imp fun _ _ _ _ none => by cases none
  · rw [Dialogue.honors_bind]
    exact (aloof_close _).imp fun _ _ _ _ none => by cases none

omit unkept b e in
theorem aloof_start (supply : Supply) (i : CourseInputs) (σ : Strategy) :
    Honors .aloof (fun _ => True) (Batch.start supply i σ) := by
  have prepares : Aloof { persistentGradesEnabled := false } (fun _ => True) prepare :=
    aloof_within within_prepare fun _ => Request.aloof_of_looks
  unfold Batch.start
  cases Context.ofInputs none i with
  | error x => trivial
  | ok c =>
    refine (Dialogue.honors_bind _ _ _).2 ((prepares.honors (c := c) rfl).imp fun r _ => ?_)
    obtain ⟨f | u, c'⟩ := r <;> trivial

end Batch

/-- A step that names a course names one that keeps no grades. -/
def Step.Unkept (flags : GradeFlags) (step : Step) : Prop :=
  ∀ i key, step.inputs? = some i → i.agreedKey = .ok key → flags.persists key = false

namespace Session

/-- All contexts at hand are of courses that keep no grades. -/
def Unkept (s : Session) : Prop :=
  ∀ holder c, s.contextAt? holder = some c → c.Unkept s.engine.flags

theorem Idle.unkept {s : Session} (idle : s.Idle) : s.Unkept := fun holder c held => by
  cases (idle.contextAt? holder).symm.trans held

section Step

variable {s : Session} {step : Step}

theorem unkept_grade {o : Except Failure ResolvedGrade} (h : ∀ g, o = .ok g → g.Unkept) :
    (Answer.grade o).Unkept := by
  intro g shown
  cases o with
  | error f => cases shown
  | ok g' =>
    cases shown
    exact h g rfl

/-- An answer without a grade shows none as kept. -/
theorem honors_unseen {a : Answer} (unseen : a.shown? = none) (s' : Session) :
    Honors .aloof (fun r : Answer × Session => r.1.Unkept) (pure (a, s')) :=
  fun g shown => by cases unseen.symm.trans shown

theorem honors_holding {β : Type} {held? : Option β} {next : β → Dialogue (Answer × Session)}
    (h : ∀ b, held? = some b → Honors .aloof (fun r => r.1.Unkept) (next b)) :
    Honors .aloof (fun r => r.1.Unkept) (s.holding held? next) := by
  cases held : held? with
  | none => exact honors_unseen rfl s
  | some b => exact h b held

/-- **On courses that keep no grades a step is aloof.** -/
theorem honors_move (unkept : s.Unkept) (names : step.Unkept s.engine.flags) :
    Honors .aloof (fun r => r.1.Unkept) (s.move step) := by
  have graded (learner : Learner) (σ : Strategy) :=
    GradeEngine.aloof_resolveHere s.engine learner σ
  cases step with
  | create learner i =>
    rw [move, Dialogue.honors_map]
    exact ((graded learner .createIfStale).within learner (names i · rfl)).imp
      fun o => unkept_grade
  | update learner i =>
    rw [move, Dialogue.honors_map]
    exact ((graded learner .forceUpdate).within learner (names i · rfl)).imp fun o => unkept_grade
  | read learner i =>
    rw [move, Dialogue.honors_map]
    refine ((GradeEngine.aloof_readHere s.engine learner).within learner
      (names i · rfl)).imp fun o found g shown => ?_
    cases o with
    | error f => cases shown
    | ok row => exact found row rfl g shown
  | openContext learner i =>
    have unseen : (s.openContext learner i).1.shown? = none := by
      unfold openContext
      split <;> rfl
    exact honors_unseen unseen _
  | resolve n learner σ =>
    refine honors_holding fun c held => ?_
    rw [Dialogue.honors_map, GradeEngine.resolve, Dialogue.honors_map]
    exact ((graded learner σ).honors (unkept (.context n) c held)).imp fun r => unkept_grade
  | resolveIn holder learner σ =>
    refine honors_holding fun c held => ?_
    rw [Dialogue.honors_map]
    exact ((graded learner σ).honors (unkept holder c held)).imp fun r => unkept_grade
  | fork holder learner =>
    have unseen : (s.fork holder learner).1.shown? = none := by
      unfold fork
      split <;> rfl
    exact honors_unseen unseen _
  | consult holder q =>
    refine honors_holding fun c held => ?_
    rw [Dialogue.honors_map]
    exact ((aloof_within (Context.within_consult q) fun _ => Request.aloof_of_looks).honors
      (unkept holder c held)).imp fun r _ g shown => by cases shown
  | startBatch supply i σ =>
    rw [move, Dialogue.honors_map]
    refine (Batch.aloof_start supply i σ).imp fun o _ g shown => ?_
    cases o <;> cases shown
  | nextResult n =>
    refine honors_holding fun b held => ?_
    rw [Dialogue.honors_map]
    refine (Batch.aloof_next s.engine
      (unkept (.batch n) b.context (contextAt?_batch held))).imp fun r answered g shown => ?_
    obtain ⟨_ | ⟨learner, f | g'⟩, b'⟩ := r
    · cases shown
    · cases shown
    · cases shown
      exact answered _ g rfl rfl
  | closeBatch n =>
    refine honors_holding fun b held => ?_
    rw [Dialogue.honors_map]
    exact (Batch.aloof_close b).imp fun _ _ g shown => by cases shown
  | release n =>
    refine honors_holding fun t held => ?_
    split
    · exact ⟨trivial, fun _ _ => honors_unseen (a := .done) rfl _⟩
    · exact honors_unseen (a := .done) rfl _
  | clear key => exact ⟨trivial, fun _ _ => honors_unseen (a := .done) rfl s⟩
  | beginTransaction | record | define | publish | disturb | clock => exact honors_unseen (by rfl) _

/-- The contexts at hand stay such. -/
theorem unkept_step (unkept : s.Unkept) (names : step.Unkept s.engine.flags) :
    (s.step step).2.Unkept := by
  intro holder c held
  rw [step_engine]
  cases step_stems held with
  | kept before follows =>
    rw [Context.Unkept, follows.grows.key]
    exact unkept _ _ before
  | forked learner before => exact (unkept _ _ before :)
  | opened inputs opened => exact names _ _ inputs (Context.agreedKey_of_ofInputs opened)
  | started inputs opened follows content =>
    rw [Context.Unkept, follows.grows.key]
    exact names _ _ inputs (Context.agreedKey_of_ofInputs opened)

end Step

end Session

/-! ## Any store -/

section Over

variable {α τ : Type} {ends : α → Prop} {d : Dialogue α}

/-- An aloof dialogue goes over any store as it goes in the world, and leaves the store alone. -/
theorem Dialogue.run_over (aloof : Honors .aloof ends d) (store : GradeStore τ) (w : World)
    (t : τ) : run store.answer d (w, t) = ((w.run d).1, (w.run d).2, t) := by
  induction d generalizing w t with
  | done a => rfl
  | ask r next ih =>
    have world : store.answer r (w, t) = ((World.answer r w).1, (World.answer r w).2, t) := by
      cases r <;> first | exact aloof.1.elim | rfl
    rw [run_ask, world]
    exact ih _ (aloof.2 _ trivial) _ t

theorem Dialogue.asked_over (aloof : Honors .aloof ends d) (store : GradeStore τ) (s : World × τ) :
    ∀ r ∈ trace store.answer d s, r.aloof := by
  induction d generalizing s with
  | done a => exact fun r asked => by cases asked
  | ask r next ih =>
    intro r' asked
    rcases List.mem_cons.1 asked with rfl | later
    · exact aloof.1
    · exact ih _ (aloof.2 _ trivial) _ r' later

end Over

namespace World

/-- Nobody was told of a grade as kept from the first world to the second. -/
def TellsUnkept (w w' : World) : Prop :=
  ∃ told, w'.deliveries = w.deliveries ++ told ∧ ∀ x ∈ told, x.2.Unkept

theorem TellsUnkept.refl (w : World) : w.TellsUnkept w :=
  ⟨[], (List.append_nil _).symm, fun _ none => by cases none⟩

theorem TellsUnkept.trans {w₁ w₂ w₃ : World} (h : w₁.TellsUnkept w₂) (k : w₂.TellsUnkept w₃) :
    w₁.TellsUnkept w₃ := by
  obtain ⟨first, told, unkept⟩ := h
  obtain ⟨last, told', unkept'⟩ := k
  refine ⟨first ++ last, by rw [told', told, List.append_assoc], fun x among => ?_⟩
  exact (List.mem_append.1 among).elim (unkept x) (unkept' x)

theorem tells_answer {r : Request} (aloof : r.aloof) (w : World) :
    w.TellsUnkept (answer r w).2 := by
  have untold {w' : World} (same : w'.deliveries = w.deliveries) : w.TellsUnkept w' :=
    ⟨[], by rw [same, List.append_nil], fun _ none => by cases none⟩
  cases r with
  | findRow | putRow => exact aloof.elim
  | deliver listener notice =>
    refine ⟨[(listener, notice)], rfl, fun x among => ?_⟩
    rw [List.mem_singleton.1 among]
    exact aloof
  | loadCourse key => exact untold (answer_looks (r := .loadCourse key) trivial w).2
  | loadContent key => exact untold (answer_looks (r := .loadContent key) trivial w).2
  | scoresOf learner key =>
    refine untold ?_
    simp only [answer, scoresOf]
    split <;> rfl
  | groups | clear | computing | clock | log => exact untold rfl

theorem tells_run {α : Type} {ends : α → Prop} {d : Dialogue α} (aloof : Honors .aloof ends d)
    (w : World) : ends (w.run d).1 ∧ w.TellsUnkept (w.run d).2 :=
  aloof.run (fun _ w' before asks => ⟨trivial, before.trans (tells_answer asks w')⟩) (.refl w)

end World

namespace Session

variable {s : Session} {τ : Type}

theorem stepOver_eq (unkept : s.Unkept) {step : Step} (names : step.Unkept s.engine.flags)
    (store : GradeStore τ) (t : τ) :
    s.stepOver store t step = ((s.step step).1, (s.step step).2, t) := by
  simp only [stepOver, Dialogue.run_over (honors_move unkept names) store s.world t, step_move]

/-- A step answers with no grade as kept, and tells of none. -/
theorem step_unkept (unkept : s.Unkept) {step : Step} (names : step.Unkept s.engine.flags) :
    (s.step step).1.Unkept ∧ s.world.TellsUnkept (s.step step).2.world := by
  obtain ⟨answered, told⟩ := World.tells_run (honors_move unkept names) s.world
  rw [step_move]
  refine ⟨answered, told.trans ?_⟩
  simp only [settled]
  have edited : (step.edit (s.world.run (s.move step)).2).deliveries =
      (s.world.run (s.move step)).2.deliveries := by cases step <;> rfl
  exact ⟨[], by rw [edited, List.append_nil], fun _ none => by cases none⟩

/-- **A run on courses that keep no grades** goes over any store as it goes in the world. -/
theorem runOver_eq (unkept : s.Unkept) {steps : List Step}
    (names : ∀ step ∈ steps, step.Unkept s.engine.flags) (store : GradeStore τ) (t : τ) :
    s.runOver store t steps = ((s.run steps).1, (s.run steps).2, t) ∧
      (∀ r ∈ s.askedOver store t steps, r.aloof) ∧ (∀ a ∈ (s.run steps).1, a.Unkept) ∧
      s.world.TellsUnkept (s.run steps).2.world := by
  induction steps generalizing s with
  | nil =>
    exact ⟨rfl, fun r asked => (List.not_mem_nil asked).elim,
      fun a answered => (List.not_mem_nil answered).elim, .refl _⟩
  | cons step rest ih =>
    have here : step.Unkept s.engine.flags := names step List.mem_cons_self
    have later : ∀ other ∈ rest, other.Unkept (s.step step).2.engine.flags := by
      rw [step_engine]
      exact fun other inside => names other (List.mem_cons_of_mem _ inside)
    obtain ⟨answered, told⟩ := step_unkept unkept here
    obtain ⟨same, asked, unkept', told'⟩ := ih (unkept_step unkept here) later
    simp only [runOver, askedOver, run_cons, stepOver_eq unkept here store t, same]
    refine ⟨trivial, fun r among => ?_, fun a among => ?_, told.trans told'⟩
    · rcases List.mem_append.1 among with now | after
      · exact Dialogue.asked_over (honors_move unkept here) store _ r now
      · exact asked r after
    · rcases List.mem_cons.1 among with rfl | after
      · exact answered
      · exact unkept' a after

/-- **Where no grades are kept the store is irrelevant.** Over any two stores, failing ones
included, a run on courses that keep no grades gives the same answers and ends in the same
session, so that the same is delivered; it asks the store nothing and leaves it as it was; and
no grade it computes is answered or told of as kept. -/
theorem unkept_ignores_store (unkept : s.Unkept) (steps : List Step)
    (names : ∀ step ∈ steps, step.Unkept s.engine.flags) {τ τ' : Type} (store : GradeStore τ)
    (store' : GradeStore τ') (t : τ) (t' : τ') :
    let ran := s.runOver store t steps
    let ran' := s.runOver store' t' steps
    ran'.1 = ran.1 ∧ ran'.2.1 = ran.2.1 ∧ ran.2.2 = t ∧ ran'.2.2 = t' ∧
      (∀ r ∈ s.askedOver store t steps, ¬r.forRows) ∧
      (ran.1, ran.2.1) = s.run steps ∧
      (∀ a ∈ ran.1, ∀ g, a.shown? = some g → ∀ kept, g.source = .computed kept → kept = false) ∧
      ∃ told, ran.2.1.world.deliveries = s.world.deliveries ++ told ∧
        ∀ x ∈ told, x.2.Unkept := by
  intro ran ran'
  obtain ⟨here, asked, answers, told⟩ := runOver_eq unkept names store t
  obtain ⟨there, -⟩ := runOver_eq unkept names store' t'
  simp only [ran, ran', here, there]
  refine ⟨trivial, trivial, trivial, trivial, fun r among forRows => ?_, trivial, answers, told⟩
  have aloof := asked r among
  cases r <;> first | exact aloof.elim | exact forRows.elim

/-- A store that counts its calls and fails them all. -/
def GradeStore.failing : GradeStore Nat where
  find _ _ calls := (.error (.backend "unreachable"), calls + 1)
  put _ calls := (.error (.backend "unreachable"), calls + 1)

/-- With no grade kept anywhere, a store out of reach and one that has the rows of somebody else
on record give a learner the same grades, one of them computed; the first is never called. -/
theorem unkept_ignores_failing_store :
    let e : GradeEngine := { Sample.engine with flags := { persistentGradesEnabled := false } }
    let w := Sample.world (Sample.course none ["hw1"])
    let s : Session := { engine := e, world := w.record ⟨1⟩ Sample.key "hw1" Sample.score }
    let i := CourseInputs.ofKey Sample.key
    let steps : List Step := [.create Sample.learner i, .read Sample.learner i,
      .startBatch [some Sample.learner] i .forceUpdate, .nextResult 0]
    let rows : GradeStore (List StoredGrade) :=
      ⟨fun _ _ rows => (.ok rows.head?, rows), fun row rows => (.ok (), row :: rows)⟩
    (∀ known : List StoredGrade,
      (s.runOver rows known steps).1 = (s.runOver GradeStore.failing 0 steps).1) ∧
    (s.runOver GradeStore.failing 0 steps).2.2 = 0 ∧
    ((s.runOver GradeStore.failing 0 steps).1.map fun a => a.shown?.map (·.source)) =
      [some (.computed false), none, none, some (.computed false)] := by
  intro e w s i steps rows
  have idle : s.Idle := ⟨rfl, rfl⟩
  have names : ∀ step ∈ steps, step.Unkept s.engine.flags := fun _ _ _ _ _ _ => rfl
  refine ⟨fun known => ?_, ?_, by decide +kernel⟩
  · exact (unkept_ignores_store idle.unkept steps names GradeStore.failing rows 0 known).1
  · exact (unkept_ignores_store idle.unkept steps names GradeStore.failing rows 0 []).2.2.1

end Session

end Gradebook
