/-
# Gradebook.Proofs.Failing — a failed operation leaves no trace

`World.answerUnder` answers under `Outages`: before each request it is settled anew which
requests fail, and how, so a request may fail once and succeed the next time. Every operation of
an engine is a dialogue that names the failure it ends in (`Operation.failure?`).

`failsFirst` says of the whole dialogue that a failure comes before anything shows. So it holds
under all outages (`failure_leaves_no_trace`): an operation that fails has written no row, told
no listener and cleared no derived data, and does not report that a grade was not found.
-/
import Gradebook.Engine.Batch
import Gradebook.Proofs.Committing

namespace Gradebook

set_option autoImplicit false

open Dialogue (Honors KeptBy Commits commits_bind commits_map commits_of_discreet
  commits_discreet_bind)
open Lookup (Meets Tries Settles crashes tries_pure tries_bind tries_ask tries_throw
  settles_of_discreet)

/-! ## Surroundings that fail at will -/

/-- Which requests fail at the next request, at the one after it, and so on. -/
abbrev Outages : Type := Nat → Faults

namespace Failure

/-- An error of `P`. -/
def IsError (P : GradeError → Prop) (f : Failure) : Prop := ∃ x, f = .error x ∧ P x

/-- An error of `P`, or a crash. -/
def ErrsIn (P : GradeError → Prop) (f : Failure) : Prop := ∀ x, f = .error x → P x

theorem IsError.errsIn {P : GradeError → Prop} {f : Failure} (h : f.IsError P) : f.ErrsIn P := by
  obtain ⟨x, rfl, inside⟩ := h
  rintro y ⟨⟩
  exact inside

/-- The failure that an outcome is, if it is one. -/
def ended? {α : Type} : Except Failure α → Option Failure
  | .ok _ => none
  | .error f => some f

end Failure

/-- The loader reports errors of `P` and does not crash. -/
def Faults.Reports (P : GradeError → Prop) (faults : Faults) : Prop :=
  ∀ f, faults.course = some f ∨ faults.content = some f → f.IsError P

namespace World

/-- The reply to one request, with the faults of the moment. -/
def answerUnder : Dialogue.Answering (World × Outages)
  | r, (w, outages) =>
    let (reply, w) := answer r { w with faults := outages 0 }
    (reply, w, fun n => outages (n + 1))

/-- Carry out a dialogue under outages. -/
def runUnder {α : Type} (w : World) (outages : Outages) (d : Dialogue α) : α × World :=
  let (a, w, _) := Dialogue.run answerUnder d (w, outages)
  (a, w)

theorem loadCourse_error {w : World} {key : CourseKey} {f : Failure}
    (h : (w.loadCourse key).1 = .error f) :
    w.faults.course = some f ∨ ∃ cause, f = .error (.content cause) := by
  simp only [loadCourse] at h
  split at h
  · next fault found =>
    cases h
    exact .inl found
  · cases found : w.source.definition key with
    | ok d =>
      rw [found] at h
      cases h
    | error cause =>
      rw [found] at h
      cases h
      exact .inr ⟨cause, rfl⟩

theorem loadContent_error {w : World} {key : CourseKey} {f : Failure}
    (h : (w.loadContent key).1 = .error f) :
    w.faults.content = some f ∨ ∃ cause, f = .error (.content cause) := by
  simp only [loadContent] at h
  split at h
  · next fault found =>
    cases h
    exact .inl found
  · cases found : w.source.definition key with
    | ok d =>
      rw [found] at h
      cases h
    | error cause =>
      rw [found] at h
      cases h
      exact .inr ⟨cause, rfl⟩

/-- What others see of a world. -/
def seen (w : World) : RowStore × List (Listener × Notice) × Nat :=
  (w.rows, w.deliveries, w.cache.invalidations)

/-- Only what shows changes what is seen. -/
theorem seen_answer {r : Request} {w : World} (h : ¬r.shows (answer r w).1) :
    (answer r w).2.seen = w.seen := by
  cases r with
  | putRow row =>
    simp only [answer, putRow] at h ⊢
    split at h
    · rfl
    · exact absurd rfl h
  | deliver listener notice => exact absurd trivial h
  | clear key => exact absurd trivial h
  | loadCourse key =>
    simp only [answer, loadCourse]
    split <;> rfl
  | loadContent key =>
    simp only [answer, loadContent]
    split <;> rfl
  | findRow learner key =>
    simp only [answer, findRow]
    split <;> rfl
  | scoresOf learner key =>
    simp only [answer, scoresOf]
    split <;> rfl
  | groups key version built =>
    simp only [answer, groups, DerivedCache.groups]
    split <;> rfl
  | computing learner => rfl
  | clock => rfl
  | log entry => rfl

end World

/-- The loader reports errors of `P` and does not crash; nothing else is settled. -/
def Terms.reporting (P : GradeError → Prop) : Terms where
  asks _ := True
  given r reply := match r, reply with
    | .loadCourse _, reply => ∀ f, reply = .error f → f.IsError P
    | .loadContent _, reply => ∀ f, reply = .error f → f.IsError P
    | _, _ => True

section Reporting

variable {P : GradeError → Prop}

/-- A world whose faults are errors reports errors. -/
theorem reporting_answer (own : ∀ cause, P (.content cause)) {w : World}
    (reports : w.faults.Reports P) (r : Request) :
    (Terms.reporting P).given r (World.answer r w).1 := by
  cases r with
  | loadCourse key =>
    intro f failed
    rcases World.loadCourse_error failed with fault | ⟨cause, rfl⟩
    · exact reports f (.inl fault)
    · exact ⟨.content cause, rfl, own cause⟩
  | loadContent key =>
    intro f failed
    rcases World.loadContent_error failed with fault | ⟨cause, rfl⟩
    · exact reports f (.inr fault)
    · exact ⟨.content cause, rfl, own cause⟩
  | _ => trivial

theorem keptBy_answerUnder (own : ∀ cause, P (.content cause)) :
    KeptBy (Terms.reporting P) World.answerUnder fun s => ∀ n, (s.2 n).Reports P :=
  fun r _ reports _ => ⟨reporting_answer own (reports 0) r, fun n => reports (n + 1)⟩

theorem loadable_reporting :
    Context.Loadable (Terms.reporting P) (fun _ => True) (Failure.IsError P) where
  asks _ _ := trivial
  lasting := Context.lasting_true
  course _ f _ given := given f rfl
  content _ f _ given := given f rfl

/-- A loader that reports its errors does not crash. -/
theorem not_crashes_isError {f : Failure} (h : crashes (Failure.IsError P) f) : False := by
  obtain ⟨⟨x, rfl, -⟩, k, crash⟩ := h
  cases crash

end Reporting

namespace Calculator

/-- The calculator ends in errors of `P` if the loader does. It may also crash. -/
def Reports (P : GradeError → Prop) (k : Calculator) : Prop :=
  ∀ learner, Tries ⟨Request.consults, (Terms.reporting P).given⟩ (fun _ => True)
    (Failure.ErrsIn P) (k learner)

/-- Every calculator reports errors. -/
theorem reports_true (k : Calculator) : k.Reports fun _ => True := by
  intro learner
  have consults := k.consults learner ⟨Request.consults, (Terms.reporting fun _ => True).given⟩
    (fun _ => True) (fun _ kind => kind) Context.lasting_true
  exact consults.imp (fun _ start => start) (fun _ _ ended => ended)
    fun _ _ ended => ⟨fun _ _ => trivial, ended⟩

/-- The errors of the weighted calculator itself are errors of calculation. -/
theorem reports_weighted {P : GradeError → Prop} (own : ∀ cause, P (.calculation cause)) :
    weighted.Reports P := by
  have any := loadable_reporting (P := P)
  have loads : Context.Loadable ⟨Request.consults, (Terms.reporting P).given⟩ (fun _ => True)
      (Failure.IsError P) :=
    ⟨fun _ => Request.consults_of_looks, Context.lasting_true, any.course, any.content⟩
  refine tries_weighted loads (fun _ kind => kind) (fun _ => Failure.IsError.errsIn) ?_
  rintro cause x ⟨⟩
  exact own cause

end Calculator

/-! ## Operations -/

theorem Context.isNotFound_ofInputs {learner : Option LearnerId} {i : CourseInputs} {x : GradeError}
    (h : Context.ofInputs learner i = .error x) : x.isNotFound = false := by
  unfold Context.ofInputs at h
  split at h
  · cases h
  · cases h
    rfl

theorem Failure.isNotFound_contained (k : Crash) :
    (Failure.contained (.crash k)).isNotFound = false := rfl

namespace GradeEngine

/-- What is asked of an engine in one go. -/
inductive Operation where
  | create (learner : Learner) (i : CourseInputs)
  | read (learner : Learner) (i : CourseInputs)
  | update (learner : Learner) (i : CourseInputs)
  | resolve (learner : Learner) (c : Context) (s : Strategy)
  | startBatch (supply : Supply) (i : CourseInputs) (s : Strategy)
  /-- The next element of a batch. -/
  | next (b : Batch)

/-- The failure that a call of a batch yields: the error of its element. -/
def elementFailure? (r : Option GradeResult) : Option Failure :=
  r.bind fun result => Failure.ended? (result.outcome.mapError .error)

/-- The operation, and the failure it ends in. -/
def Operation.failure? (e : GradeEngine) : Operation → Dialogue (Option Failure)
  | .create learner i => Failure.ended? <$> e.create learner i
  | .read learner i => Failure.ended? <$> e.read learner i
  | .update learner i => Failure.ended? <$> e.update learner i
  | .resolve learner c s => Failure.ended? <$> e.resolve learner c s
  | .startBatch supply i s => Failure.ended? <$> Batch.start supply i s
  | .next b => (fun r => elementFailure? r.1) <$> b.next e

/-- A failure comes before anything shows, and is an error of `P` or a crash. -/
def FailsFirst (P : GradeError → Prop) (d : Dialogue (Option Failure)) : Prop :=
  Commits (Terms.reporting P) (fun o => ∀ f, o = some f → f.ErrsIn P) (· = none) d

section Operations

variable {P : GradeError → Prop} {α : Type} {l : Lookup α} {e : GradeEngine}

/-- A lookup that settles fails before anything shows, and ends in an answer after. -/
theorem commits_of_settles
    (h : Settles (Terms.reporting P) (fun _ => True) (Failure.ErrsIn P)
      (crashes (Failure.IsError P)) l) (c : Context) :
    Commits (Terms.reporting P) (fun o => ∀ f, o = Except.error f → f.ErrsIn P)
      (fun o => ∃ a, o = Except.ok a) ((·.1) <$> l.dialogue c) := by
  refine commits_map ((h c trivial).imp (fun r ended => ?_) fun r ended => ?_)
  · obtain ⟨(f | a), c⟩ := r
    · rintro g ⟨⟩
      exact ended.1
    · rintro g ⟨⟩
  · obtain ⟨(f | a), c⟩ := r
    · exact (not_crashes_isError ended.1).elim
    · exact ⟨a, rfl⟩

theorem failsFirst_ended {d : Dialogue (Except Failure α)}
    (h : Commits (Terms.reporting P) (fun o => ∀ f, o = Except.error f → f.ErrsIn P)
      (fun o => ∃ a, o = Except.ok a) d) : FailsFirst P (Failure.ended? <$> d) := by
  refine commits_map (h.imp (fun o ended => ?_) fun o ended => ?_)
  · intro f failed
    cases o with
    | ok a => cases failed
    | error g =>
      cases failed
      exact ended _ rfl
  · obtain ⟨a, rfl⟩ := ended
    rfl

theorem tries_prepare :
    Tries (Terms.reporting P).discreet (fun _ => True) (Failure.ErrsIn P) Batch.prepare := by
  have loads := (loadable_reporting (P := P)).discreet
  refine tries_bind ((Context.tries_content loads).imp fun _ => Failure.IsError.errsIn) fun _ => ?_
  refine tries_bind ((tries_availableCourse loads).imp fun _ crashed => ?_) fun _ => tries_pure _
  exact (not_crashes_isError crashed).elim

variable (own : ∀ x : GradeError, x.isNotFound = false → P x)
include own

theorem resolvable_reporting (learner : LearnerId) :
    Resolvable (Terms.reporting P) (fun _ => True) (Failure.IsError P) (Failure.ErrsIn P)
      learner where
  loads := loadable_reporting
  asks _ _ := trivial
  loading _ := Failure.IsError.errsIn
  storing x := by
    rintro y ⟨⟩
    exact own _ rfl

/-- Inputs that name no course, or several, are refused at once. -/
theorem failsFirst_within {learner : Learner} {i : CourseInputs}
    (h : Settles (Terms.reporting P) (fun _ => True) (Failure.ErrsIn P)
      (crashes (Failure.IsError P)) l) :
    FailsFirst P (Failure.ended? <$> within learner i l) := by
  apply failsFirst_ended
  unfold within
  cases opened : Context.ofInputs (some learner.id) i with
  | ok c => exact commits_of_settles h c
  | error x =>
    rintro f ⟨⟩ y ⟨⟩
    exact own _ (Context.isNotFound_ofInputs opened)

theorem failsFirst_start (supply : Supply) (i : CourseInputs) (s : Strategy) :
    FailsFirst P (Failure.ended? <$> Batch.start supply i s) := by
  apply failsFirst_ended
  unfold Batch.start
  cases opened : Context.ofInputs none i with
  | error x =>
    rintro f ⟨⟩ y ⟨⟩
    exact own _ (Context.isNotFound_ofInputs opened)
  | ok c =>
    refine commits_discreet_bind (tries_prepare c trivial) fun r ended => ?_
    obtain ⟨(f | u), c⟩ := r
    · rintro g ⟨⟩
      exact ended.1
    · rintro g ⟨⟩

section Grading

variable (reports : e.calculator.Reports P)
include reports

theorem settles_grading (learner : Learner) (s : Strategy) :
    Settles (Terms.reporting P) (fun _ => True) (Failure.ErrsIn P) (crashes (Failure.IsError P))
      (e.resolveHere learner s) := by
  refine settles_resolveHere (resolvable_reporting own learner.id) ?_ s
  exact Meets.weaken (reports learner.id)
    (fun r kind => ⟨trivial, Request.discreet_of_consults kind⟩) fun _ _ given => given

/-- Logging a result is discreet and does not change it. -/
theorem commits_gradeOne (b : Batch) (learner : Learner) :
    Commits (Terms.reporting P) (fun r => ∀ x, r.outcome = .error x → P x)
      (fun r => ∃ g, r.outcome = .ok g) (b.gradeOne e learner) := by
  have logs {t : Terms} (asks : ∀ entry, t.asks (.log entry)) {ends : GradeResult → Prop}
      (r : GradeResult) (h : ends r) : Honors t ends (do
        b.logResult r
        pure r) := by
    rcases r with ⟨learner, x | g⟩
    · exact ⟨asks _, fun _ _ => ⟨asks _, fun _ _ => h⟩⟩
    · exact ⟨asks _, fun _ _ => h⟩
  refine commits_bind (commits_of_settles (settles_grading own reports learner b.strategy) _)
    (fun o ended => ?_) fun o ended => ?_
  · have contained : ∀ x, o.mapError Failure.contained = .error x → P x := by
      intro x failed
      rcases o with (y | k) | g
      · cases failed
        exact ended _ rfl _ rfl
      · cases failed
        exact own _ (Failure.isNotFound_contained k)
      · cases failed
    exact commits_of_discreet (logs (t := (Terms.reporting P).discreet)
      (fun _ => ⟨trivial, trivial⟩) ⟨learner, o.mapError Failure.contained⟩ contained)
  · obtain ⟨g, rfl⟩ := ended
    exact logs (fun _ => trivial) ⟨learner, .ok g⟩ ⟨g, rfl⟩

theorem failsFirst_next (b : Batch) :
    FailsFirst P ((fun r => elementFailure? r.1) <$> b.next e) := by
  have closes (b : Batch) : FailsFirst P ((fun r => elementFailure? r.1) <$> (do
      let b ← b.close
      pure (none, b) : Dialogue (Option GradeResult × Batch))) := by
    have ended : Honors (Terms.reporting P)
        (fun r : Option GradeResult × Batch => elementFailure? r.1 = none) (do
          let b ← b.close
          pure (none, b)) := by
      unfold Batch.close
      split
      · rfl
      · exact ⟨trivial, fun _ _ => rfl⟩
    refine commits_map (ended.commits fun r none f failed => ?_)
    cases none.symm.trans failed
  unfold Batch.next
  split
  · next learner rest supply =>
    refine commits_map (commits_bind (commits_gradeOne own reports b learner)
      (fun r ended => ?_) fun r ended => ?_)
    · intro f failed x same
      obtain ⟨learner, y | g⟩ := r
      · subst same
        cases failed
        exact ended _ rfl
      · cases failed
    · obtain ⟨learner, o⟩ := r
      obtain ⟨g, rfl⟩ := ended
      rfl
  · exact closes _
  · exact closes b

/-- **Every operation fails before anything of it shows.** -/
theorem failsFirst (op : Operation) : FailsFirst P (op.failure? e) := by
  cases op with
  | create learner i =>
    exact failsFirst_within own (settles_grading own reports learner .createIfStale)
  | update learner i =>
    exact failsFirst_within own (settles_grading own reports learner .forceUpdate)
  | read learner i =>
    exact failsFirst_within own
      (settles_of_discreet (tries_readHere (resolvable_reporting own learner.id) e))
  | resolve learner c s =>
    exact failsFirst_ended (commits_of_settles (settles_grading own reports learner s) c)
  | startBatch supply i s => exact failsFirst_start own supply i s
  | next b => exact failsFirst_next own reports b

end Grading

end Operations

/-- **A failed operation leaves no trace.** Whatever the state and whatever requests fail, an
operation that ends in a failure, or a batch's call whose element is an error, has changed no
row, told no listener and cleared no derived data. And unless the calculator or the loader do,
it does not report that a grade was not found. -/
theorem failure_leaves_no_trace (e : GradeEngine) (w : World) (outages : Outages)
    (calm : ∀ n, (outages n).Reports fun _ => True) (op : Operation) {f : Failure}
    (failed : (w.runUnder outages (op.failure? e)).1 = some f) :
    (w.runUnder outages (op.failure? e)).2.rows = w.rows ∧
      (w.runUnder outages (op.failure? e)).2.deliveries = w.deliveries ∧
      (w.runUnder outages (op.failure? e)).2.cache.invalidations = w.cache.invalidations ∧
      (e.calculator.Reports (fun x => x.isNotFound = false) →
        (∀ n, (outages n).Reports fun x => x.isNotFound = false) →
        ∀ learner key, f ≠ .error (.notFound learner key)) := by
  have run {P : GradeError → Prop} (own : ∀ x : GradeError, x.isNotFound = false → P x)
      (reports : e.calculator.Reports P) (calm : ∀ n, (outages n).Reports P) :
      f.ErrsIn P ∧ (w.runUnder outages (op.failure? e)).2.seen = w.seen := by
    have first := failsFirst own reports op
    have kept := keptBy_answerUnder fun cause => own (.content cause) rfl
    have hides (r : Request) (s : World × Outages) (_ : ∀ n, (s.2 n).Reports P)
        (hidden : ¬r.shows (World.answerUnder r s).1) :
        (World.answerUnder r s).2.1.seen = s.1.seen := World.seen_answer hidden
    have start : ∀ n, ((w, outages).2 n).Reports P := calm
    rcases first.run kept (fun s => s.1.seen) hides start with ⟨early, same⟩ | late
    · exact ⟨early f failed, same⟩
    · cases late.symm.trans failed
  obtain ⟨-, same⟩ := run (fun _ _ => trivial) e.calculator.reports_true calm
  have parts := Prod.mk.inj same
  refine ⟨parts.1, (Prod.mk.inj parts.2).1, (Prod.mk.inj parts.2).2, ?_⟩
  intro reports loads learner key absent
  obtain ⟨errs, -⟩ := run (fun _ h => h) reports loads
  cases errs _ absent

/-- The store refuses the row of an update: it is not written, and nobody is told. -/
theorem failure_leaves_no_trace_refused :
    let e : GradeEngine := { Sample.engine with listeners := [.logging] }
    let w := Sample.world (Sample.course none ["hw1"])
    let outages : Outages := fun _ => { putRow := some (.backend "disk full") }
    let update := (Operation.update Sample.learner (.ofKey Sample.key)).failure? e
    ∃ f, (w.runUnder outages update).1 = some f ∧
      (w.runUnder outages update).2.rows = w.rows ∧
      (w.runUnder outages update).2.deliveries = [] ∧
      (w.runUnder outages update).2.cache.invalidations = 0 ∧
      ∀ learner key, f ≠ .error (.notFound learner key) := by
  intro e w outages update
  have refused : (w.runUnder outages update).1.isSome = true := by decide +kernel
  obtain ⟨f, failed⟩ := Option.isSome_iff_exists.1 refused
  have loads (P : GradeError → Prop) (n : Nat) : (outages n).Reports P := by
    rintro f (fault | fault) <;> cases fault
  obtain ⟨rows, deliveries, invalidations, found⟩ := failure_leaves_no_trace e w outages (loads _)
    (.update Sample.learner (.ofKey Sample.key)) failed
  refine ⟨f, failed, rows, deliveries, invalidations, ?_⟩
  exact found (Calculator.reports_weighted fun _ => rfl) (loads _)

end GradeEngine

end Gradebook
