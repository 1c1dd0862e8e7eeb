/-
# Gradebook.Proofs.Lockout — the percent that locks its row

A store of encoded rows takes every row and gives back those whose text reads back. The
engine looks for the row on record before it writes over it (`GradeEngine.Upserted`), so a
row that does not read back is never written over: `run_unreadable` says so of every run,
whatever is computed, loaded or disturbed in it.

A row that was kept reads back exactly if its percent does, since all else about it does:
its instants are those of the clock, of the content and of rows that were read, which the
calendar covers (`World.InCalendar`). So `kept_percent_decides` can tell from the grade
answered whether the engine may use its row from then on or is locked out of it.
-/
import Gradebook.Proofs.LearnerView
import Gradebook.Proofs.RowRefinement
import Gradebook.Proofs.ServedBack
import Gradebook.Proofs.Upserting

namespace Gradebook

set_option autoImplicit false

open Dialogue (KeptBy)
open Lookup (Tries Within crashes tries_bind tries_pure tries_get tries_throw)

/-! ## Dates that the calendar covers -/

/-- The calendar covers the times of edit at hand. -/
structure Context.InCalendar (c : Context) : Prop where
  course : ∀ x ∈ c.course?, ∀ t ∈ x.editedOn, t.Representable
  content : ∀ x ∈ c.content?, ∀ t ∈ x.editedOn, t.Representable

/-- What is at hand stays at hand. -/
theorem Context.InCalendar.of_extends {c c' : Context} (h : c'.InCalendar) (grows : c.Extends c') :
    c.InCalendar where
  course x held := h.course x (grows.course x held)
  content x held := h.content x (grows.content x held)

namespace World

/-- The calendar covers the clock and the times of edit on offer. -/
structure InCalendar (w : World) : Prop where
  now : w.now.Representable
  course : ∀ key x, (w.loadCourse key).1 = .ok x → ∀ t ∈ x.editedOn, t.Representable
  content : ∀ key x, (w.loadContent key).1 = .ok x → ∀ t ∈ x.editedOn, t.Representable

namespace InCalendar

variable {w w' : World} {c : Context} (h : w.InCalendar)
include h

theorem same (same : w.SameSource w') (now : w'.now = w.now) : w'.InCalendar where
  now := now.symm ▸ h.now
  course key x loaded := h.course key x ((same.loadCourse_eq key).symm.trans loaded)
  content key x loaded := h.content key x ((same.loadContent_eq key).symm.trans loaded)

/-- Loads fill a context with what is on offer. -/
theorem lasting (kinds : Request → Prop) :
    Context.Lasting ⟨kinds, (w.terms kinds).given⟩ Context.InCalendar where
  course c x dated _ given := by
    refine ⟨?_, dated.content⟩
    rintro _ ⟨⟩
    exact h.course c.key x (Eq.symm given)
  content c x dated _ given := by
    refine ⟨dated.course, ?_⟩
    rintro _ ⟨⟩
    exact h.content c.key x (Eq.symm given)
  hash _ _ dated _ _ := ⟨dated.course, dated.content⟩

/-- Whatever is asked on the way, a lookup ends in a context of the calendar. -/
theorem look {α : Type} {l : Lookup α} {kinds : Request → Prop} (within : Within kinds l)
    (dated : c.InCalendar) : (w.look l c).1.2.InCalendar := by
  have kept : KeptBy ⟨kinds, (w.terms kinds).given⟩ answer w.SameSource := by
    intro r w' same _
    refine ⟨?_, same.trans (sameSource_answer r w')⟩
    cases r with
    | loadCourse key => exact same.loadCourse_eq key
    | loadContent key => exact same.loadContent_eq key
    | _ => trivial
  have ended := (look_meets (within _ _ (fun _ kind => kind) (h.lasting kinds)) kept
    ⟨rfl, rfl⟩ dated).1
  generalize w.look l c = r at ended ⊢
  obtain ⟨⟨f | a, c'⟩, w'⟩ := r <;> exact ended

theorem editedAtOf (dated : c.InCalendar) {t? : Option Instant} (found : w.editedAtOf c = .ok t?) :
    ∀ t ∈ t?, t.Representable := by
  rw [World.editedAtOf] at found
  cases described : c.course? with
  | some x =>
    rw [described] at found
    cases found
    exact dated.course x described
  | none =>
    simp only [described, contentOf] at found
    cases held : c.content? with
    | some x =>
      rw [held] at found
      cases found
      exact dated.content x held
    | none =>
      rw [held] at found
      cases loaded : (w.loadContent c.key).1 with
      | error f =>
        simp only [loaded] at found
        cases found
      | ok x =>
        simp only [loaded] at found
        cases found
        exact h.content c.key x loaded

end InCalendar

end World

/-- The row of a record has its instants from the clock, the content and the row before. -/
theorem StoredGrade.inCalendar_of_record {w : World} {c : Context} {learner : LearnerId}
    {b : GradeBreakdown} {previous : Option StoredGrade} {row : StoredGrade} (h : w.InCalendar)
    (dated : c.InCalendar) (before : ∀ row ∈ previous, row.InCalendar)
    (recorded : (w.look (record learner b previous w.now) c).1.1 = .ok row) : row.InCalendar := by
  rw [look_record] at recorded
  obtain ⟨version, -, recorded⟩ := Document.ok_of_bind recorded
  obtain ⟨editedAt, edited, recorded⟩ := Document.ok_of_bind recorded
  obtain ⟨hash, -, recorded⟩ := Document.ok_of_bind recorded
  cases recorded
  refine ⟨h.editedAtOf dated edited, ?_, ?_, h.now⟩
  · intro t passed
    simp only at passed
    split at passed
    · cases passed
      cases previous with
      | none => exact h.now
      | some row =>
        have since := (before row rfl).passedAt
        simp only [Option.bind_some]
        cases moment : row.passedAt with
        | none => exact h.now
        | some t => exact since t moment
    · cases passed
  · cases previous with
    | none => exact h.now
    | some row => exact (before row rfl).createdAt

/-! ## What becomes of the rows -/

namespace RowStore

/-- A row written hides no other. -/
theorem find?_put_of_ne (s : RowStore) {row : StoredGrade} {learner : LearnerId}
    {key : CourseKey} (other : ¬(row.learner = learner ∧ row.courseKey = key)) :
    (s.put row).find? learner key = s.find? learner key := by
  cases s with
  | memory rows =>
    have memory : (RowStore.memory rows).InMemory := trivial
    rw [find?_put memory, if_neg other]
  | encoded rows =>
    have keys : ¬EncodedRows.keyOf row.learner row.courseKey = EncodedRows.keyOf learner key :=
      fun same => other (EncodedRows.keyOf_inj same)
    simp only [put, find?, EncodedRows.find?, EncodedRows.put, ByteTable.find?_put, if_neg keys]

end RowStore

namespace EncodedRows

theorem find?_put_self (rows : EncodedRows) (row : StoredGrade) :
    (rows.put row).find? row.learner row.courseKey = (decode (encode row)).map some := by
  rw [find?, put, ByteTable.find?_put, if_pos rfl]

theorem inCalendar_of_find? {rows : EncodedRows} {learner : LearnerId} {key : CourseKey}
    {row : StoredGrade} (h : rows.find? learner key = .ok (some row)) : row.InCalendar := by
  rw [find?] at h
  split at h
  · cases h
  · next text _ =>
    cases read : decode text with
    | error x =>
      rw [read] at h
      cases h
    | ok row' =>
      rw [read] at h
      cases h
      exact inCalendar_of_decode read

end EncodedRows

theorem World.find?_of_findRow {w : World} {learner : LearnerId} {key : CourseKey}
    {found : Option StoredGrade} (h : (w.findRow learner key).1 = .ok found) :
    w.rows.find? learner key = .ok found := by
  rw [findRow] at h
  split at h
  · cases h
  · exact h

namespace GradeEngine

/-- What becomes of the rows in a resolution, whatever computes: none is written, or the row of
the breakdown that is answered, over what was found on record. -/
inductive Upserted (e : GradeEngine) (w : World) (learner : Learner) (c : Context)
    (o : Except Failure ResolvedGrade) (w' : World) : Prop where
  | nothing (rows : w'.rows = w.rows) (writes : w'.writes = w.writes)
      (answer : ∀ g, o = .ok g → g.source ≠ .computed true)
  | row (row : StoredGrade) (b : GradeBreakdown) (previous : Option StoredGrade)
      (persists : e.flags.persists c.key = true)
      (found : (w.findRow learner.id c.key).1 = .ok previous)
      (keeps : row.Keeps learner.id c.key b)
      (dated : w.InCalendar → c.InCalendar → (∀ row ∈ previous, row.InCalendar) → row.InCalendar)
      (rows : w'.rows = w.rows.put row) (writes : w'.writes = w.writes + 1)
      (answer : ∀ g, o = .ok g → g = .ofBreakdown learner.id c.key b true)

variable {e : GradeEngine} {w : World} {learner : Learner} {c : Context}

theorem Upserted.quiet {o : Except Failure ResolvedGrade} {w' w'' : World}
    (h : Upserted e w learner c o w') (quiet : w'.Quiet w'') : Upserted e w learner c o w'' := by
  cases h with
  | nothing rows writes answer =>
    exact .nothing (quiet.rows.trans rows) (quiet.writes.trans writes) answer
  | row row b previous persists found keeps dated rows writes answer =>
    exact .row row b previous persists found keeps dated (quiet.rows.trans rows)
      (quiet.writes.trans writes) answer

/-- A recomputation, over a row found or over what there is. -/
theorem upserted_recompute {w₀ : World} {c₀ : Context} (follows : w.Follows c c₀)
    (quiet : w.Quiet w₀) {readOnly : Bool} {known : Option StoredGrade}
    (read : ∀ row, known = some row → (w.findRow learner.id c.key).1 = .ok (some row))
    (filled : w.InCalendar → c.InCalendar →
      (w₀.look (e.recompute learner readOnly known) c₀).1.2.InCalendar) :
    Upserted e w learner c (w₀.look (e.recompute learner readOnly known) c₀).1.1
      (w₀.look (e.recompute learner readOnly known) c₀).2 := by
  obtain ⟨steady, follows₁⟩ := look_computing e follows quiet learner.id
  rw [look_recompute, World.look_bind] at filled ⊢
  generalize (begun w₀).look (e.calculator learner.id) c₀ = r at steady follows₁ filled
  obtain ⟨⟨outcome, c₁⟩, w₁⟩ := r
  have rows : w₁.rows = w.rows := steady.rows
  have writes : w₁.writes = w.writes := steady.writes
  have same : w.SameSource w₁ := ⟨steady.source, steady.faults⟩
  have key : c₁.key = c.key := follows₁.grows.key
  cases outcome with
  | error f => exact .nothing rows writes fun g answered => by cases answered
  | ok b =>
    obtain ⟨follows₂, concluded⟩ := conclude_cases e w₁ learner readOnly known b c₁
    cases concluded with
    | unwritten after answer =>
      refine .nothing (after.rows.trans rows) (after.writes.trans writes) fun g answered => ?_
      rw [(answer g answered).2]
      exact fun same => by cases same
    | written previous row keeps found recorded after answer =>
      have persists : e.flags.persists c.key = true := by
        rw [GradeEngine.keeps, Bool.and_eq_true, Bool.and_eq_true, key] at keeps
        exact keeps.1.2
      have on_record : (w.findRow learner.id c.key).1 = .ok previous := by
        cases known with
        | some row =>
          cases found
          exact read row rfl
        | none =>
          rw [← World.findRow_eq (w := w) steady.faults steady.rows, ← key]
          exact found
      refine .row row b previous persists on_record ?_ (fun h dated before => ?_) ?_ ?_
        fun g answered => ?_
      · exact key ▸ (StoredGrade.keeps_of_record recorded).1
      · have dated₁ : c₁.InCalendar := (filled h dated).of_extends follows₂.grows
        exact StoredGrade.inCalendar_of_record (h.same same steady.now) dated₁ before recorded
      · exact after.rows.trans (congrArg (·.put row) rows)
      · exact after.writes.trans (congrArg (· + 1) writes)
      · rw [← key]
        exact answer g answered

/-- A row to write over that is known was found. -/
theorem plan_known {learner : LearnerId} {s : Strategy} {readOnly : Bool} {row : StoredGrade}
    (h : e.plan w learner c s = .compute readOnly (some row)) :
    (w.findRow learner c.key).1 = .ok (some row) := by
  have absent (h : e.planAbsent c.key = .compute readOnly (some row)) : False := by
    unfold planAbsent at h
    split at h <;> cases h
  cases s with
  | forceUpdate => cases h
  | createIfStale =>
    rw [plan] at h
    split at h
    · generalize (w.findRow learner c.key).1 = found at h ⊢
      rcases found with x | _ | row'
      · cases h
      · exact (absent h).elim
      · simp only [planStored] at h
        split at h
        · cases h
        · split at h
          · cases h
          · cases h
            rfl
    · exact (absent h).elim

/-- **What a resolution does to the rows.** -/
theorem upserted (e : GradeEngine) (w : World) (learner : Learner) (c : Context) (s : Strategy) :
    Upserted e w learner c (w.look (e.resolveHere learner s) c).1.1
      (w.look (e.resolveHere learner s) c).2 := by
  have filled (h : w.InCalendar) (dated : c.InCalendar) :=
    h.look (within_resolveHere (fun _ _ => trivial) (fun _ _ => trivial) e learner s) dated
  obtain ⟨c₀, w₀, follows, quiet, planned⟩ := look_resolveHere e w learner c s
  have unwritten {o : Except Failure ResolvedGrade}
      (answer : ∀ g, o = .ok g → g.source ≠ .computed true) : Upserted e w learner c o w₀ :=
    .nothing quiet.rows quiet.writes answer
  rw [planned] at filled ⊢
  cases plan : e.plan w learner.id c s with
  | serve row =>
    refine unwritten fun g answered => ?_
    cases answered
    exact GradeSource.noConfusion
  | zero =>
    refine unwritten fun g answered => ?_
    cases answered
    exact GradeSource.noConfusion
  | fail f => exact unwritten fun g answered => by cases answered
  | compute readOnly known =>
    rw [plan] at filled
    refine upserted_recompute follows quiet (fun row same => ?_) filled
    subst same
    exact plan_known plan

end GradeEngine

namespace Session

/-- **What a step does to the rows**, whatever the calculator. -/
theorem step_upserted (s : Session) (step : Step) :
    ((s.step step).2.world.rows = s.world.rows ∧
      (s.step step).2.world.writes = s.world.writes ∧ (s.step step).1.grade? = none) ∨
    ∃ graded strategy c o, s.resolving? step = some (graded, strategy, c) ∧
      (s.step step).1.grade? = Except.toOption o ∧
      GradeEngine.Upserted s.engine s.world graded c o (s.step step).2.world := by
  cases resolving : s.resolving? step with
  | none =>
    obtain ⟨passed, unanswered⟩ := step_passed resolving
    exact .inl ⟨passed.rows.1, passed.rows.2, unanswered⟩
  | some graded =>
    obtain ⟨graded, strategy, c⟩ := graded
    obtain ⟨quiet, answered⟩ := step_resolving resolving
    have upserted := GradeEngine.upserted s.engine s.world graded c strategy
    exact .inr ⟨graded, strategy, c, _, rfl, answered, upserted.quiet quiet⟩

/-! ### Rows that cannot be read -/

section Unreadable

variable {learner : LearnerId} {key : CourseKey} {cause : StorageError}

/-- A step does not write over a row that cannot be read: it would have had to read it first. -/
theorem step_unreadable {s : Session} (unreadable : s.world.rows.find? learner key = .error cause)
    (step : Step) : (s.step step).2.world.rows.find? learner key = .error cause := by
  rcases step_upserted s step with ⟨rows, -, -⟩ | ⟨graded, strategy, c, o, -, -, upserted⟩
  · rw [rows]
    exact unreadable
  · cases upserted with
    | nothing rows writes answer =>
      rw [rows]
      exact unreadable
    | row row b previous persists found keeps dated rows writes answer =>
      have other : ¬(row.learner = learner ∧ row.courseKey = key) := by
        rintro ⟨rfl, rfl⟩
        have read := World.find?_of_findRow found
        rw [← keeps.learner, ← keeps.courseKey, unreadable] at read
        cases read
      rw [rows, RowStore.find?_put_of_ne _ other]
      exact unreadable

/-- **A row that cannot be read is there for good.** -/
theorem run_unreadable {s : Session} (unreadable : s.world.rows.find? learner key = .error cause)
    (steps : List Step) : (s.run steps).2.world.rows.find? learner key = .error cause :=
  run_keeps (P := fun s => s.world.rows.find? learner key = .error cause)
    (fun _ step _ held => step_unreadable held step) unreadable

end Unreadable

/-! ### Rows that nobody writes over -/

/-- A step that writes the row of a learner in a course. -/
def Upserts (s : Session) (learner : LearnerId) (key : CourseKey) (step : Step) : Prop :=
  ∃ row, row.learner = learner ∧ row.courseKey = key ∧
    (s.step step).2.world.rows = s.world.rows.put row ∧
    (s.step step).2.world.writes = s.world.writes + 1

/-- No step of these writes the row of a learner in a course. -/
def Spares (learner : LearnerId) (key : CourseKey) : Session → List Step → Prop
  | _, [] => True
  | s, step :: rest => ¬s.Upserts learner key step ∧ Spares learner key (s.step step).2 rest

/-- Steps that grade nobody write no row. -/
theorem not_upserts {s : Session} {learner : LearnerId} {key : CourseKey} {step : Step}
    (h : s.resolving? step = none) : ¬s.Upserts learner key step := by
  rintro ⟨row, -, -, -, writes⟩
  have unwritten := (step_passed h).1.rows.2
  omega

theorem step_spared {s : Session} {learner : LearnerId} {key : CourseKey} {step : Step}
    (spared : ¬s.Upserts learner key step) :
    (s.step step).2.world.rows.find? learner key = s.world.rows.find? learner key := by
  rcases step_upserted s step with ⟨rows, -, -⟩ | ⟨graded, strategy, c, o, -, -, upserted⟩
  · rw [rows]
  · cases upserted with
    | nothing rows writes answer => rw [rows]
    | row row b previous persists found keeps dated rows writes answer =>
      have other : ¬(row.learner = learner ∧ row.courseKey = key) := fun ⟨own, same⟩ =>
        spared ⟨row, own, same, rows, writes⟩
      rw [rows, RowStore.find?_put_of_ne _ other]

theorem run_spared {learner : LearnerId} {key : CourseKey} (s : Session) {steps : List Step}
    (spared : Spares learner key s steps) :
    (s.run steps).2.world.rows.find? learner key = s.world.rows.find? learner key := by
  induction steps generalizing s with
  | nil => rfl
  | cons step rest ih => exact (ih _ spared.2).trans (step_spared spared.1)

end Session

/-! ## Errors of the store -/

namespace Session

/-- Which requests fail changes with the steps that say so, and no others. -/
theorem step_faults {s : Session} {step : Step} (calm : ∀ faults, step ≠ .disturb faults) :
    (s.step step).2.world.faults = s.world.faults := by
  cases resolving : s.resolving? step with
  | some graded => exact (sameSource_of_resolving resolving).faults
  | none =>
    cases (step_passed resolving).1 with
    | quiet h => exact h.faults
    | disturbed faults of => exact absurd of (calm faults)
    | cleared | scored | defined | published | clocked => next h => exact congrArg (·.faults) h

theorem run_faults {s : Session} {steps : List Step}
    (calm : ∀ step ∈ steps, ∀ faults, step ≠ .disturb faults) :
    (s.run steps).2.world.faults = s.world.faults :=
  run_keeps (P := fun s' => s'.world.faults = s.world.faults)
    (fun _ step inside same => (step_faults (calm step inside)).trans same) rfl

end Session

/-- An error of the store. -/
def Failure.ofStore : Failure → Bool
  | .error (.storage _) => true
  | _ => false

/-- An operation ended in an error of the store. -/
def Answer.ofStore : Answer → Bool
  | .grade (.error f) | .found (.error f) => f.ofStore
  | _ => false

/-- The loader reports no error of the store. -/
def Faults.Storeless (faults : Faults) : Prop :=
  ∀ f, faults.course = some f ∨ faults.content = some f → f.ofStore = false

/-- What is loaded does not end in an error of the store; nothing else is settled. -/
def Terms.storeless : Terms where
  asks _ := True
  given r reply := match r, reply with
    | .loadCourse _, reply => ∀ f, reply = .error f → f.ofStore = false
    | .loadContent _, reply => ∀ f, reply = .error f → f.ofStore = false
    | _, _ => True

/-- The calculator reports no error of the store if the loader does not. -/
def Calculator.Storeless (k : Calculator) : Prop :=
  ∀ learner, Tries ⟨Request.consults, Terms.storeless.given⟩ (fun _ => True)
    (fun f => f.ofStore = false) (k learner)

theorem keptBy_storeless : KeptBy Terms.storeless World.answer fun w => w.faults.Storeless := by
  intro r w storeless _
  have still : (World.answer r w).2.faults.Storeless := by
    rw [(World.sameSource_answer r w).faults]
    exact storeless
  refine ⟨?_, still⟩
  cases r with
  | loadCourse key =>
    intro f failed
    rcases World.loadCourse_error failed with fault | ⟨cause, rfl⟩
    · exact storeless f (.inl fault)
    · rfl
  | loadContent key =>
    intro f failed
    rcases World.loadContent_error failed with fault | ⟨cause, rfl⟩
    · exact storeless f (.inr fault)
    · rfl
  | _ => trivial

theorem loadable_storeless :
    Context.Loadable Terms.storeless (fun _ => True) fun f => f.ofStore = false where
  asks _ _ := trivial
  lasting := Context.lasting_true
  course _ f _ given := given f rfl
  content _ f _ given := given f rfl

/-- A lookup that tries without errors of the store, in surroundings that have none. -/
theorem Lookup.Tries.look_storeless {α : Type} {l : Lookup α} {t : Terms}
    (h : Tries t (fun _ => True) (fun f => f.ofStore = false) l)
    (given : ∀ r reply, Terms.storeless.given r reply → t.given r reply) {w : World}
    (storeless : w.faults.Storeless) {c : Context} {f : Failure}
    (failed : (w.look l c).1.1 = .error f) : f.ofStore = false := by
  have weak : Tries Terms.storeless (fun _ => True) (fun f => f.ofStore = false) l :=
    Lookup.Meets.weaken h (fun _ _ => trivial) given
  have ended := (World.look_meets weak keptBy_storeless storeless (c := c) trivial).1
  generalize w.look l c = r at ended failed
  obtain ⟨⟨o, c'⟩, w'⟩ := r
  simp only at failed
  subst failed
  exact ended.1

theorem loadable_consulting :
    Context.Loadable ⟨Request.consults, Terms.storeless.given⟩ (fun _ => True)
      fun f => f.ofStore = false where
  asks _ := Request.consults_of_looks
  lasting := Context.lasting_true
  course := loadable_storeless.course
  content := loadable_storeless.content

/-- The weighted calculator reports scores that cannot be read as an error of its own. -/
theorem Calculator.storeless_weighted : weighted.Storeless :=
  tries_weighted loadable_consulting (fun _ kind => kind) (fun _ h => h) fun _ => rfl

/-- Nor does one that answers from a script. -/
theorem Calculator.storeless_scripted (b : GradeBreakdown) (looks : Bool) (t : Trouble) :
    (scripted b looks t).Storeless := by
  intro learner
  have guards : Tries ⟨Request.consults, Terms.storeless.given⟩ (fun _ => True)
      (fun f => f.ofStore = false) (t.guard learner) := by
    unfold Trouble.guard
    split
    · exact tries_throw rfl
    · split
      · exact tries_throw rfl
      · exact tries_pure _
  have rest := tries_bind guards fun _ => tries_pure b
  cases looks with
  | false => exact rest
  | true => exact tries_bind (Context.tries_content loadable_consulting) fun _ => rest

namespace GradeEngine

section Storeless

variable {e : GradeEngine} {w : World} {learner : Learner} {c : Context}
  (storeless : w.faults.Storeless)
include storeless

theorem record_storeless {learner : LearnerId} {b : GradeBreakdown}
    {previous : Option StoredGrade} {now : Instant} {f : Failure}
    (failed : (w.look (StoredGrade.record learner b previous now) c).1.1 = .error f) :
    f.ofStore = false := by
  have loads := loadable_storeless
  have tries : Tries Terms.storeless (fun _ => True) (fun f => f.ofStore = false)
      (StoredGrade.record learner b previous now) :=
    tries_bind (Context.tries_contentVersion loads) fun _ =>
      tries_bind (Context.tries_contentEditedAt loads) fun _ =>
        tries_bind (Context.tries_policyHash loads) fun _ =>
          tries_bind tries_get fun _ => tries_pure _
  exact tries.look_storeless (fun _ _ given => given) storeless failed

/-- Where the row before is found and the row is taken, keeping fails with the loader only. -/
theorem keep_storeless {known previous : Option StoredGrade} {b : GradeBreakdown} {f : Failure}
    (found : previousOf w learner.id c.key known = .ok previous) (takes : w.faults.putRow = none)
    (failed : (w.look (keep learner known b) c).1.1 = .error f) : f.ofStore = false := by
  have quiet := World.look_quiet (StoredGrade.within_record learner.id b previous w.now) w c
  have errors (f : Failure)
      (failed : (w.look (StoredGrade.record learner.id b previous w.now) c).1.1 = .error f) :
      f.ofStore = false := record_storeless storeless failed
  rw [look_keep, found] at failed
  simp only at failed
  generalize w.look (StoredGrade.record learner.id b previous w.now) c = r at quiet errors failed
  obtain ⟨⟨g | row, c'⟩, w'⟩ := r
  · cases failed
    exact errors f rfl
  · have takes' : w'.faults.putRow = none := quiet.faults.symm ▸ takes
    simp only [World.putRow, takes'] at failed
    cases failed

theorem announce_storeless {key : CourseKey} {b : GradeBreakdown} {kept : Bool} {f : Failure}
    (failed : (w.look (e.announce learner key b kept) c).1.1 = .error f) : f.ofStore = false := by
  have tells (listener : Listener) (notice : Notice) (_ : notice.learner = learner.id) :
      Terms.storeless.asks (.deliver listener notice) := trivial
  have tries : Tries Terms.storeless (fun _ => True) (fun f => f.ofStore = false)
      (e.announce learner key b kept) :=
    (tries_announce tells e loadable_storeless key b kept).imp fun _ crashed => crashed.1
  exact tries.look_storeless (fun _ _ given => given) storeless failed

theorem conclude_storeless {readOnly : Bool} {known previous : Option StoredGrade}
    {b : GradeBreakdown} {f : Failure}
    (found : previousOf w learner.id c.key known = .ok previous) (takes : w.faults.putRow = none)
    (failed : (w.look (e.conclude learner readOnly known b) c).1.1 = .error f) :
    f.ofStore = false := by
  simp only [conclude, World.look_bind w c get, World.look_get] at failed
  split at failed
  · have keeps (f : Failure) (failed : (w.look (keep learner known b) c).1.1 = .error f) :
        f.ofStore = false := keep_storeless storeless found takes failed
    obtain ⟨-, kept⟩ := keep_cases w learner known b c
    rw [World.look_bind] at failed
    generalize w.look (keep learner known b) c = r at keeps kept failed
    obtain ⟨⟨g | u, c₁⟩, w₁⟩ := r
    · cases failed
      exact keeps f rfl
    · have same : w₁.faults = w.faults := by
        rcases kept with ⟨f, none, -⟩ | ⟨previous, row, w₀, -, -, quiet, -, rfl⟩
        · cases none
        · exact quiet.faults
      exact announce_storeless (same.symm ▸ storeless) failed
  · exact announce_storeless storeless failed

variable (computes : e.calculator.Storeless)
include computes

theorem recompute_storeless {w₀ : World} {c₀ : Context} (follows : w.Follows c c₀)
    (quiet : w.Quiet w₀) {readOnly : Bool} {known previous : Option StoredGrade} {f : Failure}
    (found : previousOf w learner.id c.key known = .ok previous) (takes : w.faults.putRow = none)
    (failed : (w₀.look (e.recompute learner readOnly known) c₀).1.1 = .error f) :
    f.ofStore = false := by
  obtain ⟨steady, follows₁⟩ := look_computing e follows quiet learner.id
  have storeless₀ : (begun w₀).faults.Storeless := quiet.faults.symm ▸ storeless
  have fails (f : Failure)
      (failed : ((begun w₀).look (e.calculator learner.id) c₀).1.1 = .error f) :
      f.ofStore = false :=
    (computes learner.id).look_storeless (fun _ _ given => given) storeless₀ failed
  rw [look_recompute, World.look_bind] at failed
  generalize (begun w₀).look (e.calculator learner.id) c₀ = r at steady follows₁ fails failed
  obtain ⟨⟨g | b, c₁⟩, w₁⟩ := r
  · cases failed
    exact fails f rfl
  · have faults : w₁.faults = w.faults := steady.faults
    have found₁ : previousOf w₁ learner.id c₁.key known = .ok previous := by
      cases known with
      | some row => exact found
      | none =>
        rw [previousOf, World.findRow_eq (w := w) faults steady.rows, follows₁.grows.key]
        exact found
    exact conclude_storeless (faults.symm ▸ storeless) found₁
      ((congrArg (·.putRow) faults).trans takes) failed

omit storeless computes in
/-- A plan fails with the store, or with what the fingerprint is looked up from. -/
theorem plan_fail {learner : LearnerId} {s : Strategy} {row? : Option StoredGrade} {f : Failure}
    (found : (w.findRow learner c.key).1 = .ok row?) (h : e.plan w learner c s = .fail f) :
    w.hashOf c = .error f := by
  have absent (h : e.planAbsent c.key = .fail f) : False := by
    unfold planAbsent at h
    split at h <;> cases h
  cases s with
  | forceUpdate => cases h
  | createIfStale =>
    rw [plan, found] at h
    split at h
    · cases row? with
      | none => exact (absent h).elim
      | some row =>
        simp only [planStored] at h
        split at h
        · next failed =>
          cases h
          exact failed
        · split at h <;> cases h
    · exact (absent h).elim

/-- **A store that gives the row on record, and takes any, fails no resolution.** -/
theorem resolveHere_storeless {s : Strategy} {row? : Option StoredGrade} {f : Failure}
    (found : (w.findRow learner.id c.key).1 = .ok row?) (takes : w.faults.putRow = none)
    (failed : (w.look (e.resolveHere learner s) c).1.1 = .error f) : f.ofStore = false := by
  obtain ⟨c₀, w₀, follows, quiet, planned⟩ := look_resolveHere e w learner c s
  rw [planned] at failed
  cases plan : e.plan w learner.id c s with
  | serve row => rw [plan] at failed; cases failed
  | zero => rw [plan] at failed; cases failed
  | fail g =>
    rw [plan] at failed
    cases failed
    have hashed : (w.look Context.policyHash c).1.1 = .error f :=
      (World.look_policyHash w c).trans (plan_fail found plan)
    exact (Context.tries_policyHash loadable_storeless).look_storeless (fun _ _ given => given)
      storeless hashed
  | compute readOnly known =>
    rw [plan] at failed
    have before : ∃ previous, previousOf w learner.id c.key known = .ok previous := by
      cases known with
      | none => exact ⟨row?, found⟩
      | some row => exact ⟨some row, rfl⟩
    obtain ⟨previous, before⟩ := before
    exact recompute_storeless storeless computes follows quiet before takes failed

end Storeless

section Reading

variable {e : GradeEngine} {w : World} {learner : Learner} {c : Context}

/-- A read fails with the row on record only. -/
theorem look_readHere_ok {row? : Option StoredGrade}
    (found : (w.findRow learner.id c.key).1 = .ok row?) :
    ∃ g?, (w.look (e.readHere learner) c).1.1 = .ok g? := by
  obtain ⟨entries, read⟩ := look_readStored e w learner c
  have absent : ∃ g?, (w.look (do
      if e.flags.assumesZero (← get).key then some <$> createZero learner
      else pure none : Lookup (Option ResolvedGrade)) c).1.1 = .ok g? := by
    simp only [World.look_bind, World.look_get]
    split
    · obtain ⟨entries, zero⟩ := look_createZero w learner c
      rw [World.look_map, zero]
      exact ⟨_, rfl⟩
    · exact ⟨_, rfl⟩
  rw [readHere, World.look_bind, read, found]
  cases e.flags.persists c.key with
  | false => exact absent
  | true =>
    cases row? with
    | none => exact absent
    | some row => exact ⟨_, rfl⟩

variable {cause : StorageError} (persists : e.flags.persists c.key = true)
  (unreadable : (w.findRow learner.id c.key).1 = .error cause)
include persists unreadable

/-- A row that cannot be read fails whoever asks for it first. -/
theorem look_unreadable :
    (w.look (e.readHere learner) c).1.1 = .error (.error (.storage cause)) ∧
      (w.look (e.createHere learner) c).1.1 = .error (.error (.storage cause)) := by
  obtain ⟨entries, read⟩ := look_readStored e w learner c
  rw [if_pos persists, unreadable] at read
  rw [readHere, createHere, World.look_bind, World.look_bind, read]
  exact ⟨rfl, rfl⟩

/-- It fails an update once it has computed, unless the breakdown is not to be kept. -/
theorem updateHere_unreadable {g : ResolvedGrade}
    (answered : (w.look (e.updateHere learner) c).1.1 = .ok g) :
    g.source = .computed false ∧ e.flags.writeOnlyIfEngaged = true ∧ g.attempted = false := by
  obtain ⟨steady, follows⟩ := look_computing e (.refl w c) (.refl w) learner.id
  rw [updateHere, look_recompute, World.look_bind] at answered
  generalize (begun w).look (e.calculator learner.id) c = r at steady follows answered
  obtain ⟨⟨f | b, c₁⟩, w₁⟩ := r
  · cases answered
  · have key : c₁.key = c.key := follows.grows.key
    cases (conclude_cases e w₁ learner false none b c₁).2 with
    | unwritten after answer =>
      obtain ⟨unkept, rfl⟩ := answer g answered
      rw [keeps, key, persists, Bool.not_false, Bool.and_self, Bool.true_and,
        Bool.or_eq_false_iff, Bool.not_eq_false'] at unkept
      exact ⟨rfl, unkept⟩
    | written previous row keeps found =>
      have read : (w₁.findRow learner.id c₁.key).1 = (w.findRow learner.id c.key).1 := by
        rw [World.findRow_eq (w := w) steady.faults steady.rows, key]
      cases unreadable.symm.trans (read.symm.trans found)

end Reading

end GradeEngine

/-! ## The next operations -/

namespace Session

section Next

variable {s : Session} {learner : Learner} {i : CourseInputs} {c : Context}
  (opened : Context.ofInputs (some learner.id) i = .ok c)
include opened

/-- Where the row on record can be read and any is taken, the store fails nobody. -/
theorem step_admitted {row? : Option StoredGrade}
    (found : (s.world.findRow learner.id c.key).1 = .ok row?)
    (takes : s.world.faults.putRow = none) (loads : s.world.faults.Storeless)
    (computes : s.engine.calculator.Storeless) :
    ∀ step ∈ [Step.read learner i, .create learner i, .update learner i],
      (s.step step).1.ofStore = false := by
  have resolves (strategy : Strategy) :
      (Answer.grade (s.world.look (s.engine.resolveHere learner strategy) c).1.1).ofStore =
        false := by
    have errors (f : Failure)
        (failed : (s.world.look (s.engine.resolveHere learner strategy) c).1.1 = .error f) :
        f.ofStore = false := GradeEngine.resolveHere_storeless loads computes found takes failed
    generalize (s.world.look (s.engine.resolveHere learner strategy) c).1.1 = o at errors
    cases o with
    | error f => exact errors f rfl
    | ok g => rfl
  intro step member
  simp only [List.mem_cons, List.not_mem_nil, or_false] at member
  rcases member with rfl | rfl | rfl
  · obtain ⟨g?, read⟩ := GradeEngine.look_readHere_ok (e := s.engine) found
    simp only [Session.step, carryOut, GradeEngine.read, run_within _ _ _ _ opened, read]
    rfl
  · simp only [Session.step, carryOut, GradeEngine.create, run_within _ _ _ _ opened]
    exact resolves .createIfStale
  · simp only [Session.step, carryOut, GradeEngine.update, run_within _ _ _ _ opened]
    exact resolves .forceUpdate

/-- Where the row on record cannot be read, reads and creates fail, and updates answer no grade
that is to be kept. -/
theorem step_locked_out {cause : StorageError} (persists : s.engine.flags.persists c.key = true)
    (unreadable : (s.world.findRow learner.id c.key).1 = .error cause) :
    (s.step (.read learner i)).1.ofStore = true ∧ (s.step (.create learner i)).1.ofStore = true ∧
      ∀ g, (s.step (.update learner i)).1.grade? = some g → g.source = .computed false ∧
        s.engine.flags.writeOnlyIfEngaged = true ∧ g.attempted = false := by
  obtain ⟨read, create⟩ := GradeEngine.look_unreadable persists unreadable
  refine ⟨?_, ?_, fun g answered => ?_⟩
  · simp only [Session.step, carryOut, GradeEngine.read, run_within _ _ _ _ opened, read]
    rfl
  · simp only [Session.step, carryOut, GradeEngine.create, run_within _ _ _ _ opened, create]
    rfl
  · simp only [Session.step, carryOut, GradeEngine.update, run_within _ _ _ _ opened] at answered
    change (s.world.look (s.engine.updateHere learner) c).1.1.toOption = _ at answered
    cases ended : (s.world.look (s.engine.updateHere learner) c).1.1 with
    | error f =>
      rw [ended] at answered
      cases answered
    | ok g' =>
      rw [ended] at answered
      cases answered
      exact GradeEngine.updateHere_unreadable persists unreadable ended

end Next

/-- A row that was just kept can be read if its percent reads back, and not otherwise. -/
theorem find?_of_kept {s : Session} {rows : EncodedRows} (encoded : s.world.rows = .encoded rows)
    (dates : s.world.InCalendar) {learner : Learner} {strategy : Strategy} {c : Context}
    (dated : c.InCalendar) {step : Step} {g : ResolvedGrade}
    (resolving : s.resolving? step = some (learner, strategy, c))
    (answered : (s.step step).1.grade? = some g) (kept : g.source = .computed true) :
    s.engine.flags.persists c.key = true ∧
      ((s.step step).2.world.rows.find? learner.id c.key).toOption.isSome =
        (Double.ofFloat g.percent).readBack?.isSome := by
  rcases step_upserted s step with ⟨-, -, none⟩ | ⟨graded, strategy', c', o, same, ended, upserted⟩
  · cases none.symm.trans answered
  · cases resolving.symm.trans same
    have ok : o = .ok g := by
      rw [answered] at ended
      cases o with
      | error f => cases ended
      | ok g' =>
        cases ended
        rfl
    cases upserted with
    | nothing rows' writes answer => exact absurd kept (answer g ok)
    | row row b previous persists found keeps dated' rows' writes answer =>
      have before : ∀ row ∈ previous, row.InCalendar := by
        rintro row ⟨⟩
        have read := World.find?_of_findRow found
        rw [encoded] at read
        exact EncodedRows.inCalendar_of_find? read
      have back := congrArg Option.isSome
        (EncodedRows.toOption_decode_encode (dated' dates dated before))
      rw [Option.isSome_map] at back
      have percent : g.percent = row.percent := by
        rw [answer g ok, keeps.percent]
        rfl
      refine ⟨persists, ?_⟩
      rw [rows', encoded, RowStore.put, RowStore.find?, ← keeps.learner, ← keeps.courseKey,
        EncodedRows.find?_put_self, percent, ← back]
      cases EncodedRows.decode (EncodedRows.encode row) <;> rfl

/-- **Whether the engine can use a row that it kept is decided by the percent.** A create or an
update has answered a grade and kept it, on encoded rows. If the text of its percent reads back,
no read, create or update for the learner in the course ends in an error of the store, as long
as nobody writes over the row and neither store nor loader nor calculator report such an error
themselves. If it does not, then whatever is done in between, reads and creates end in an error
of the store, updates answer no grade that is to be kept, and the row stays.

Every number below ten to the sixteenth reads back (`Double.readBack?_isSome`), while NaN and
the infinities do not (`Double.readBack?_eq_none`). -/
theorem kept_percent_decides {s : Session} {rows : EncodedRows}
    (encoded : s.world.rows = .encoded rows) (dates : s.world.InCalendar) {learner₀ : Learner}
    {i₀ : CourseInputs} {c₀ : Context} {step₀ : Step} {g : ResolvedGrade}
    (direct : step₀ = .create learner₀ i₀ ∨ step₀ = .update learner₀ i₀)
    (opened₀ : Context.ofInputs (some learner₀.id) i₀ = .ok c₀) (dated : c₀.InCalendar)
    (answered : (s.step step₀).1.grade? = some g) (kept : g.source = .computed true)
    (between : List Step) {learner : Learner} {i : CourseInputs} {c : Context}
    (opened : Context.ofInputs (some learner.id) i = .ok c)
    (own : learner.id = learner₀.id ∧ c.key = c₀.key) :
    let s' := ((s.step step₀).2.run between).2
    ((Double.ofFloat g.percent).readBack?.isSome →
      Spares learner₀.id c₀.key (s.step step₀).2 between →
      s'.world.faults.findRow = none → s'.world.faults.putRow = none →
      s'.world.faults.Storeless → s'.engine.calculator.Storeless →
      ∀ step ∈ [Step.read learner i, .create learner i, .update learner i],
        (s'.step step).1.ofStore = false) ∧
    ((Double.ofFloat g.percent).readBack? = none →
      (s'.step (.read learner i)).1.ofStore = true ∧
      (s'.step (.create learner i)).1.ofStore = true ∧
      (∀ g', (s'.step (.update learner i)).1.grade? = some g' → g'.source = .computed false ∧
        s'.engine.flags.writeOnlyIfEngaged = true ∧ g'.attempted = false) ∧
      s'.world.rows.find? learner₀.id c₀.key =
        (s.step step₀).2.world.rows.find? learner₀.id c₀.key) := by
  intro s'
  have resolving : ∃ strategy, s.resolving? step₀ = some (learner₀, strategy, c₀) := by
    rcases direct with rfl | rfl <;> exact ⟨_, by rw [resolving?, opened₀]; rfl⟩
  obtain ⟨strategy, resolving⟩ := resolving
  obtain ⟨persists, readable⟩ := find?_of_kept encoded dates dated resolving answered kept
  have engine : s'.engine = s.engine := (run_engine _ between).trans (step_engine s step₀)
  constructor
  · intro back spared finds takes loads computes
    rw [back, ← run_spared _ spared] at readable
    cases read : s'.world.rows.find? learner₀.id c₀.key with
    | error x =>
      rw [read] at readable
      cases readable
    | ok row? =>
      have found : (s'.world.findRow learner.id c.key).1 = .ok row? := by
        rw [World.findRow, finds, own.1, own.2]
        exact read
      exact step_admitted opened found takes loads computes
  · intro lost
    rw [lost] at readable
    cases read : (s.step step₀).2.world.rows.find? learner₀.id c₀.key with
    | ok row? =>
      rw [read] at readable
      cases readable
    | error cause =>
      have still : s'.world.rows.find? learner₀.id c₀.key = .error cause :=
        run_unreadable read between
      have unreadable : ∃ x, (s'.world.findRow learner.id c.key).1 = .error x := by
        rw [World.findRow, own.1, own.2]
        split
        · exact ⟨_, rfl⟩
        · exact ⟨cause, still⟩
      obtain ⟨x, unreadable⟩ := unreadable
      have persists' : s'.engine.flags.persists c.key = true := by
        rw [engine, own.2]
        exact persists
      obtain ⟨reads, creates, updates⟩ := step_locked_out opened persists' unreadable
      exact ⟨reads, creates, updates, still⟩

end Session

namespace Lockout.Sample

/-- Every grade has this percent, and is kept as a text. -/
def session (percent : Float) : Session where
  engine := ⟨{}, .scripted ⟨percent, none, false, true, []⟩ false {}, []⟩
  world := { Sample.world (Sample.course (some "v1") []) with rows := .encoded {} }

def inputs : CourseInputs := .ofKey Sample.key

theorem defined {percent : Float} {key : CourseKey} {d : CourseDefinition}
    (h : (session percent).world.source.definition key = .ok d) : d.editedOn = none := by
  have shelf : (session percent).world.source =
      .shelf [(Sample.key, Sample.course (some "v1") [])] := rfl
  rw [shelf, ContentSource.definition, Assoc.find?_cons, Assoc.find?_nil] at h
  by_cases known : Sample.key = key
  · rw [if_pos known] at h
    cases h
    rfl
  · rw [if_neg known] at h
    cases h

theorem dates (percent : Float) : (session percent).world.InCalendar where
  now := by
    show Instant.Representable ⟨0, 0⟩
    decide
  course key x loaded := by
    change (((session percent).world.source.definition key).map CourseDefinition.course).mapError
      _ = _ at loaded
    cases known : (session percent).world.source.definition key with
    | error cause =>
      rw [known] at loaded
      cases loaded
    | ok d =>
      rw [known] at loaded
      cases loaded
      rw [CourseDefinition.course, defined known]
      rintro t ⟨⟩
  content key x loaded := by
    change (((session percent).world.source.definition key).map CourseDefinition.content).mapError
      _ = _ at loaded
    cases known : (session percent).world.source.definition key with
    | error cause =>
      rw [known] at loaded
      cases loaded
    | ok d =>
      rw [known] at loaded
      cases loaded
      rw [CourseDefinition.content, defined known]
      rintro t ⟨⟩

/-- What follows the update that keeps the grade: a read, and a minute. -/
def between : List Step := [.read Sample.learner inputs, .clock ⟨60, 0⟩]

def update : Step := .update Sample.learner inputs

/-- A half can be read again and written over, NaN cannot. -/
theorem kept_percent_decides_half_and_nan :
    (∀ step ∈ [Step.read Sample.learner inputs, .create Sample.learner inputs,
      .update Sample.learner inputs],
      ((((session 0.5).step update).2.run between).2.step step).1.ofStore = false) ∧
    ∀ step ∈ [Step.read Sample.learner inputs, .create Sample.learner inputs],
      ((((session (0.0 / 0.0)).step update).2.run between).2.step step).1.ofStore = true := by
  have opened : Context.ofInputs (some Sample.learner.id) inputs =
      .ok ⟨some Sample.learner.id, Sample.key, none, none, none⟩ := rfl
  have dated : Context.InCalendar ⟨some Sample.learner.id, Sample.key, none, none, none⟩ :=
    ⟨fun x held => (nomatch held), fun x held => (nomatch held)⟩
  have direct : update = .create Sample.learner inputs ∨ update = .update Sample.learner inputs :=
    .inr rfl
  constructor
  · have updated : ((session 0.5).step update).1.grade?.map
        (fun g => (g.source, Double.ofFloat g.percent)) =
          some (.computed true, ⟨0x3fe0000000000000⟩) := by decide +kernel
    obtain ⟨g, answered, seen⟩ := Option.map_eq_some_iff.1 updated
    obtain ⟨kept, percent⟩ := Prod.mk.inj seen
    have back : (Double.ofFloat g.percent).readBack?.isSome := by
      rw [percent]
      decide +kernel
    have usable := (Session.kept_percent_decides rfl (dates 0.5) direct opened dated answered kept
      between opened ⟨rfl, rfl⟩).1 back
    have engine : (((session 0.5).step update).2.run between).2.engine = (session 0.5).engine := by
      rw [Session.run_engine, Session.step_engine]
    have faults : (((session 0.5).step update).2.run between).2.world.faults = {} :=
      (Session.run_faults (by simp [between])).trans
        (Session.step_faults fun _ => Step.noConfusion)
    refine usable ⟨Session.not_upserts rfl, Session.not_upserts rfl, trivial⟩
      (congrArg (·.findRow) faults) (congrArg (·.putRow) faults) ?_ ?_
    · rw [faults]
      rintro f (fault | fault) <;> cases fault
    · rw [engine]
      exact Calculator.storeless_scripted _ _ _
  · have updated : ((session (0.0 / 0.0)).step update).1.grade?.map
        (fun g => (g.source, (Double.ofFloat g.percent).readBack?)) =
          some (.computed true, none) := by decide +kernel
    obtain ⟨g, answered, seen⟩ := Option.map_eq_some_iff.1 updated
    obtain ⟨kept, lost⟩ := Prod.mk.inj seen
    obtain ⟨reads, creates, -⟩ := (Session.kept_percent_decides rfl (dates _) direct opened dated
      answered kept between opened ⟨rfl, rfl⟩).2 lost
    intro step member
    simp only [List.mem_cons, List.not_mem_nil, or_false] at member
    rcases member with rfl | rfl
    · exact reads
    · exact creates

/-- A calculator whose percent is NaN: the update keeps the grade, and no operation gets past
its row. -/
theorem nan_locks_its_row :
    let s := session (0.0 / 0.0)
    (s.step update).1.grade?.map (·.source) = some (.computed true) ∧
      ∀ step ∈ [update, .read Sample.learner inputs, .create Sample.learner inputs],
        ((s.step update).2.step step).1.ofStore = true := by
  decide +kernel

end Lockout.Sample

end Gradebook
