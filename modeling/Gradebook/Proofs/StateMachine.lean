/-
# Gradebook.Proofs.StateMachine — create and update, state by state

`World.Serves` says that store and loader do not fail for a learner in a course. Then
nothing behind a computation fails either (`look_conclude_ok`), and the states of a resolution
are decided by the row on record, the fingerprint and the flags alone:

  row on record, fingerprint current   the row
  no row, course assumes zero          the zero grade
  otherwise                            one computation (`ComputedOnce`)

`create_and_update_exact` says so for every calculator, every flag and every row.
-/
import Gradebook.Proofs.Committing

namespace Gradebook

set_option autoImplicit false

namespace World

/-- The loader does not fail for this course. -/
structure Loads (w : World) (key : CourseKey) : Prop where
  course : ∃ x, (w.loadCourse key).1 = .ok x
  content : ∃ x, (w.loadContent key).1 = .ok x

/-- Store and loader do not fail for this learner in this course. -/
structure Serves (w : World) (learner : LearnerId) (key : CourseKey) : Prop
    extends Loads w key where
  finds : ∃ row?, (w.findRow learner key).1 = .ok row?
  writes : w.faults.putRow = none

theorem Loads.same {w w' : World} {key : CourseKey} (loads : w.Loads key)
    (same : w.SameSource w') : w'.Loads key where
  course := (same.loadCourse_eq key).symm ▸ loads.course
  content := (same.loadContent_eq key).symm ▸ loads.content

/-- The store does not fail for this learner in this course. -/
structure Recalls (w : World) (learner : LearnerId) (key : CourseKey) : Prop where
  finds : ∃ row?, (w.findRow learner key).1 = .ok row?
  writes : w.faults.putRow = none

theorem Serves.recalls {w : World} {learner : LearnerId} {key : CourseKey}
    (serves : w.Serves learner key) : w.Recalls learner key := ⟨serves.finds, serves.writes⟩

/-- The loader crashes on this course. -/
def LoaderCrash (w : World) (key : CourseKey) (k : Crash) : Prop :=
  (w.loadCourse key).1 = .error (.crash k) ∨ (w.loadContent key).1 = .error (.crash k)

theorem LoaderCrash.same {w w' : World} {key : CourseKey} {k : Crash}
    (crash : w'.LoaderCrash key k) (same : w.SameSource w') : w.LoaderCrash key k := by
  rw [LoaderCrash, same.loadCourse_eq, same.loadContent_eq] at crash
  exact crash

theorem Loads.not_crash {w : World} {key : CourseKey} {k : Crash} (loads : w.Loads key) :
    ¬w.LoaderCrash key k := by
  obtain ⟨course, described⟩ := loads.course
  obtain ⟨content, loaded⟩ := loads.content
  rintro (crash | crash)
  · cases described.symm.trans crash
  · cases loaded.symm.trans crash

end World

/-! ## Nothing fails behind a computation -/

namespace World

variable {w : World} {c : Context}

theorem Serves.contentOf {learner : LearnerId} (serves : w.Serves learner c.key) :
    ∃ x, w.contentOf c = .ok x := by
  rw [World.contentOf]
  cases c.content? with
  | some x => exact ⟨x, rfl⟩
  | none => exact serves.content

theorem hashOf_ok (content : ∃ x, w.contentOf c = .ok x) : ∃ h, w.hashOf c = .ok h := by
  obtain ⟨x, found⟩ := content
  rw [hashOf]
  cases c.hash? with
  | some h => exact ⟨h, rfl⟩
  | none => exact ⟨x.gradingPolicy.hash, by rw [found]; rfl⟩

theorem Serves.hashOf {learner : LearnerId} (serves : w.Serves learner c.key) :
    ∃ h, w.hashOf c = .ok h := hashOf_ok serves.contentOf

/-- Where the content is found, a breakdown has a row. -/
theorem record_ok (content : ∃ x, w.contentOf c = .ok x) (learner : LearnerId)
    (b : GradeBreakdown) (previous : Option StoredGrade) (now : Instant) :
    ∃ row, (w.look (StoredGrade.record learner b previous now) c).1.1 = .ok row := by
  obtain ⟨h, hash⟩ := hashOf_ok content
  obtain ⟨x, found⟩ := content
  rw [StoredGrade.look_record, versionOf, editedAtOf, found, hash]
  cases c.course? <;> exact ⟨_, rfl⟩

/-- Looking the course up fails as the loader fails. -/
theorem loadable_terms (w : World) (key : CourseKey) :
    Context.Loadable (w.terms Request.mild) (fun c => c.key = key) fun f =>
      (w.loadCourse key).1 = .error f ∨ (w.loadContent key).1 = .error f where
  asks _ := Request.mild_of_looks
  lasting := ⟨fun _ _ here _ _ => here, fun _ _ here _ _ => here, fun _ _ here _ _ => here⟩
  course c f here given := by
    have failed : Except.error f = (w.loadCourse c.key).1 := given
    rw [here] at failed
    exact .inl failed.symm
  content c f here given := by
    have failed : Except.error f = (w.loadContent c.key).1 := given
    rw [here] at failed
    exact .inr failed.symm

end World

namespace GradeEngine

/-! ## One computation -/

/-- The row a resolution finds, which is none if the course keeps no grades. -/
def onRecord? (e : GradeEngine) (w : World) (learner : LearnerId) (key : CourseKey) :
    Option StoredGrade :=
  if e.flags.persists key then (w.findRow learner key).1.toOption.join else none

/-- The calculator is called once. Its failure is the outcome, and nothing is written. Its
breakdown is the outcome and says whether it was kept, which it is if it may be, the course
keeps grades and engagement does not matter or is there; then the one row written is the
record of the breakdown over the row found. -/
def ComputedOnce (e : GradeEngine) (w : World) (learner : Learner) (c : Context) (mayKeep : Bool)
    (o : Except Failure ResolvedGrade) (w' : World) : Prop :=
  ∃ c₀ w₀ c₁ w₁ outcome, w.Follows c c₀ ∧ w.Quiet w₀ ∧
    (begun w₀).look (e.calculator learner.id) c₀ = ((outcome, c₁), w₁) ∧
    w'.computations = w.computations + 1 ∧
    match outcome with
    | .error f => o = .error f ∧ w'.rows = w.rows ∧ w'.writes = w.writes
    | .ok b =>
      let kept := mayKeep && e.flags.persists c.key &&
        (!e.flags.writeOnlyIfEngaged || b.attempted)
      o = .ok (.ofBreakdown learner.id c.key b kept) ∧
        if kept then ∃ row,
          (w₁.look (StoredGrade.record learner.id b (e.onRecord? w learner.id c.key) w.now)
            c₁).1.1 = .ok row ∧ w'.rows = w.rows.put row ∧ w'.writes = w.writes + 1
        else w'.rows = w.rows ∧ w'.writes = w.writes

section Served

variable {w : World} {learner : Learner} {c : Context}

theorem previousOf_ok (recalls : w.Recalls learner.id c.key) (known : Option StoredGrade) :
    ∃ previous, previousOf w learner.id c.key known = .ok previous := by
  cases known with
  | some row => exact ⟨some row, rfl⟩
  | none => exact recalls.finds

theorem look_keep_ok (recalls : w.Recalls learner.id c.key)
    (content : ∃ x, w.contentOf c = .ok x) (known : Option StoredGrade) (b : GradeBreakdown) :
    (w.look (keep learner known b) c).1.1 = .ok () := by
  obtain ⟨previous, found⟩ := previousOf_ok recalls known
  obtain ⟨row, recorded⟩ := World.record_ok content learner.id b previous w.now
  have quiet := World.look_quiet (StoredGrade.within_record learner.id b previous w.now) w c
  rw [look_keep, found]
  simp only
  generalize w.look (StoredGrade.record learner.id b previous w.now) c = r at recorded quiet
  obtain ⟨⟨o, c'⟩, w'⟩ := r
  have writes : w'.faults.putRow = none := quiet.faults.symm ▸ recalls.writes
  simp only at recorded
  subst recorded
  simp only [World.putRow, writes]
  rfl

/-- An announcement ends with a grade unless the loader crashes: listeners never end it, and
errors of the loader do not either. -/
theorem announce_ends (e : GradeEngine) (w : World) (learner : Learner) {key : CourseKey}
    (b : GradeBreakdown) (kept : Bool) {c : Context} (here : c.key = key) :
    (∃ g, (w.look (e.announce learner key b kept) c).1.1 = .ok g) ∨
      ∃ k, w.LoaderCrash key k ∧
        (w.look (e.announce learner key b kept) c).1.1 = .error (.crash k) := by
  have tells (listener : Listener) (notice : Notice) (_ : notice.learner = learner.id) :
      (w.terms Request.mild).asks (.deliver listener notice) := trivial
  have tries := tries_announce tells e (World.loadable_terms w key) key b kept
  have ended := (World.look_meets tries (World.keptBy_steady w) (.refl w) here).1
  generalize w.look (e.announce learner key b kept) c = r at ended ⊢
  obtain ⟨⟨f | g, c'⟩, w'⟩ := r
  · obtain ⟨⟨failed, k, rfl⟩, -⟩ := ended
    exact .inr ⟨k, failed, rfl⟩
  · exact .inl ⟨g, rfl⟩

/-- Behind a computation only a crash of the loader keeps a breakdown from being answered. -/
theorem look_conclude_ends (e : GradeEngine) (recalls : w.Recalls learner.id c.key)
    (content : ∃ x, w.contentOf c = .ok x) (readOnly : Bool) (known : Option StoredGrade)
    (b : GradeBreakdown) :
    (∃ g, (w.look (e.conclude learner readOnly known b) c).1.1 = .ok g) ∨
      ∃ k, w.LoaderCrash c.key k ∧
        (w.look (e.conclude learner readOnly known b) c).1.1 = .error (.crash k) := by
  simp only [conclude, World.look_bind w c get, World.look_get]
  cases e.keeps c.key readOnly b with
  | false => exact announce_ends e w learner b false rfl
  | true =>
    obtain ⟨follows, kept⟩ := keep_cases w learner known b c
    have ok := look_keep_ok recalls content known b
    simp only [if_true, World.look_bind]
    generalize w.look (keep learner known b) c = r at follows kept ok
    obtain ⟨⟨o, c₁⟩, w₁⟩ := r
    simp only at ok
    subst ok
    have same : w.SameSource w₁ := by
      rcases kept with ⟨f, failed, -⟩ | ⟨previous, row, w₀, -, -, quiet, -, wrote⟩
      · cases failed
      · exact ⟨(congrArg (·.source) wrote).trans quiet.source,
          (congrArg (·.faults) wrote).trans quiet.faults⟩
    rcases announce_ends e w₁ learner b true follows.grows.key with answered | ⟨k, crash, failed⟩
    · exact .inl answered
    · exact .inr ⟨k, crash.same same, failed⟩

theorem look_conclude_ok (e : GradeEngine) (serves : w.Serves learner.id c.key)
    (readOnly : Bool) (known : Option StoredGrade) (b : GradeBreakdown) :
    ∃ g, (w.look (e.conclude learner readOnly known b) c).1.1 = .ok g := by
  rcases look_conclude_ends e serves.recalls serves.contentOf readOnly known b with
    answered | ⟨k, crash, -⟩
  · exact answered
  · exact (serves.toLoads.not_crash crash).elim

end Served

/-- What becomes of a breakdown when nothing fails: the answer says whether it was kept, and if
so the one row written is its record over the row found. -/
theorem conclude_exact (e : GradeEngine) {w : World} {learner : Learner} {c : Context}
    (serves : w.Serves learner.id c.key) {readOnly : Bool} {known previous : Option StoredGrade}
    (found : e.flags.persists c.key = true → readOnly = false →
      previousOf w learner.id c.key known = .ok previous) (b : GradeBreakdown) :
    let w' := (w.look (e.conclude learner readOnly known b) c).2
    (w.look (e.conclude learner readOnly known b) c).1.1 =
        .ok (.ofBreakdown learner.id c.key b (e.keeps c.key readOnly b)) ∧
      w'.computations = w.computations ∧
      if e.keeps c.key readOnly b then ∃ row,
        (w.look (StoredGrade.record learner.id b previous w.now) c).1.1 = .ok row ∧
          w'.rows = w.rows.put row ∧ w'.writes = w.writes + 1
      else w'.rows = w.rows ∧ w'.writes = w.writes := by
  intro w'
  obtain ⟨g, answered⟩ := look_conclude_ok e serves readOnly known b
  obtain ⟨-, concluded⟩ := conclude_cases e w learner readOnly known b c
  cases concluded with
  | unwritten steady answer =>
    obtain ⟨keeps, rfl⟩ := answer g answered
    rw [keeps]
    exact ⟨answered, steady.computations, steady.rows, steady.writes⟩
  | written previous' row keeps found' recorded steady answer =>
    obtain rfl := answer g answered
    have may : readOnly = false ∧ e.flags.persists c.key = true := by
      rw [GradeEngine.keeps, Bool.and_eq_true, Bool.and_eq_true, Bool.not_eq_true'] at keeps
      exact keeps.1
    have same : previous' = previous := Except.ok.inj (found'.symm.trans (found may.2 may.1))
    subst same
    rw [keeps, if_pos rfl]
    exact ⟨answered, steady.computations, row, recorded, steady.rows, steady.writes⟩

/-- A recomputation computes once, whatever was looked up before. -/
theorem recompute_once (e : GradeEngine) {w w₀ : World} {learner : Learner} {c c₀ : Context}
    (serves : w.Serves learner.id c.key) (follows : w.Follows c c₀) (quiet : w.Quiet w₀)
    {readOnly : Bool} {known : Option StoredGrade}
    (prior : e.flags.persists c.key → readOnly = false →
      previousOf w learner.id c.key known = .ok (e.onRecord? w learner.id c.key)) :
    ComputedOnce e w learner c (!readOnly)
      (w₀.look (e.recompute learner readOnly known) c₀).1.1
      (w₀.look (e.recompute learner readOnly known) c₀).2 := by
  rw [look_recompute, World.look_bind]
  obtain ⟨steady, filled⟩ := look_computing e follows quiet learner.id
  generalize computes : (begun w₀).look (e.calculator learner.id) c₀ = r at steady filled
  obtain ⟨⟨outcome, c₁⟩, w₁⟩ := r
  have key : c₁.key = c.key := filled.grows.key
  refine ⟨c₀, w₀, c₁, w₁, outcome, follows, quiet, computes, ?_⟩
  cases outcome with
  | error f => exact ⟨steady.computations, rfl, steady.rows, steady.writes⟩
  | ok b =>
    have same : w.SameSource w₁ := ⟨steady.source, steady.faults⟩
    have row := World.findRow_eq (w := w) steady.faults steady.rows learner.id c.key
    have serves₁ : w₁.Serves learner.id c₁.key := by
      rw [key]
      exact ⟨serves.toLoads.same same, row.symm ▸ serves.finds,
        (congrArg (·.putRow) steady.faults).trans serves.writes⟩
    have found : e.flags.persists c₁.key = true → readOnly = false →
        previousOf w₁ learner.id c₁.key known = .ok (e.onRecord? w learner.id c.key) := by
      intro persists mayWrite
      rw [key] at persists ⊢
      rw [← prior persists mayWrite]
      cases known with
      | some row => rfl
      | none => exact row
    obtain ⟨answer, computations, written⟩ := conclude_exact e serves₁ found b
    have rows : w₁.rows = w.rows := steady.rows
    have writes : w₁.writes = w.writes := steady.writes
    have now : w₁.now = w.now := steady.now
    rw [key, rows, writes, now] at written
    refine ⟨computations.trans steady.computations, ?_, written⟩
    rw [← key]
    exact answer

/-! ## The states -/

section States

variable (e : GradeEngine) {w : World} {learner : Learner} {c : Context}

theorem findRow_ok (recalls : w.Recalls learner.id c.key)
    (persists : e.flags.persists c.key) :
    (w.findRow learner.id c.key).1 = .ok (e.onRecord? w learner.id c.key) := by
  obtain ⟨row?, found⟩ := recalls.finds
  rw [onRecord?, if_pos persists, found]
  cases row? <;> rfl

/-- An update computes once, whatever is on record. -/
theorem update_once (serves : w.Serves learner.id c.key) :
    ComputedOnce e w learner c true
      (w.look (e.updateHere learner) c).1.1 (w.look (e.updateHere learner) c).2 := by
  have prior : e.flags.persists c.key → false = false →
      previousOf w learner.id c.key none = .ok (e.onRecord? w learner.id c.key) :=
    fun persists _ => findRow_ok e serves.recalls persists
  exact recompute_once e serves (.refl w c) (.refl w) prior

/-- The plan, by the row found. -/
theorem plan_create (recalls : w.Recalls learner.id c.key) :
    e.plan w learner.id c .createIfStale = match e.onRecord? w learner.id c.key with
      | none => e.planAbsent c.key
      | some row => planStored row (w.hashOf c) := by
  rw [plan]
  cases persists : e.flags.persists c.key with
  | false => simp [onRecord?, persists]
  | true =>
    rw [if_pos rfl, findRow_ok e recalls persists]
    cases e.onRecord? w learner.id c.key <;> rfl

/-- A zero grade is assumed without loading anything. -/
theorem look_create_zero (serves : w.Serves learner.id c.key)
    (absent : e.onRecord? w learner.id c.key = none) (zero : e.flags.assumesZero c.key = true) :
    ∃ entries, w.look (e.createHere learner) c =
      ((.ok (.zero learner.id c.key), c), w.addLog entries) := by
  obtain ⟨read, readStored⟩ := look_readStored e w learner c
  have none_read : w.look (e.readStored learner) c = ((.ok none, c), w) := by
    rw [readStored]
    cases persists : e.flags.persists c.key with
    | false => rfl
    | true => rw [if_pos rfl, findRow_ok e serves.recalls persists, absent]
  obtain ⟨entries, zeroed⟩ := look_createZero w learner c
  refine ⟨entries, ?_⟩
  rw [createHere, World.look_bind, none_read]
  simp only [createAbsent, World.look_bind, World.look_get, zero, if_true]
  exact zeroed

/-- **Create and update go through the states of a resolution exactly.** -/
theorem create_and_update_exact (serves : w.Serves learner.id c.key) :
    (∀ row, e.onRecord? w learner.id c.key = some row → w.hashOf c = .ok row.policyHash →
      (w.look (e.createHere learner) c).1.1 = .ok (.ofStored row) ∧
        w.Quiet (w.look (e.createHere learner) c).2) ∧
    (e.onRecord? w learner.id c.key = none → e.flags.assumesZero c.key = true →
      (w.look (e.createHere learner) c).1.1 = .ok (.zero learner.id c.key) ∧
        w.Quiet (w.look (e.createHere learner) c).2 ∧
        (w.look (e.createHere learner) c).2.courseLoads = w.courseLoads ∧
        (w.look (e.createHere learner) c).2.contentLoads = w.contentLoads) ∧
    ((∀ row, e.onRecord? w learner.id c.key = some row → w.hashOf c ≠ .ok row.policyHash) →
      (e.onRecord? w learner.id c.key = none → e.flags.assumesZero c.key = false) →
      ComputedOnce e w learner c (e.onRecord? w learner.id c.key).isSome
        (w.look (e.createHere learner) c).1.1 (w.look (e.createHere learner) c).2) ∧
    ComputedOnce e w learner c true
      (w.look (e.updateHere learner) c).1.1 (w.look (e.updateHere learner) c).2 := by
  obtain ⟨c₀, w₀, follows, quiet, planned⟩ := look_resolveHere e w learner c .createIfStale
  rw [plan_create e serves.recalls] at planned
  change w.look (e.createHere learner) c = _ at planned
  refine ⟨fun row found current => ?_, fun absent zero => ?_, fun stale present => ?_, ?_⟩
  · rw [planned, found, current]
    simp only [planStored, if_true, follow]
    exact ⟨trivial, quiet⟩
  · obtain ⟨entries, zeroed⟩ := look_create_zero e serves absent zero
    rw [zeroed]
    exact ⟨rfl, World.quiet_addLog w entries, rfl, rfl⟩
  · rw [planned]
    cases found : e.onRecord? w learner.id c.key with
    | none =>
      simp only [planAbsent, present found, follow]
      exact recompute_once e serves follows quiet fun _ readOnly => by cases readOnly
    | some row =>
      obtain ⟨hash, hashed⟩ := serves.hashOf
      have differs : row.policyHash ≠ hash := fun same => stale row found (same ▸ hashed)
      simp only [planStored, hashed, if_neg differs, follow]
      exact recompute_once e serves follows quiet fun _ _ => congrArg Except.ok found.symm
  · exact update_once e serves

end States

/-- A learner without a row is computed once, by create and by update. -/
theorem create_and_update_exact_sample :
    let w := Sample.world (Sample.course none ["hw1"])
    let c : Context := ⟨some Sample.learner.id, Sample.key, none, none, none⟩
    w.Serves Sample.learner.id c.key ∧
      ComputedOnce Sample.engine w Sample.learner c false
        (w.look (Sample.engine.createHere Sample.learner) c).1.1
        (w.look (Sample.engine.createHere Sample.learner) c).2 ∧
      ComputedOnce Sample.engine w Sample.learner c true
        (w.look (Sample.engine.updateHere Sample.learner) c).1.1
        (w.look (Sample.engine.updateHere Sample.learner) c).2 := by
  intro w c
  have serves : w.Serves Sample.learner.id c.key :=
    { course := ⟨_, rfl⟩, content := ⟨_, rfl⟩, finds := ⟨_, rfl⟩, writes := rfl }
  have absent : Sample.engine.onRecord? w Sample.learner.id c.key = none := rfl
  obtain ⟨-, -, computes, updates⟩ := create_and_update_exact Sample.engine serves
  refine ⟨serves, ?_, updates⟩
  exact computes (fun row found => by cases absent.symm.trans found) fun _ => rfl

end GradeEngine

end Gradebook
