/-
# Gradebook.Proofs.Resolving — one resolution, part by part

What a resolution does is decided by what it finds (`GradeEngine.plan`): serve a row,
assume zero, fail, or compute. `look_resolveHere` carries a resolution out up to that
decision, `look_recompute` up to the end of the computation, and `keep_cases` and
`look_announce_ok` say what can come of the rest: a row is written or it is not, and an
answer, when there is one, is the breakdown.
-/
import Gradebook.Engine.Batch
import Gradebook.Proofs.Looking

namespace Gradebook

set_option autoImplicit false

open Lookup (Within within_pure within_bind within_map within_ask within_get within_attempt
  within_log)

namespace Request

/-- Telling listeners, and what it takes. -/
def announces : Request → Prop
  | .deliver _ _ => True
  | r => r.looks

theorem announces_of_looks {r : Request} (h : r.looks) : r.announces := by
  cases r <;> first | exact h | trivial

theorem mild_of_announces {r : Request} (h : r.announces) : r.mild := by
  cases r <;> first | exact h | trivial

end Request

/-! ## What the parts of a resolution ask -/

theorem StoredGrade.structural_record (learner : LearnerId) (b : GradeBreakdown)
    (previous : Option StoredGrade) (now : Instant) :
    Within Request.structural (StoredGrade.record learner b previous now) :=
  within_bind Context.structural_contentVersion fun _ =>
    within_bind Context.structural_contentEditedAt fun _ =>
      within_bind Context.structural_policyHash fun _ =>
        within_bind within_get fun _ => within_pure _

theorem StoredGrade.within_record (learner : LearnerId) (b : GradeBreakdown)
    (previous : Option StoredGrade) (now : Instant) :
    Within Request.looks (StoredGrade.record learner b previous now) :=
  (structural_record learner b previous now).mono fun _ => Request.looks_of_structural

/-- **The row of a record**: what context and world have now, and the breakdown. -/
theorem StoredGrade.look_record (w : World) (learner : LearnerId) (b : GradeBreakdown)
    (previous : Option StoredGrade) (now : Instant) (c : Context) :
    (w.look (StoredGrade.record learner b previous now) c).1.1 = (do
      let version ← w.versionOf c
      let editedAt ← w.editedAtOf c
      let hash ← w.hashOf c
      pure {
        learner
        courseKey := c.key
        contentVersion := version
        contentEditedAt := editedAt
        policyHash := hash
        percent := b.percent
        letterGrade := b.letterGrade.getD ""
        passedAt := if b.passed then some ((previous.bind (·.passedAt)).getD now) else none
        attempted := b.attempted
        createdAt := (previous.map (·.createdAt)).getD now
        modifiedAt := now }) := by
  obtain ⟨found, described⟩ := World.look_contentVersion w c
  rw [StoredGrade.record, ← found]
  refine World.look_then Context.within_contentVersion fun version c₁ w₁ here₁ follows₁ same₁ => ?_
  have edited : w₁.editedAtOf c₁ = w.editedAtOf c := by
    rw [here₁] at described
    simp only [World.editedAtOf, described, follows₁.contentOf_eq same₁]
  rw [← edited, ← (World.look_contentEditedAt w₁ c₁).1]
  refine World.look_then Context.within_contentEditedAt fun editedAt c₂ w₂ _ follows₂ same₂ => ?_
  have hashed : w₂.hashOf c₂ = w.hashOf c :=
    (follows₂.hashOf_eq same₂).trans (follows₁.hashOf_eq same₁)
  rw [← hashed, ← World.look_policyHash]
  refine World.look_then Context.within_policyHash fun hash c₃ w₃ _ follows₃ _ => ?_
  have key : c₃.key = c.key :=
    (follows₃.grows.key.trans follows₂.grows.key).trans follows₁.grows.key
  rw [World.look_bind, World.look_get, ← key]
  rfl

/-- The row has what a breakdown says about a learner in a course. An empty letter stands
for none, and the passing moment for having passed. -/
structure StoredGrade.Keeps (row : StoredGrade) (learner : LearnerId) (key : CourseKey)
    (b : GradeBreakdown) : Prop where
  learner : row.learner = learner
  courseKey : row.courseKey = key
  percent : row.percent = b.percent
  letterGrade : row.letterGrade = b.letterGrade.getD ""
  passed : row.passed = b.passed
  attempted : row.attempted = b.attempted

theorem StoredGrade.keeps_of_record {w : World} {learner : LearnerId} {b : GradeBreakdown}
    {previous : Option StoredGrade} {now : Instant} {c : Context} {row : StoredGrade}
    (h : (w.look (StoredGrade.record learner b previous now) c).1.1 = .ok row) :
    row.Keeps learner c.key b ∧ w.hashOf c = .ok row.policyHash := by
  rw [StoredGrade.look_record] at h
  cases version : w.versionOf c with
  | error f => simp [version, bind, Except.bind] at h
  | ok v =>
    cases editedAt : w.editedAtOf c with
    | error f => simp [version, editedAt, bind, Except.bind] at h
    | ok t =>
      cases hash : w.hashOf c with
      | error f => simp [version, editedAt, hash, bind, Except.bind] at h
      | ok hash =>
        simp only [version, editedAt, hash, bind, Except.bind, pure, Except.pure,
          Except.ok.injEq] at h
        subst h
        refine ⟨⟨rfl, rfl, rfl, rfl, ?_, rfl⟩, rfl⟩
        cases b.passed <;> rfl

namespace GradeEngine

theorem within_availableCourse : Within Request.looks availableCourse := by
  refine within_bind (within_attempt Context.within_course) fun o => ?_
  cases o with
  | ok course => exact within_pure _
  | error e =>
    exact within_bind within_get fun _ =>
      within_bind (within_log _ _ _ _ fun _ => trivial) fun _ => within_pure _

section Kinds

variable {kinds : Request → Prop} {notice : Notice}

theorem within_tell (tells : ∀ listener, kinds (.deliver listener notice))
    (logs : ∀ entry, kinds (.log entry)) (report : DispatchReport) (listener : Listener) :
    Within kinds (tell notice report listener) := by
  refine within_bind (within_ask (tells listener)) fun delivery => ?_
  cases Delivery.failure? delivery with
  | none => exact within_pure _
  | some text => exact within_bind (within_log _ _ _ _ logs) fun _ => within_pure _

theorem within_dispatch (e : GradeEngine) (tells : ∀ listener, kinds (.deliver listener notice))
    (logs : ∀ entry, kinds (.log entry)) : Within kinds (e.dispatch notice) := by
  unfold dispatch
  generalize ({} : DispatchReport) = report
  induction e.listeners generalizing report with
  | nil => exact within_pure _
  | cons listener rest ih =>
    rw [List.foldlM_cons]
    exact within_bind (within_tell tells logs report listener) ih

/-- Announcing a grade tells of it with whatever deadline is found, and perhaps of having
passed. -/
theorem within_announcing (looks : ∀ r, r.looks → kinds r) (e : GradeEngine) (learner : Learner)
    (key : CourseKey) (b : GradeBreakdown) (kept : Bool)
    (changed : ∀ listener deadline, kinds (.deliver listener
      (.changed learner (.ofBreakdown learner.id key b kept) key deadline)))
    (passed : ∀ listener, kinds (.deliver listener (.nowPassed learner key))) :
    Within kinds (e.announce learner key b kept) := by
  have logs (entry : LogEntry) : kinds (.log entry) := looks _ trivial
  refine within_bind (within_availableCourse.mono looks) fun course => ?_
  refine within_bind (within_dispatch e (changed · _) logs) fun _ => ?_
  have rest (grade : ResolvedGrade) : Within kinds (do
      let full ← Context.fullText
      Lookup.log .info .engine ("Grades: Update, " ++ full ++ ", User: " ++ learner.id.text ++
        ", " ++ grade.text ++ ", persisted: " ++ boolText kept)
      pure grade) :=
    within_bind (Context.within_fullText.mono looks) fun _ =>
      within_bind (within_log _ _ _ _ logs) fun _ => within_pure _
  split
  · exact within_bind (within_dispatch e passed logs) fun _ => rest _
  · exact rest _

end Kinds

theorem within_announce (e : GradeEngine) (learner : Learner) (key : CourseKey)
    (b : GradeBreakdown) (kept : Bool) :
    Within Request.announces (e.announce learner key b kept) :=
  within_announcing (fun _ => Request.announces_of_looks) e learner key b kept
    (fun _ _ => trivial) fun _ => trivial

/-! ## What a resolution does with what it finds -/

/-- The course of a resolution. -/
inductive Plan where
  | serve (row : StoredGrade)
  | zero
  | compute (readOnly : Bool) (known : Option StoredGrade)
  | fail (f : Failure)

/-- For a learner without a row. -/
def planAbsent (e : GradeEngine) (key : CourseKey) : Plan :=
  if e.flags.assumesZero key then .zero else .compute true none

/-- For a learner with a row, once the fingerprint is looked up. -/
def planStored (row : StoredGrade) : Except Failure PolicyHash → Plan
  | .error f => .fail f
  | .ok hash => if row.policyHash = hash then .serve row else .compute false (some row)

def plan (e : GradeEngine) (w : World) (learner : LearnerId) (c : Context) : Strategy → Plan
  | .forceUpdate => .compute false none
  | .createIfStale =>
    if e.flags.persists c.key then
      match (w.findRow learner c.key).1 with
      | .error x => .fail (.error (.storage x))
      | .ok none => e.planAbsent c.key
      | .ok (some row) => planStored row (w.hashOf c)
    else e.planAbsent c.key

open World (look_bind look_ask look_get look_pure look_log look_fail)

variable {w : World} {c : Context}

theorem look_createZero (w : World) (learner : Learner) (c : Context) :
    ∃ entries, w.look (createZero learner) c =
      ((.ok (.zero learner.id c.key), c), w.addLog entries) :=
  ⟨_, rfl⟩

/-- A storage error as resolutions report it. -/
def reported {α : Type} (o : Except StorageError α) : Except Failure α :=
  o.mapError fun x => .error (.storage x)

theorem look_stored {α : Type} (w : World) (c : Context) (o : Except StorageError α) :
    w.look (stored o) c = ((reported o, c), w) := by
  cases o <;> rfl

/-- Looking for a row changes nothing. -/
theorem look_rowOf (w : World) (c : Context) (learner : LearnerId) (key : CourseKey) :
    w.look (rowOf learner key) c = ((reported (w.findRow learner key).1, c), w) := by
  have still : (w.findRow learner key).2 = w := by
    unfold World.findRow
    split <;> rfl
  simp only [rowOf, look_bind, look_ask, World.answer, look_stored, still]

theorem look_write (w : World) (c : Context) (row : StoredGrade) :
    w.look (write row) c = ((reported (w.putRow row).1, c), (w.putRow row).2) := by
  simp only [write, look_bind, look_ask, World.answer, look_stored]

/-- Reading the store writes at most to the log, and to that when a row is found. -/
theorem look_readStored (e : GradeEngine) (w : World) (learner : Learner) (c : Context) :
    ∃ entries, w.look (e.readStored learner) c =
      if e.flags.persists c.key then
        match (w.findRow learner.id c.key).1 with
        | .error x => ((.error (.error (.storage x)), c), w)
        | .ok none => ((.ok none, c), w)
        | .ok (some row) => ((.ok (some row), c), w.addLog entries)
      else ((.ok none, c), w) := by
  simp only [readStored, look_bind, look_get]
  cases e.flags.persists c.key with
  | false => exact ⟨[], rfl⟩
  | true =>
    simp only [Bool.not_true, Bool.false_eq_true, if_false, if_true, look_bind, look_rowOf]
    rcases (w.findRow learner.id c.key).1 with x | _ | row
    · exact ⟨[], rfl⟩
    · exact ⟨[], rfl⟩
    · exact ⟨_, rfl⟩

/-- Carry out a plan. -/
def follow (e : GradeEngine) (w : World) (learner : Learner) (c : Context) :
    Plan → (Except Failure ResolvedGrade × Context) × World
  | .serve row => ((.ok (.ofStored row), c), w)
  | .zero => ((.ok (.zero learner.id c.key), c), w)
  | .compute readOnly known => w.look (e.recompute learner readOnly known) c
  | .fail f => ((.error f, c), w)

theorem look_createAbsent (e : GradeEngine) (w : World) (learner : Learner) (c : Context) :
    ∃ w₀, w.Quiet w₀ ∧
      w.look (e.createAbsent learner) c = e.follow w₀ learner c (e.planAbsent c.key) := by
  simp only [createAbsent, look_bind, look_get, planAbsent]
  cases e.flags.assumesZero c.key with
  | true =>
    obtain ⟨entries, zero⟩ := look_createZero w learner c
    exact ⟨w.addLog entries, World.quiet_addLog w entries, zero⟩
  | false => exact ⟨w, .refl w, rfl⟩

theorem look_createStored (e : GradeEngine) (w : World) (learner : Learner) (row : StoredGrade)
    (c : Context) : ∃ c₀ w₀, w.Follows c c₀ ∧ w.Quiet w₀ ∧
      w.look (e.createStored learner row) c =
        e.follow w₀ learner c₀ (planStored row (w.hashOf c)) := by
  have quiet := World.look_quiet Context.within_policyHash w c
  have follows := World.look_follows (w := w) Context.within_policyHash
    (fun _ => Request.mild_of_looks) c
  refine ⟨_, _, follows, quiet, ?_⟩
  rw [createStored, look_bind, ← World.look_policyHash]
  obtain ⟨⟨o, c'⟩, w'⟩ := w.look Context.policyHash c
  cases o with
  | error f => rfl
  | ok hash =>
    simp only [planStored]
    split <;> rfl

/-- **A resolution goes by its plan.** Up to there it fills cells of the context and
writes to the log. -/
theorem look_resolveHere (e : GradeEngine) (w : World) (learner : Learner) (c : Context)
    (s : Strategy) : ∃ c₀ w₀, w.Follows c c₀ ∧ w.Quiet w₀ ∧
      w.look (e.resolveHere learner s) c = e.follow w₀ learner c₀ (e.plan w learner.id c s) := by
  cases s with
  | forceUpdate => exact ⟨c, w, .refl w c, .refl w, rfl⟩
  | createIfStale =>
    obtain ⟨entries, read⟩ := look_readStored e w learner c
    obtain ⟨w₁, quiet₁, absent⟩ := look_createAbsent e w learner c
    simp only [resolveHere, createHere, plan, look_bind, read]
    cases e.flags.persists c.key with
    | false => exact ⟨c, w₁, .refl w c, quiet₁, absent⟩
    | true =>
      simp only [if_true]
      rcases (w.findRow learner.id c.key).1 with x | _ | row
      · exact ⟨c, w, .refl w c, .refl w, rfl⟩
      · exact ⟨c, w₁, .refl w c, quiet₁, absent⟩
      · have logged := World.quiet_addLog w entries
        obtain ⟨c₀, w₀, follows, quiet, same⟩ :=
          look_createStored e (w.addLog entries) learner row c
        have start := World.Follows.refl w c
        refine ⟨c₀, w₀, start.trans logged.toSameSource follows, logged.trans quiet, ?_⟩
        rw [← start.hashOf_eq logged.toSameSource]
        exact same

/-! ## What comes of a computation -/

/-- A world in which a computation has begun. -/
def begun (w : World) : World := { w with computations := w.computations + 1 }

/-- A world in which an operation wrote a row. -/
def wrote (w : World) (row : StoredGrade) : World :=
  { w with rows := w.rows.put row, writes := w.writes + 1 }

theorem look_recompute (e : GradeEngine) (w : World) (learner : Learner) (readOnly : Bool)
    (known : Option StoredGrade) (c : Context) :
    w.look (e.recompute learner readOnly known) c = (begun w).look (do
      let b ← e.calculator learner.id
      e.conclude learner readOnly known b) c := rfl

theorem steady_begun {w w' : World} (h : w.Steady w') : (begun w).Steady (begun w') where
  source := h.source
  faults := h.faults
  rows := h.rows
  scores := h.scores
  now := h.now
  computations := congrArg (· + 1) h.computations
  writes := h.writes

/-- A computation after some looking up leaves the world as one that has just begun, and only
fills the context. -/
theorem look_computing (e : GradeEngine) {w w₀ : World} {c c₀ : Context}
    (follows : w.Follows c c₀) (quiet : w.Quiet w₀) (learner : LearnerId) :
    (begun w).Steady ((begun w₀).look (e.calculator learner) c₀).2 ∧
      w.Follows c ((begun w₀).look (e.calculator learner) c₀).1.2 := by
  have consults := e.calculator.consults learner
  have mild : ∀ r, Request.consults r → r.mild := fun _ => Request.mild_of_consults
  constructor
  · exact (steady_begun quiet.toSteady).trans (World.look_steady consults mild c₀)
  · have same : w.SameSource (begun w₀) := ⟨quiet.source, quiet.faults⟩
    exact follows.trans same (World.look_follows consults mild c₀)

/-- The row a fresh one is written over: the one known, else the one on record. -/
def previousOf (w : World) (learner : LearnerId) (key : CourseKey) :
    Option StoredGrade → Except StorageError (Option StoredGrade)
  | some row => .ok (some row)
  | none => (w.findRow learner key).1

theorem look_keep (w : World) (learner : Learner) (known : Option StoredGrade)
    (b : GradeBreakdown) (c : Context) :
    w.look (keep learner known b) c = match previousOf w learner.id c.key known with
      | .error x => ((.error (.error (.storage x)), c), w)
      | .ok previous =>
        match w.look (StoredGrade.record learner.id b previous w.now) c with
        | ((.ok row, c), w) => ((reported (w.putRow row).1, c), (w.putRow row).2)
        | ((.error f, c), w) => ((.error f, c), w) := by
  have rest (previous : Option StoredGrade) : w.look (do
      let now ← Lookup.ask .clock
      let row ← StoredGrade.record learner.id b previous now
      write row) c = match w.look (StoredGrade.record learner.id b previous w.now) c with
        | ((.ok row, c), w) => ((reported (w.putRow row).1, c), (w.putRow row).2)
        | ((.error f, c), w) => ((.error f, c), w) := by
    simp only [look_bind, look_ask, World.answer, look_write]
    rcases w.look (StoredGrade.record learner.id b previous w.now) c with ⟨⟨f | row, c'⟩, w'⟩ <;>
      rfl
  simp only [keep, look_bind w c get, look_get]
  cases known with
  | some row => exact rest (some row)
  | none =>
    simp only [look_bind w c (rowOf _ _), look_rowOf, previousOf]
    cases (w.findRow learner.id c.key).1 with
    | error x => rfl
    | ok previous => exact rest previous

/-- A breakdown is kept as a row of its record, or something failed and nothing is. -/
theorem keep_cases (w : World) (learner : Learner) (known : Option StoredGrade)
    (b : GradeBreakdown) (c : Context) :
    w.Follows c (w.look (keep learner known b) c).1.2 ∧
      ((∃ f, (w.look (keep learner known b) c).1.1 = .error f ∧
          w.Quiet (w.look (keep learner known b) c).2) ∨
        ∃ previous row w₁, previousOf w learner.id c.key known = .ok previous ∧
          (w.look (StoredGrade.record learner.id b previous w.now) c).1.1 = .ok row ∧
          w.Quiet w₁ ∧ (w.look (keep learner known b) c).1.1 = .ok () ∧
          (w.look (keep learner known b) c).2 = wrote w₁ row) := by
  rw [look_keep]
  cases previousOf w learner.id c.key known with
  | error x => exact ⟨.refl w c, .inl ⟨_, rfl, .refl w⟩⟩
  | ok previous =>
    have within := StoredGrade.within_record learner.id b previous w.now
    have quiet := World.look_quiet within w c
    have follows := World.look_follows (w := w) within (fun _ => Request.mild_of_looks) c
    simp only
    generalize recorded : w.look (StoredGrade.record learner.id b previous w.now) c = r
      at quiet follows
    obtain ⟨⟨o, c'⟩, w'⟩ := r
    cases o with
    | error f => exact ⟨follows, .inl ⟨f, rfl, quiet⟩⟩
    | ok row =>
      refine ⟨follows, ?_⟩
      simp only [World.putRow]
      cases w'.faults.putRow with
      | some x => exact .inl ⟨_, rfl, quiet⟩
      | none => exact .inr ⟨previous, row, w', rfl, by rw [recorded], quiet, rfl, rfl⟩

/-- An answer announced is the breakdown. -/
theorem look_announce_ok {e : GradeEngine} {w : World} {learner : Learner} {key : CourseKey}
    {b : GradeBreakdown} {kept : Bool} {c : Context} {g : ResolvedGrade}
    (h : (w.look (e.announce learner key b kept) c).1.1 = .ok g) :
    g = .ofBreakdown learner.id key b kept := by
  obtain ⟨course, c₁, w₁, -, h⟩ := World.look_bind_ok h
  obtain ⟨report, c₂, w₂, -, h⟩ := World.look_bind_ok h
  have logged {w : World} {c : Context} {grade : ResolvedGrade} (h : (w.look (do
      let full ← Context.fullText
      Lookup.log .info .engine ("Grades: Update, " ++ full ++ ", User: " ++ learner.id.text ++
        ", " ++ grade.text ++ ", persisted: " ++ boolText kept)
      pure grade) c).1.1 = .ok g) : g = grade := by
    obtain ⟨full, c₃, w₃, -, h⟩ := World.look_bind_ok h
    obtain ⟨-, c₄, w₄, -, h⟩ := World.look_bind_ok h
    exact (Except.ok.inj h).symm
  split at h
  · obtain ⟨report, c₃, w₃, -, h⟩ := World.look_bind_ok h
    exact logged h
  · exact logged h

theorem steady_announce (e : GradeEngine) (w : World) (learner : Learner) (key : CourseKey)
    (b : GradeBreakdown) (kept : Bool) (c : Context) :
    w.Steady (w.look (e.announce learner key b kept) c).2 ∧
      w.Follows c (w.look (e.announce learner key b kept) c).1.2 :=
  have within := within_announce e learner key b kept
  ⟨World.look_steady within (fun _ => Request.mild_of_announces) c,
    World.look_follows within (fun _ => Request.mild_of_announces) c⟩

/-- What has come of a breakdown: no row is written, or one that keeps it. Either way an
answer, if there is one, is the breakdown and says which. -/
inductive Concluded (e : GradeEngine) (w : World) (learner : Learner) (readOnly : Bool)
    (known : Option StoredGrade) (b : GradeBreakdown) (c : Context)
    (o : Except Failure ResolvedGrade) (w' : World) : Prop where
  | unwritten (steady : w.Steady w')
      (answer : ∀ g, o = .ok g → e.keeps c.key readOnly b = false ∧
        g = .ofBreakdown learner.id c.key b false)
  | written (previous : Option StoredGrade) (row : StoredGrade)
      (keeps : e.keeps c.key readOnly b = true)
      (found : previousOf w learner.id c.key known = .ok previous)
      (recorded : (w.look (StoredGrade.record learner.id b previous w.now) c).1.1 = .ok row)
      (steady : (wrote w row).Steady w')
      (answer : ∀ g, o = .ok g → g = .ofBreakdown learner.id c.key b true)

theorem steady_wrote {w w' : World} (h : w.Steady w') (row : StoredGrade) :
    (wrote w row).Steady (wrote w' row) where
  source := h.source
  faults := h.faults
  rows := congrArg (·.put row) h.rows
  scores := h.scores
  now := h.now
  computations := h.computations
  writes := congrArg (· + 1) h.writes

theorem conclude_cases (e : GradeEngine) (w : World) (learner : Learner) (readOnly : Bool)
    (known : Option StoredGrade) (b : GradeBreakdown) (c : Context) :
    w.Follows c (w.look (e.conclude learner readOnly known b) c).1.2 ∧
      Concluded e w learner readOnly known b c
        (w.look (e.conclude learner readOnly known b) c).1.1
        (w.look (e.conclude learner readOnly known b) c).2 := by
  simp only [conclude, look_bind w c get, look_get]
  cases keeps : e.keeps c.key readOnly b with
  | false =>
    obtain ⟨steady, follows⟩ := steady_announce e w learner c.key b false c
    exact ⟨follows, .unwritten steady fun g answered => ⟨keeps, look_announce_ok answered⟩⟩
  | true =>
    obtain ⟨follows, kept⟩ := keep_cases w learner known b c
    simp only [if_true, look_bind]
    generalize w.look (keep learner known b) c = r at follows kept
    obtain ⟨⟨o, c₁⟩, w₁⟩ := r
    rcases kept with ⟨f, failed, quiet⟩ | ⟨previous, row, w₀, found, recorded, quiet, ok, wrote⟩
    · subst failed
      exact ⟨follows, .unwritten quiet.toSteady fun g answered => by cases answered⟩
    · subst ok wrote
      obtain ⟨steady, follows'⟩ := steady_announce e (GradeEngine.wrote w₀ row) learner c.key b
        true c₁
      have written := (steady_wrote quiet.toSteady row).trans steady
      have same : w.SameSource (GradeEngine.wrote w₀ row) := ⟨quiet.source, quiet.faults⟩
      refine ⟨follows.trans same follows', ?_⟩
      exact .written previous row keeps found recorded written fun g answered =>
        look_announce_ok answered

end GradeEngine

/-- The snapshot of a batch takes looking things up, and nothing else. -/
theorem Batch.within_prepare : Within Request.looks Batch.prepare :=
  within_bind Context.within_content fun _ =>
    within_bind GradeEngine.within_availableCourse fun _ => within_pure _

/-! ## A small course -/

namespace Sample

def key : CourseKey := ⟨"algebra"⟩

def learner : Learner := .ofId ⟨1⟩

/-- Half of the homework is a pass. -/
def homework : GradingPolicy where
  graders := [⟨"Homework", "HW", .ofFloat 1.0, 0, 0⟩]
  cutoffs := (∅ : Dictionary Double).insert "Pass" (.ofFloat 0.5)

/-- The course with these blocks of homework. -/
def course (version : Option String) (blocks : List BlockId) : CourseDefinition :=
  ⟨key, "Algebra", none, version, none, homework,
    blocks.map fun id => ⟨id, "", some "Homework", true⟩⟩

/-- Full marks on a block. -/
def score : Score := ⟨.ofFloat 1.0, .ofFloat 1.0, true, default⟩

/-- Every grade is kept, and no listener is told. -/
def engine : GradeEngine := ⟨{}, .weighted, []⟩

def world (d : CourseDefinition) : World := { source := .shelf [(d.key, d)] }

end Sample

end Gradebook
