/-
# Gradebook.Proofs.AcceptedScores — the scores that were accepted, and grading by them

The command that records a score refuses negative numbers and takes all others, NaN and the
infinities too. Those are written as null, which does not read back; and an answer about a
learner in a course is given only if all of its texts read back. So one such number, in the
score last recorded on one block, takes the scores of its learner in its course away.

`Workspace.Recorded` is a workspace with the history of its store: opened over a store that
was not there, opened again, at other times and with other course files, and whatever commands
were carried out in it. `recorded_scores_decide` says of all of these that the answers are
exactly the scores last recorded, that an answer is given exactly if their numbers are finite,
and that a grade fails for want of its scores exactly if it is computed without that answer.
`nan_is_accepted_and_stops_grading` is a workspace where it does.
-/
import Gradebook.CommandLine.Workspace
import Gradebook.Proofs.BatchSingles
import Gradebook.Proofs.ScoreKeys

namespace Gradebook

set_option autoImplicit false

open Dialogue (KeptBy)
open Lookup (Meets Tries crashes tries_bind tries_pure tries_ask tries_throw)

/-! ## Numbers that are written -/

/-- A number, and neither NaN nor an infinity. -/
def Double.Finite (x : Double) : Prop := ∃ b, Decimal.kind x.value = .finite b

namespace Score

def Finite (score : Score) : Prop := score.earned.Finite ∧ score.possible.Finite

/-- The calendar covers the time of the score, and its finite numbers read back exactly. -/
structure Exact (score : Score) : Prop where
  recordedAt : score.recordedAt.Representable
  earned : score.earned.Finite → score.earned.readBack? = some score.earned
  possible : score.possible.Finite → score.possible.readBack? = some score.possible

end Score

namespace EncodedScores

/-- What is not finite is written as null, and nothing is read from that. -/
theorem readBack?_of_not_finite {x : Double} (h : ¬x.Finite) : x.readBack? = none :=
  Double.readBack?_eq_none fun b finite => h ⟨b, finite⟩

/-- **A score reads back if its numbers are finite**, and then as itself. -/
theorem decode_encode_iff {score found : Score} (exact : score.Exact) :
    decode (encode score) = .ok found ↔ score.Finite ∧ score = found := by
  refine ⟨fun h => ?_, fun ⟨⟨earned, possible⟩, same⟩ => ?_⟩
  · have read := toOption_decode_encode exact.recordedAt
    rw [h] at read
    by_cases earned : score.earned.Finite
    · by_cases possible : score.possible.Finite
      · rw [exact.earned earned, exact.possible possible] at read
        exact ⟨⟨earned, possible⟩, (Option.some.inj read).symm⟩
      · rw [exact.earned earned, readBack?_of_not_finite possible] at read
        cases read
    · rw [readBack?_of_not_finite earned] at read
      cases read
  · rw [← same]
    exact decode_encode ⟨exact.recordedAt, exact.earned earned, exact.possible possible⟩

/-! ## Answers -/

/-- The scores of the learner in the course can be read. -/
def Answers (s : EncodedScores) (learner : LearnerId) (key : CourseKey) : Prop :=
  ∃ d, s.scoresOf learner key = .ok d

/-- The scores last recorded for the learner in the course have finite numbers. -/
def Recording.Finite (learner : LearnerId) (key : CourseKey) (rs : List Recording) : Prop :=
  ∀ block score, last? learner key block rs = some score → score.Finite

namespace Holds

variable {s : EncodedScores} {rs : List Recording} {learner : LearnerId} {key : CourseKey}

theorem exact_of_last? (exact : ∀ r ∈ rs, r.score.Exact) {block : BlockId} {score : Score}
    (last : Recording.last? learner key block rs = some score) : score.Exact := by
  obtain ⟨r, recorded, rfl⟩ := Recording.exists_of_last? last
  exact exact r recorded

variable (h : s.Holds rs) (zeroFree : ∀ r ∈ rs, r.key.ZeroFree) (exact : ∀ r ∈ rs, r.score.Exact)
include h exact

include zeroFree in
/-- An answer is given if the scores found for it were finite, whoever they belong to. -/
theorem answers_of_finite (finite : ∀ r ∈ rs,
      Text.startsWith (start learner key) (keyOf r.learner r.key r.block) = true →
      Recording.Finite r.learner r.key rs) : s.Answers learner key := by
  refine exists_scoresOf fun e member => ?_
  obtain ⟨r, recorded, score, block, named, read, last, text⟩ := h.last_of_scan zeroFree member
  have begun := (ByteTable.mem_scan.1 member).2
  rw [named] at begun
  refine ⟨block, score, read, ?_⟩
  rw [text, decode_encode_iff (exact_of_last? exact last)]
  exact ⟨finite r recorded begun r.block score last, rfl⟩

/-- An answer lists the scores last recorded, all of them finite. -/
theorem of_answer (free : key.ZeroFree) {d : Dictionary Score}
    (answered : s.scoresOf learner key = .ok d) :
    Recording.Finite learner key rs ∧
      ∀ block, d.find? block = Recording.last? learner key block rs := by
  have finite : Recording.Finite learner key rs := by
    intro block score last
    have known := h.text learner key block free
    rw [last, Option.map_some] at known
    obtain ⟨_, found, -, value⟩ := exists_decode answered (mem_scan_of_find? known)
    exact ((decode_encode_iff (exact_of_last? exact last)).1 value).1
  refine ⟨finite, fun block => Option.ext fun score => ?_⟩
  rw [find?_of_scoresOf answered, h.text learner key block free]
  cases last : Recording.last? learner key block rs with
  | none => simp
  | some score' =>
    have value (found : Score) : decode (encode score') = .ok found ↔ score' = found := by
      rw [decode_encode_iff (exact_of_last? exact last), and_iff_right (finite block score' last)]
    simp [value]

include zeroFree in
/-- **An answer is given if the scores last recorded are finite**, and not otherwise. -/
theorem answers_iff (free : key.ZeroFree) :
    s.Answers learner key ↔ Recording.Finite learner key rs := by
  refine ⟨fun ⟨d, answered⟩ => (h.of_answer exact free answered).1, fun finite => ?_⟩
  refine h.answers_of_finite zeroFree exact fun r recorded begun => ?_
  rcases startsWith_start begun with ⟨rfl, rfl⟩ | nested
  · exact finite
  · exact absurd nested (CourseKey.not_nested free (zeroFree r recorded))

end Holds

end EncodedScores

/-! ## Grades for want of scores -/

/-- The scores could not be read. -/
def Failure.ofScores : Failure → Bool
  | .error (.calculation (.scoresUnavailable _)) => true
  | _ => false

/-- An outcome that there is none for want of scores. -/
def lacksScores {α : Type} : Except Failure α → Bool
  | .error f => f.ofScores
  | .ok _ => false

theorem lacksScores_map {α β : Type} (f : α → β) (o : Except Failure α) :
    lacksScores (o.map f) = lacksScores o := by
  cases o <;> rfl

/-- A crash that is contained is no want of scores. -/
theorem lacksScores_contained {α : Type} (o : Except Failure α) :
    lacksScores ((o.mapError Failure.contained).mapError .error) = lacksScores o := by
  rcases o with (x | k) | a <;> rfl

/-- How the scores decide about an outcome: with them it does not lack them, and without them
it does if a grade had to be computed. -/
structure DecidedBy {α : Type} (answers : Prop) (σ : Strategy) (o : Except Failure α) : Prop where
  spared : answers → lacksScores o = false
  stopped : σ = .forceUpdate → ¬answers → lacksScores o = true

theorem DecidedBy.contained {α : Type} {answers : Prop} {σ : Strategy} {o : Except Failure α}
    (h : DecidedBy answers σ o) :
    DecidedBy answers σ ((o.mapError Failure.contained).mapError .error) where
  spared given := (lacksScores_contained o).trans (h.spared given)
  stopped forced absent := (lacksScores_contained o).trans (h.stopped forced absent)

theorem DecidedBy.map {α β : Type} {answers : Prop} {σ : Strategy} {o : Except Failure α}
    (h : DecidedBy answers σ o) (f : α → β) : DecidedBy answers σ (o.map f) where
  spared given := (lacksScores_map f o).trans (h.spared given)
  stopped forced absent := (lacksScores_map f o).trans (h.stopped forced absent)

namespace World

/-- What operations leave as it was: the content on offer, what fails, the scores, and whether
rows are kept in memory. -/
structure Bears (w w' : World) : Prop extends SameSource w w' where
  scores : w'.scores = w.scores
  rows : w'.rows.InMemory ↔ w.rows.InMemory

theorem Bears.refl (w : World) : w.Bears w := ⟨⟨rfl, rfl⟩, rfl, Iff.rfl⟩

theorem Bears.trans {w₁ w₂ w₃ : World} (h : w₁.Bears w₂) (k : w₂.Bears w₃) : w₁.Bears w₃ where
  toSameSource := h.toSameSource.trans k.toSameSource
  scores := k.scores.trans h.scores
  rows := k.rows.trans h.rows

theorem bears_answer (r : Request) (w : World) : w.Bears (answer r w).2 where
  toSameSource := sameSource_answer r w
  scores := scores_answer r w
  rows := by
    have mild (mild : r.mild) : (answer r w).2.rows.InMemory ↔ w.rows.InMemory := by
      rw [(steady_answer mild w).rows]
    cases r with
    | putRow row =>
      simp only [answer, putRow]
      split
      · exact Iff.rfl
      · exact RowStore.inMemory_put_iff w.rows row
    | clear key => exact Iff.rfl
    | computing learner => exact Iff.rfl
    | loadCourse | loadContent | findRow | scoresOf | groups | deliver | clock | log =>
      exact mild trivial

theorem bears_run {α : Type} (d : Dialogue α) (w : World) : w.Bears (w.run d).2 := by
  induction d generalizing w with
  | done a => exact .refl w
  | ask r next ih => exact (bears_answer r w).trans (ih _ _)

theorem Bears.scoresOf_eq {w w' : World} (h : w.Bears w') (learner : LearnerId)
    (key : CourseKey) : (w'.scoresOf learner key).1 = (w.scoresOf learner key).1 :=
  World.scoresOf_eq h.faults h.scores learner key

/-- The replies of the loader and of the scores. -/
def replies (w : World) : Terms where
  asks _ := True
  given r reply := match r, reply with
    | .loadCourse key, reply => reply = (w.loadCourse key).1
    | .loadContent key, reply => reply = (w.loadContent key).1
    | .scoresOf learner key, reply => reply = (w.scoresOf learner key).1
    | _, _ => True

theorem keptBy_replies (w : World) : KeptBy w.replies answer w.Bears := by
  intro r w' bears _
  refine ⟨?_, bears.trans (bears_answer r w')⟩
  cases r with
  | loadCourse key => exact bears.loadCourse_eq key
  | loadContent key => exact bears.loadContent_eq key
  | scoresOf learner key => exact bears.scoresOf_eq learner key
  | _ => trivial

section Has

variable {w : World} {key : CourseKey} {d : CourseDefinition} (has : w.Has key d)
include has

theorem Has.loadable_replies :
    Context.Loadable w.replies (Context.Views key d) fun _ => False where
  asks _ _ := trivial
  lasting :=
    { course := fun c x views empty given => has.lasting_views.course c x views empty given
      content := fun c x views empty given => has.lasting_views.content c x views empty given
      hash := fun c x views empty held => has.lasting_views.hash c x views empty held }
  course := has.loadable.course
  content := has.loadable.content

/-- With the scores at hand the weighted calculator does not lack them. -/
theorem Has.tries_weighted {learner : LearnerId} {scores : Dictionary Score}
    (answered : (w.scoresOf learner d.key).1 = .ok scores) :
    Tries w.replies.discreet (Context.Views key d) (fun f => f.ofScores = false)
      (Calculator.weighted learner) := by
  refine Calculator.tries_weighted_reading has.loadable_replies.discreet
    (fun r consults => ⟨trivial, Request.discreet_of_consults consults⟩) (fun _ => False.elim)
    (fun _ => rfl) learner fun c x cause views held given => ?_
  have failed : Except.error cause = (w.scoresOf learner x.courseKey).1 := given
  rw [views.content x held] at failed
  cases failed.trans answered

variable {e : GradeEngine} (weighted : e.calculator = .weighted) {learner : Learner} {c : Context}
  (views : c.Views key d)
include weighted views

/-- Nor does anything else in a resolution. -/
theorem Has.spared_resolveHere {scores : Dictionary Score}
    (answered : (w.scoresOf learner.id d.key).1 = .ok scores) (σ : Strategy) :
    lacksScores (w.look (e.resolveHere learner σ) c).1.1 = false := by
  have resolvable : GradeEngine.Resolvable w.replies (Context.Views key d) (fun _ => False)
      (fun f => f.ofScores = false) learner.id :=
    { loads := has.loadable_replies, asks := fun _ _ => trivial
      loading := fun _ => False.elim, storing := fun _ => rfl }
  have computes : Tries w.replies.discreet (Context.Views key d) (fun f => f.ofScores = false)
      (e.calculator learner.id) := by
    rw [weighted]
    exact has.tries_weighted answered
  have settles := GradeEngine.settles_resolveHere resolvable computes σ
  have fails := (settles.look (fun _ late => late.1.elim) (keptBy_replies w) (.refl w) views).1
  generalize (w.look (e.resolveHere learner σ) c).1.1 = o at fails ⊢
  cases o with
  | error f => exact fails f rfl
  | ok g => rfl

/-- **A grade is computed with its scores, or fails for want of them.** -/
theorem Has.decided (valid : d.gradingPolicy.validate = .ok ()) (σ : Strategy) :
    DecidedBy (∃ scores, (w.scoresOf learner.id d.key).1 = .ok scores) σ
      (w.look (e.resolveHere learner σ) c).1.1 where
  spared := fun ⟨_, answered⟩ => has.spared_resolveHere weighted views answered σ
  stopped := by
    rintro rfl absent
    cases failed : (w.scoresOf learner.id d.key).1 with
    | ok scores => exact absurd ⟨scores, failed⟩ absent
    | error cause =>
      have same : w.SameSource (GradeEngine.begun w) := ⟨rfl, rfl⟩
      have content : (GradeEngine.begun w).contentOf c = .ok d.content :=
        (has.same same).contentOf views
      have scores : ((GradeEngine.begun w).scoresOf learner.id d.content.courseKey).1 =
          (w.scoresOf learner.id d.key).1 := scoresOf_eq same.faults rfl learner.id d.key
      have valid : d.content.gradingPolicy.validate = .ok () := valid
      have computed : ((GradeEngine.begun w).look (Calculator.weighted learner.id) c).1.1 =
          .error (.error (.calculation (.scoresUnavailable cause))) := by
        simp only [look_weighted, computation, content, valid, scores, failed]
        rfl
      rw [GradeEngine.resolveHere, GradeEngine.updateHere, GradeEngine.look_recompute, look_bind,
        weighted]
      generalize (GradeEngine.begun w).look (Calculator.weighted learner.id) c = r at computed ⊢
      obtain ⟨⟨o, c'⟩, w'⟩ := r
      cases computed
      rfl

end Has

end World

/-! ## Commands -/

namespace Session

/-- The same engine, and what operations leave of the world. -/
structure Bears (s s' : Session) : Prop where
  engine : s'.engine = s.engine
  world : s.world.Bears s'.world

theorem Bears.refl (s : Session) : s.Bears s := ⟨rfl, .refl s.world⟩

theorem Bears.trans {s₁ s₂ s₃ : Session} (h : s₁.Bears s₂) (k : s₂.Bears s₃) : s₁.Bears s₃ :=
  ⟨k.engine.trans h.engine, h.world.trans k.world⟩

theorem bears_carryOut {α : Type} (s : Session) (d : Dialogue α) : s.Bears (s.carryOut d).2 :=
  ⟨rfl, World.bears_run d s.world⟩

theorem bears_startBatch (s : Session) (supply : Supply) (i : CourseInputs) (σ : Strategy) :
    s.Bears (s.step (.startBatch supply i σ)).2 := by
  have carried := bears_carryOut s (Batch.start supply i σ)
  simp only [step, startBatch]
  split <;> exact ⟨carried.engine, carried.world⟩

theorem bears_nextResult (s : Session) (n : Nat) : s.Bears (s.step (.nextResult n)).2 := by
  simp only [step, nextResult]
  split
  · exact .refl s
  · next b _ =>
    have carried := bears_carryOut s (b.next s.engine)
    exact ⟨carried.engine, carried.world⟩

end Session

namespace Workspace

open EncodedScores (Recording)

theorem bears_results (fuel : Nat) (s : Session) (n : Nat) : s.Bears (results fuel s n).2 := by
  induction fuel generalizing s with
  | zero => exact .refl s
  | succ fuel ih =>
    have next := s.bears_nextResult n
    rw [results]
    generalize s.step (.nextResult n) = called at next ⊢
    obtain ⟨a, s'⟩ := called
    rcases a with _ | _ | _ | (_ | r) | _ | _ | _
    case result.some => exact next.trans (ih s')
    all_goals exact next

theorem bears_gradeBatch (s : Session) (course : CourseKey) (learners : List LearnerId)
    (σ : Strategy) (format : Presentation.Format) :
    s.Bears (gradeBatch s course learners σ format).2 := by
  have started := s.bears_startBatch (.ofLearners (learners.map Learner.ofId)) (.ofKey course) σ
  simp only [gradeBatch]
  generalize s.step (.startBatch (.ofLearners (learners.map Learner.ofId)) (.ofKey course) σ) =
    called at started ⊢
  obtain ⟨a, s'⟩ := called
  rcases a with _ | _ | (_ | n) | _ | _ | _ | _
  case kept.ok => exact started.trans (bears_results _ s' n)
  all_goals exact started

/-- The score that a command records, if it reports success. -/
def recorded? (w : Workspace) (c : Command) : Option Recording :=
  match c, (w.execute c).1 with
  | .recordScore learner course block earned possible attempted, .ok _ =>
    some ⟨learner, course, block, ⟨earned, possible, attempted, w.session.world.now⟩⟩
  | _, _ => none

/-- The step that records a score. -/
def step (r : Recording) : Step := .record r.learner r.key r.block r.score

/-- A score is refused if one of its numbers is negative, and recorded if not. -/
theorem execute_recordScore (w : Workspace) (learner : LearnerId) (course : CourseKey)
    (block : BlockId) (earned possible : Double) (attempted : Bool) :
    let c : Command := .recordScore learner course block earned possible attempted
    let r : Recording :=
      ⟨learner, course, block, ⟨earned, possible, attempted, w.session.world.now⟩⟩
    if possible.value < 0.0 || earned.value < 0.0 then
      w.recorded? c = none ∧ (w.execute c).2.session = w.session
    else w.recorded? c = some r ∧ (w.execute c).2.session = (w.session.step (step r)).2 := by
  intro c r
  split
  · next negative =>
    have refused : recordScore w.session learner course block earned possible attempted =
        (.error (.error (.settings .negativeScore)), w.session) := if_pos negative
    simp only [c, recorded?, execute, carryOut, refused, and_self]
  · next accepted =>
    have kept : recordScore w.session learner course block earned possible attempted = _ :=
      if_neg accepted
    simp only [c, recorded?, execute, carryOut, kept]
    exact ⟨rfl, rfl⟩

/-- **What a command does to a workspace**: it records its score, or it leaves the scores alone. -/
theorem execute_cases (w : Workspace) (c : Command) :
    (w.recorded? c = none ∧ w.session.Bears (w.execute c).2.session) ∨
      ∃ r, w.recorded? c = some r ∧ (w.execute c).2.session = (w.session.step (step r)).2 := by
  cases c with
  | create t =>
    exact .inl ⟨rfl, w.session.bears_carryOut (w.session.engine.create (learnerOf t) _)⟩
  | read t =>
    exact .inl ⟨rfl, w.session.bears_carryOut (w.session.engine.read (learnerOf t) _)⟩
  | update t =>
    exact .inl ⟨rfl, w.session.bears_carryOut
      (w.session.engine.update (learnerOf t) (.ofKey t.course))⟩
  | batch course learners σ format => exact .inl ⟨rfl, bears_gradeBatch _ course learners σ format⟩
  | courses => exact .inl ⟨rfl, .refl w.session⟩
  | recordScore learner course block earned possible attempted =>
    have carried := execute_recordScore w learner course block earned possible attempted
    dsimp only at carried
    split at carried
    · exact .inl ⟨carried.1, carried.2 ▸ .refl w.session⟩
    · exact .inr ⟨_, carried⟩

/-- The workspace at another time. -/
def atTime (w : Workspace) (now : Instant) : Workspace :=
  { w with session := w.session.atTime now }

/-- A workspace in use, and the scores recorded by its commands since its store was new. -/
inductive Recorded : Workspace → List Recording → Prop
  /-- Opened where there was no store. -/
  | created {disk : Disk} {root : String} {now : Instant} {s : Settings} {notes : List LogEntry}
      {w : Workspace} {left : Disk × List LogEntry}
      (opened : ofSettings disk root now s notes = (.ok w, left))
      (none : Assoc.find? w.store disk.databases = none) : w.Recorded []
  /-- Opened again over the store that was left behind. -/
  | reopened {w : Workspace} {rs : List Recording} (before : w.Recorded rs) {disk : Disk}
      {root : String} {now : Instant} {s : Settings} {notes : List LogEntry} {w' : Workspace}
      {left : Disk × List LogEntry}
      (opened : ofSettings (w.save disk) root now s notes = (.ok w', left))
      (same : w'.store = w.store) : w'.Recorded rs
  /-- Time has passed, and the course files are others. -/
  | passed {w : Workspace} {rs : List Recording} (before : w.Recorded rs) (now : Instant)
      (files : Files) : ((w.withFiles files).atTime now).Recorded rs
  | executed {w : Workspace} {rs : List Recording} (before : w.Recorded rs) (c : Command) :
      (w.execute c).2.Recorded (rs ++ (w.recorded? c).toList)

/-- What commands keep of a workspace whose store holds these scores. -/
structure Keeps (w : Workspace) (rs : List Recording) : Prop where
  weighted : w.session.engine.calculator = .weighted
  faults : w.session.world.faults = {}
  catalog : ∃ c files, w.session.world.source = .catalog c files
  rows : ¬w.session.world.rows.InMemory
  scores : ∃ s, w.session.world.scores = .encoded s ∧ s.Holds rs

namespace Keeps

variable {w : Workspace} {rs : List Recording}

theorem bears (h : w.Keeps rs) {s : Session} (bears : w.session.Bears s) :
    ({ w with session := s } : Workspace).Keeps rs where
  weighted := by
    show s.engine.calculator = .weighted
    rw [bears.engine]
    exact h.weighted
  faults := bears.world.faults.trans h.faults
  catalog := by
    obtain ⟨c, files, same⟩ := h.catalog
    exact ⟨c, files, bears.world.source.trans same⟩
  rows := fun memory => h.rows (bears.world.rows.1 memory)
  scores := by
    obtain ⟨s', same, holds⟩ := h.scores
    exact ⟨s', bears.world.scores.trans same, holds⟩

theorem record (h : w.Keeps rs) {r : Recording} (zeroFree : r.key.ZeroFree) :
    ({ w with session := (w.session.step (step r)).2 } : Workspace).Keeps (rs ++ [r]) where
  weighted := h.weighted
  faults := h.faults
  catalog := h.catalog
  rows := h.rows
  scores := by
    obtain ⟨s, same, holds⟩ := h.scores
    refine ⟨s.record r.learner r.key r.block r.score, ?_, holds.record zeroFree⟩
    show w.session.world.scores.record r.learner r.key r.block r.score = _
    rw [same]
    rfl

/-- **A command keeps the scores there are, and adds the one that it records.** -/
theorem execute (h : w.Keeps rs) {c : Command}
    (zeroFree : ∀ r ∈ (w.recorded? c).toList, r.key.ZeroFree) :
    (w.execute c).2.Keeps (rs ++ (w.recorded? c).toList) := by
  have unfolded : (w.execute c).2 = { w with session := (w.execute c).2.session } := rfl
  rcases execute_cases w c with ⟨none, bears⟩ | ⟨r, recorded, session⟩
  · rw [none, Option.toList_none, List.append_nil, unfolded]
    exact h.bears bears
  · rw [recorded] at zeroFree ⊢
    rw [unfolded, session]
    exact h.record (zeroFree r (by simp))

/-- A workspace opened over a database keeps its scores. -/
theorem of_session {s : Settings} {db : Database} {c : Catalog} {files : Files} {now : Instant}
    {log : List LogEntry} (h : w.session = sessionOf s db (.catalog c files) now log)
    (holds : db.scores.Holds rs) : w.Keeps rs where
  weighted := by rw [h]; rfl
  faults := by rw [h]; rfl
  catalog := ⟨c, files, by rw [h]; rfl⟩
  rows := by rw [h]; exact id
  scores := ⟨db.scores, by rw [h]; rfl, holds⟩

/-- What it leaves in the database are the same scores. -/
theorem database (h : w.Keeps rs) : w.database.scores.Holds rs := by
  obtain ⟨s, same, holds⟩ := h.scores
  have encoded := h.rows
  rw [Workspace.database, same]
  generalize w.session.world.rows = rows at encoded
  cases rows with
  | memory rows => exact absurd trivial encoded
  | encoded rows => exact holds

end Keeps

/-- An opened workspace has a session over the database at its place. -/
theorem session_of_ofSettings {disk : Disk} {root : String} {now : Instant} {s : Settings}
    {notes : List LogEntry} {w : Workspace} {left : Disk × List LogEntry}
    (opened : ofSettings disk root now s notes = (.ok w, left)) :
    ∃ c files log, w.session = sessionOf s ((Assoc.find? w.store disk.databases).getD {})
      (.catalog c files) now log := by
  simp only [ofSettings] at opened
  split at opened
  · cases opened
  · next disk' store found =>
    have databases : disk'.databases = disk.databases := by
      simp only [openStore] at found
      split at found
      · cases found
      · cases found
        rfl
    split at opened
    · cases opened
    · next c _ =>
      cases opened
      rw [databases]
      exact ⟨_, _, _, rfl⟩

theorem Recorded.keeps {w : Workspace} {rs : List Recording} (h : w.Recorded rs)
    (zeroFree : ∀ r ∈ rs, r.key.ZeroFree) : w.Keeps rs := by
  induction h with
  | created opened none =>
    obtain ⟨c, files, log, session⟩ := session_of_ofSettings opened
    rw [none] at session
    exact .of_session session .empty
  | reopened before opened same ih =>
    obtain ⟨c, files, log, session⟩ := session_of_ofSettings opened
    rw [save, same, Assoc.find?_put_self] at session
    exact .of_session session (ih zeroFree).database
  | @passed w rs before now files ih =>
    have kept := ih zeroFree
    exact ⟨kept.weighted, kept.faults, ⟨w.catalog, files, rfl⟩, kept.rows, kept.scores⟩
  | executed before c ih =>
    have kept := ih fun r member => zeroFree r (List.mem_append_left _ member)
    exact kept.execute fun r member => zeroFree r (List.mem_append_right _ member)

/-! ## Grading in a workspace -/

section Grading

variable {s : Session} {course : CourseKey} {d : CourseDefinition}

/-- The report of a create or an update. -/
theorem decided_report (weighted : s.engine.calculator = .weighted) (has : s.world.Has course d)
    (valid : d.gradingPolicy.validate = .ok ()) (learner : Learner) (σ : Strategy)
    (format : Presentation.Format) :
    DecidedBy (∃ scores, (s.world.scoresOf learner.id d.key).1 = .ok scores) σ
      (gradeReport format (s.step (.single learner (.ofKey course) σ)).1) := by
  rw [Session.step_single (Session.ofInputs_key (some learner.id) course)]
  exact (has.decided weighted (Session.views_bare _) valid σ).map _

/-- The results of a batch. -/
theorem decided_results {w : World} (weighted : s.engine.calculator = .weighted)
    (has : w.Has course d) (valid : d.gradingPolicy.validate = .ok ()) (bears : w.Bears s.world)
    {n : Nat} {b : Batch} (held : s.batches[n]? = some b) (views : b.context.Views course d)
    {learners : List Learner} (supply : b.supply = .ofLearners learners) {fuel : Nat}
    (enough : learners.length < fuel) :
    (results fuel s n).1.map (·.learner) = learners ∧ ∀ r ∈ (results fuel s n).1,
      DecidedBy (∃ scores, (w.scoresOf r.learner.id d.key).1 = .ok scores) b.strategy
        (r.outcome.mapError .error) := by
  induction learners generalizing s b fuel with
  | nil =>
    obtain ⟨fuel, rfl⟩ := Nat.exists_eq_succ_of_ne_zero (Nat.ne_of_gt enough)
    simp only [results, Session.step_nextResult_nil held supply]
    exact ⟨rfl, fun r member => nomatch member⟩
  | cons learner learners ih =>
    obtain ⟨fuel, rfl⟩ := Nat.exists_eq_succ_of_ne_zero (Nat.ne_of_gt (Nat.zero_lt_of_lt enough))
    have views' : (b.context.forLearner learner.id).Views course d :=
      ⟨views.key, views.course, views.content, views.hash⟩
    have decided : DecidedBy (∃ scores, (s.world.scoresOf learner.id d.key).1 = .ok scores)
        b.strategy (s.world.look (s.engine.resolveHere learner b.strategy)
          (b.context.forLearner learner.id)).1.1 :=
      (has.same bears.toSameSource).decided weighted views' valid b.strategy
    rw [bears.scoresOf_eq] at decided
    obtain ⟨graded, -⟩ := Batch.run_gradeOne s.world s.engine b learner
    have still := World.bears_run (b.gradeOne s.engine learner) s.world
    have called := Session.step_nextResult_some held supply
    generalize s.world.run (b.gradeOne s.engine learner) = element at graded still called
    let rest : Batch := { b with supply := .ofLearners learners }
    obtain ⟨order, others⟩ := ih (s := s.called n element.2 rest) weighted (bears.trans still)
      (Session.held_called held _ _) views rfl (Nat.lt_of_succ_lt_succ enough)
    have first : (results (fuel + 1) s n).1 =
        element.1 :: (results fuel (s.called n element.2 rest) n).1 := by
      rw [results, called]
      rfl
    rw [first, graded]
    refine ⟨congrArg (learner :: ·) order, fun r member => ?_⟩
    rcases List.mem_cons.1 member with rfl | member
    · exact decided.contained
    · exact others r member

/-- The results that a batch reports. -/
def graded (s : Session) (course : CourseKey) (learners : List LearnerId) (σ : Strategy) :
    List GradeResult :=
  let supply := Supply.ofLearners (learners.map Learner.ofId)
  match s.step (.startBatch supply (.ofKey course) σ) with
  | (.kept (.ok batch), s) => (results (supply.length + 1) s batch).1
  | _ => []

/-- The report of a batch. -/
theorem decided_graded (weighted : s.engine.calculator = .weighted) (has : s.world.Has course d)
    (valid : d.gradingPolicy.validate = .ok ()) (learners : List LearnerId) (σ : Strategy) :
    (∀ format, (gradeBatch s course learners σ format).1 =
      .ok (Presentation.batch (graded s course learners σ) format)) ∧
    (graded s course learners σ).map (·.learner.id) = learners ∧
    ∀ r ∈ graded s course learners σ,
      DecidedBy (∃ scores, (s.world.scoresOf r.learner.id d.key).1 = .ok scores) σ
        (r.outcome.mapError .error) := by
  obtain ⟨b, w, started, quiet, views, supply, rfl⟩ :=
    Session.startBatch_has has (.ofLearners (learners.map Learner.ofId)) σ
  let s' : Session := { s with world := w, batches := s.batches ++ [b] }
  have held : s'.batches[s.batches.length]? = some b := List.getElem?_concat_length
  have bears : s.world.Bears w := by
    have begun := s.bears_startBatch (.ofLearners (learners.map Learner.ofId)) (.ofKey course)
      b.strategy
    rw [started] at begun
    exact begun.world
  have enough : (learners.map Learner.ofId).length <
      (Supply.ofLearners (learners.map Learner.ofId)).length + 1 := by
    simp [Supply.ofLearners]
  obtain ⟨order, each⟩ :=
    decided_results (s := s') weighted has valid bears held views supply enough
  have all : graded s course learners b.strategy = (results
      ((Supply.ofLearners (learners.map Learner.ofId)).length + 1) s' s.batches.length).1 := by
    simp only [graded, started]
    rfl
  refine ⟨fun format => ?_, ?_, ?_⟩
  · rw [all, gradeBatch]
    simp only [started]
    rfl
  · have ids := congrArg (List.map (·.id)) order
    rw [all]
    simpa [List.map_map, Function.comp_def, Learner.ofId] using ids
  · rw [all]
    exact each

end Grading

/-- The policy of a course file has been checked. -/
theorem Keeps.valid {w : Workspace} {rs : List Recording} (h : w.Keeps rs) {course : CourseKey}
    {d : CourseDefinition} (defined : w.session.world.source.definition course = .ok d) :
    d.gradingPolicy.validate = .ok () := by
  obtain ⟨c, files, source⟩ := h.catalog
  rw [source] at defined
  obtain ⟨path, -, reads⟩ := Catalog.definition_ok.1 defined
  exact CourseDefinition.valid_of_inFile reads

theorem Keeps.has {w : Workspace} {rs : List Recording} (h : w.Keeps rs) {course : CourseKey}
    {d : CourseDefinition} (defined : w.session.world.source.definition course = .ok d) :
    w.session.world.Has course d :=
  ⟨defined, congrArg (·.course) h.faults, congrArg (·.content) h.faults⟩

/-- The scores of the learner in the course can be read. -/
def Answers (w : Workspace) (learner : LearnerId) (key : CourseKey) : Prop :=
  ∃ d, w.session.world.scores.scoresOf learner key = .ok d

/-- **Accepted scores are answered, and graded by, if they are finite.** Whatever commands were
carried out in a workspace since its store was new, at whatever times and over whatever course
files, and however often it was opened again:

* if all scores last recorded have finite numbers, the scores of everybody in every course can
  be read;
* the scores of a learner in a course can be read exactly if those last recorded for them have
  finite numbers, and are then the ones last recorded;
* on course files that can be read, a create, an update or a learner of a batch fails for want
  of scores only if they cannot be read; and if they cannot, an update and every learner of a
  batch that updates do fail. -/
theorem recorded_scores_decide {w : Workspace} {rs : List Recording} (recorded : w.Recorded rs)
    (zeroFree : ∀ r ∈ rs, r.key.ZeroFree) (exact : ∀ r ∈ rs, r.score.Exact) :
    ((∀ r ∈ rs, Recording.Finite r.learner r.key rs) → ∀ learner key, w.Answers learner key) ∧
    (∀ learner key, key.ZeroFree →
      (w.Answers learner key ↔ Recording.Finite learner key rs) ∧
      ∀ d, w.session.world.scores.scoresOf learner key = .ok d →
        ∀ block, d.find? block = Recording.last? learner key block rs) ∧
    ∀ course d, w.session.world.source.definition course = .ok d →
      (∀ t : GradeTarget, t.course = course →
        DecidedBy (w.Answers t.learner d.key) .createIfStale (w.execute (.create t)).1 ∧
        DecidedBy (w.Answers t.learner d.key) .forceUpdate (w.execute (.update t)).1) ∧
      ∀ learners σ,
        (∀ format, (w.execute (.batch course learners σ format)).1 =
          .ok (Presentation.batch (graded w.session course learners σ) format)) ∧
        (graded w.session course learners σ).map (·.learner.id) = learners ∧
        ∀ r ∈ graded w.session course learners σ,
          DecidedBy (w.Answers r.learner.id d.key) σ (r.outcome.mapError .error) := by
  have keeps := recorded.keeps zeroFree
  obtain ⟨s, scores, holds⟩ := keeps.scores
  have answers (learner : LearnerId) (key : CourseKey) :
      w.Answers learner key ↔ s.Answers learner key := by
    rw [Answers, scores]
    exact Iff.rfl
  have read (learner : LearnerId) (key : CourseKey) : w.Answers learner key ↔
      ∃ d, (w.session.world.scoresOf learner key).1 = .ok d := by
    rw [Answers, World.scoresOf, keeps.faults]
  refine ⟨fun finite learner key => ?_, fun learner key free => ⟨?_, fun d answered => ?_⟩,
    fun course d defined => ?_⟩
  · rw [answers]
    exact holds.answers_of_finite zeroFree exact fun r recorded _ => finite r recorded
  · rw [answers]
    exact holds.answers_iff zeroFree exact free
  · rw [scores] at answered
    exact (holds.of_answer exact free answered).2
  · have has := keeps.has defined
    have valid := keeps.valid defined
    simp only [read]
    refine ⟨?_, fun learners σ => decided_graded keeps.weighted has valid learners σ⟩
    rintro t rfl
    exact ⟨decided_report keeps.weighted has valid (learnerOf t) .createIfStale t.format,
      decided_report keeps.weighted has valid (learnerOf t) .forceUpdate t.format⟩

namespace Sample

def key : CourseKey := ⟨"k"⟩

/-- A disk with one course file. -/
def disk : Disk where
  files := {
    here := ["w"]
    contents := [(["w", "courses", "k.toml"],
      .text "key = \"k\"\n[grading_policy.cutoffs]\nPass = 0.5\n")] }

def opened : Except GradeError Workspace := (ofSettings disk "." ⟨0, 0⟩ {} []).1

def one : Double := ⟨0x3ff0000000000000⟩

def nan : Double := ⟨0x7ff8000000000000⟩

/-- What a learner earned on a block, out of one point. -/
def scored (learner : LearnerId) (block : BlockId) (earned : Double) : Recording :=
  ⟨learner, key, block, ⟨earned, one, true, ⟨0, 0⟩⟩⟩

/-- A learner with a point, and one with a point on one block and NaN on another. -/
def recordings : List Recording :=
  [scored ⟨1⟩ "hw1" one, scored ⟨2⟩ "hw1" one, scored ⟨2⟩ "essay" nan]

def update (learner : LearnerId) : Command := .update ⟨learner, none, key, .text⟩

theorem not_finite_nan : ¬nan.Finite := by
  rintro ⟨b, finite⟩
  have kind : Decimal.kind nan.value = .nan := by decide +kernel
  cases kind.symm.trans finite

theorem exact_recordings : ∀ r ∈ recordings, r.score.Exact := by
  have time : Instant.Representable ⟨0, 0⟩ := by decide
  have back : one.readBack? = some one := by decide +kernel
  have whole (learner : LearnerId) (block : BlockId) : (scored learner block one).score.Exact :=
    ⟨time, fun _ => back, fun _ => back⟩
  intro r member
  simp only [recordings, List.mem_cons, List.not_mem_nil, or_false] at member
  rcases member with rfl | rfl | rfl
  · exact whole _ _
  · exact whole _ _
  · exact ⟨time, fun finite => absurd finite not_finite_nan, fun _ => back⟩

/-- A command that records a score. -/
theorem recorded_scored {w : Workspace} {rs : List Recording} (h : w.Recorded rs)
    (now : w.session.world.now = ⟨0, 0⟩) (learner : LearnerId) (block : BlockId)
    {earned : Double} (accepted : ¬(one.value < 0.0 || earned.value < 0.0)) :
    ∃ w' : Workspace, w'.Recorded (rs ++ [scored learner block earned]) ∧
      w'.session.world.now = ⟨0, 0⟩ ∧ w'.session.world.source = w.session.world.source := by
  let c : Command := .recordScore learner key block earned one true
  have carried := execute_recordScore w learner key block earned one true
  dsimp only at carried
  rw [if_neg accepted, now] at carried
  have executed := h.executed c
  rw [carried.1] at executed
  refine ⟨_, executed, ?_, ?_⟩
  · rw [carried.2]
    exact now
  · rw [carried.2]
    rfl

/-- The workspace where the scores were recorded, and its course. -/
theorem exists_recordings : ∃ (w : Workspace) (d : CourseDefinition), w.Recorded recordings ∧
    w.session.world.source.definition key = .ok d ∧ d.key = key := by
  have evaluated : (opened.toOption.bind fun w =>
      (w.catalog.definition disk.files key).toOption.map (·.key)) = some key := by decide +kernel
  obtain ⟨w, known, defined⟩ := Option.bind_eq_some_iff.1 evaluated
  obtain ⟨d, defined, same⟩ := Option.map_eq_some_iff.1 defined
  have created : w.Recorded [] := by
    have opened : ofSettings disk "." ⟨0, 0⟩ {} [] = (.ok w, (ofSettings disk "." ⟨0, 0⟩ {} []).2) :=
      Prod.ext (Document.ok_of_toOption known) rfl
    exact .created opened rfl
  have started := created.passed ⟨0, 0⟩ disk.files
  have positive : ¬(one.value < 0.0 || one.value < 0.0) := by decide +kernel
  have neither : ¬(one.value < 0.0 || nan.value < 0.0) := by decide +kernel
  obtain ⟨w₁, recorded, now, source₁⟩ := recorded_scored started rfl ⟨1⟩ "hw1" positive
  obtain ⟨w₂, recorded, now, source₂⟩ := recorded_scored recorded now ⟨2⟩ "hw1" positive
  obtain ⟨w₃, recorded, now, source₃⟩ := recorded_scored recorded now ⟨2⟩ "essay" neither
  refine ⟨w₃, d, recorded, ?_, same⟩
  rw [source₃, source₂, source₁]
  exact Document.ok_of_toOption defined

/-- The learner with a point is graded, the other is not. -/
theorem recorded_scores_decide_point_and_nan : ∃ w : Workspace, w.Recorded recordings ∧
    (∀ r ∈ recordings, r.key.ZeroFree) ∧ (∀ r ∈ recordings, r.score.Exact) ∧
    lacksScores (w.execute (update ⟨1⟩)).1 = false ∧
    lacksScores (w.execute (update ⟨2⟩)).1 = true := by
  obtain ⟨w, d, recorded, defined, same⟩ := exists_recordings
  have zeroFree : ∀ r ∈ recordings, r.key.ZeroFree := by decide
  obtain ⟨-, answers, grades⟩ := recorded_scores_decide recorded zeroFree exact_recordings
  have answers (learner : LearnerId) := (answers learner d.key (same ▸ by decide)).1
  have grades := (grades key d defined).1
  rw [same] at answers grades
  refine ⟨w, recorded, zeroFree, exact_recordings, ?_, ?_⟩
  · have finite : Recording.Finite ⟨1⟩ key recordings := by
      intro block score last
      have point : one.Finite := ⟨⟨false, 4503599627370496, -52⟩, by decide +kernel⟩
      have whole : "hw1" = block ∧ (scored ⟨1⟩ "hw1" one).score = score := by
        simpa [Recording.last?, recordings, scored] using last
      rw [← whole.2]
      exact ⟨point, point⟩
    exact (grades ⟨⟨1⟩, none, key, .text⟩ rfl).2.spared ((answers ⟨1⟩).2 finite)
  · refine (grades ⟨⟨2⟩, none, key, .text⟩ rfl).2.stopped rfl fun answered => ?_
    have finite := (answers ⟨2⟩).1 answered "essay" _ rfl
    exact not_finite_nan finite.1

/-- **NaN is accepted, and no update gets past it**, not even for the grade there was. -/
theorem nan_is_accepted_and_stops_grading :
    (opened.toOption.map fun w =>
      let graded := (w.execute (.recordScore ⟨1⟩ key "hw1" one one true)).2.execute (update ⟨1⟩)
      let accepted := graded.2.execute (.recordScore ⟨1⟩ key "essay" nan one true)
      (lacksScores graded.1, accepted.1.toOption,
        (accepted.2.session.world.scores.scoresOf ⟨1⟩ key).toOption.isSome,
        lacksScores (accepted.2.execute (update ⟨1⟩)).1)) =
      some (false, some "Recorded NaN/1 for learner 1 on essay", false, true) := by
  decide +kernel

end Sample

end Workspace

end Gradebook
