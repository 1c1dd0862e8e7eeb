/-
# Gradebook.Proofs.RowHistory — what a history of upserts leaves of a row

The operations of a history are carried out one after the other on rows kept in memory
(`Truthful`): what the store replies is what is there, unless it fails. Everything else is as
it may be, from one operation to the next: breakdowns, policies, flags, failures, the clock.

`Performance.Upserts` names the breakdown and the clock reading that an operation upserted a
row for. The row in the end is then told by these alone (`LeftBy`): created at the first
reading and modified at the last, with what the last breakdown says, and passed since the
first reading of the passing breakdowns in the end. One upsert keeps this (`leftBy_records`),
so one performance does (`left_step`), and so a history (`row_history`).
-/
import Gradebook.Proofs.Performances
import Mathlib.Data.List.Forall2
import Mathlib.Order.Bounds.Defs

namespace Gradebook

set_option autoImplicit false

/-! ## A store in the course of exchanges -/

/-- The rows after exchanges. -/
def rowsAfter (rows : MemoryRows) (xs : List Exchange) : MemoryRows :=
  xs.foldl (fun rows x => x.rowsAfter rows) rows

/-- Rows are found as they are there at the time. -/
def Truthful : MemoryRows → List Exchange → Prop
  | _, [] => True
  | rows, x :: xs => x.Truthful rows ∧ Truthful (x.rowsAfter rows) xs

section Store

variable {rows : MemoryRows} {xs ys : List Exchange}

theorem rowsAfter_append (rows : MemoryRows) (xs ys : List Exchange) :
    rowsAfter rows (xs ++ ys) = rowsAfter (rowsAfter rows xs) ys := List.foldl_append

theorem truthful_append :
    Truthful rows (xs ++ ys) ↔ Truthful rows xs ∧ Truthful (rowsAfter rows xs) ys := by
  induction xs generalizing rows with
  | nil => exact (iff_of_eq (true_and _)).symm
  | cons x xs ih =>
    simp only [List.cons_append, Truthful, ih, and_assoc]
    rfl

/-- Rows change by what is written and by nothing else. -/
theorem rowsAfter_eq_written (rows : MemoryRows) (xs : List Exchange) :
    rowsAfter rows xs = (written xs).foldl MemoryRows.put rows := by
  induction xs generalizing rows with
  | nil => rfl
  | cons x xs ih =>
    rw [rowsAfter, List.foldl_cons, ← rowsAfter, ih, Exchange.rowsAfter_eq, written, written,
      List.filterMap_cons]
    cases x.row? <;> rfl

/-- Before anything is written, what is found is what was there. -/
theorem Truthful.found {learner : LearnerId} {key : CourseKey} {found : Option StoredGrade}
    (h : Truthful rows xs) (none : written xs = [])
    (replied : ⟨.findRow learner key, .ok found⟩ ∈ xs) : found = rows.find? learner key := by
  induction xs generalizing rows with
  | nil => cases replied
  | cons x xs ih =>
    obtain ⟨now, later⟩ := h
    rw [written, List.filterMap_cons] at none
    cases put : x.row? with
    | some row => rw [put] at none; cases none
    | none =>
      rw [put] at none
      rcases List.mem_cons.1 replied with rfl | replied
      · exact now
      · rw [Exchange.rowsAfter_eq, put] at later
        exact ih later none replied

/-- Surroundings that keep rows in memory: `held` says which they have. -/
def KeepsRows {σ : Type} (answer : Dialogue.Answering σ) (held : σ → MemoryRows → Prop) : Prop :=
  ∀ r s rows, held s rows →
    Exchange.Truthful rows ⟨r, (answer r s).1⟩ ∧
      held (answer r s).2 (Exchange.rowsAfter rows ⟨r, (answer r s).1⟩)

section KeepsRows

variable {σ α : Type} {answer : Dialogue.Answering σ} {held : σ → MemoryRows → Prop}
  (keeps : KeepsRows answer held)
include keeps

theorem truthful_exchanges (d : Dialogue α) {s : σ} (start : held s rows) :
    Truthful rows (d.exchanges answer s) ∧
      held (d.run answer s).2 (rowsAfter rows (d.exchanges answer s)) := by
  induction d generalizing s rows with
  | done a => exact ⟨trivial, start⟩
  | ask r next ih =>
    obtain ⟨now, still⟩ := keeps r s rows start
    obtain ⟨later, ended⟩ := ih _ still
    exact ⟨⟨now, later⟩, ended⟩

theorem truthful_perform (ops : List (GradeEngine × GradeEngine.Operation)) {s : σ}
    (start : held s rows) :
    Truthful rows ((Performance.perform answer ops s).flatMap (·.exchanges)) := by
  induction ops generalizing s rows with
  | nil => trivial
  | cons first rest ih =>
    obtain ⟨e, op⟩ := first
    obtain ⟨now, still⟩ := truthful_exchanges keeps (op.outcome e) start
    exact truthful_append.2 ⟨now, ih still⟩

end KeepsRows

/-- A world with its rows in memory keeps them. -/
theorem World.keepsRows : KeepsRows World.answer fun w rows => w.rows = .memory rows := by
  intro r w rows here
  cases r with
  | findRow learner key =>
    simp only [World.answer, World.findRow]
    split
    · exact ⟨trivial, here⟩
    · exact ⟨by rw [here]; rfl, here⟩
  | putRow row =>
    simp only [World.answer, World.putRow]
    split
    · exact ⟨trivial, here⟩
    · exact ⟨trivial, by rw [here]; rfl⟩
  | loadCourse key =>
    simp only [World.answer, World.loadCourse]
    split <;> exact ⟨trivial, here⟩
  | loadContent key =>
    simp only [World.answer, World.loadContent]
    split <;> exact ⟨trivial, here⟩
  | scoresOf learner key =>
    simp only [World.answer, World.scoresOf]
    split <;> exact ⟨trivial, here⟩
  | _ => exact ⟨trivial, here⟩

end Store

/-! ## The row left by upserts -/

/-- What an upsert was made for: a breakdown, and the reading of the clock. -/
structure Upsert where
  breakdown : GradeBreakdown
  moment : Instant

namespace Upsert

/-- From where on all upserts passed. -/
def passedFrom (made : List Upsert) : Set Nat :=
  {j | j < made.length ∧ ∀ m ∈ made.drop j, m.breakdown.passed = true}

theorem passedFrom_start {made : List Upsert} {m : Upsert} (passed : m.breakdown.passed = true)
    (failed : ∀ l, made.getLast? = some l → l.breakdown.passed = false) :
    IsLeast (passedFrom (made ++ [m])) made.length := by
  refine ⟨⟨by simp, fun x member => ?_⟩, fun j ⟨_, all⟩ => ?_⟩
  · rw [List.drop_left] at member
    cases List.mem_singleton.1 member
    exact passed
  · -- From further ahead the last of those before would have to have passed.
    by_contra less
    have nonempty : made ≠ [] := List.ne_nil_of_length_pos (by omega)
    obtain ⟨l, last⟩ := Option.isSome_iff_exists.1 (List.getLast?_isSome.2 nonempty)
    have inside : j ≤ made.length := by omega
    have ahead : (made.drop j).getLast? = some l := by
      rw [List.getLast?_drop, if_neg less, last]
    have member : l ∈ (made ++ [m]).drop j := by
      rw [List.drop_append_of_le_length inside]
      exact List.mem_append_left _ (List.mem_of_getLast? ahead)
    cases (all l member).symm.trans (failed l last)

theorem passedFrom_extend {made : List Upsert} {m : Upsert} (passed : m.breakdown.passed = true)
    {j : Nat} (least : IsLeast (passedFrom made) j) : IsLeast (passedFrom (made ++ [m])) j := by
  obtain ⟨⟨inside, all⟩, lower⟩ := least
  refine ⟨⟨by simp; omega, fun x member => ?_⟩, fun i ⟨_, all'⟩ => ?_⟩
  · rw [List.drop_append_of_le_length (by omega)] at member
    rcases List.mem_append.1 member with old | new
    · exact all x old
    · cases List.mem_singleton.1 new
      exact passed
  · by_cases within : i < made.length
    · refine lower ⟨within, fun x member => all' x ?_⟩
      rw [List.drop_append_of_le_length (by omega)]
      exact List.mem_append_left _ member
    · omega

end Upsert

namespace StoredGrade

/-- The row of a learner in a course that upserts have left, of which this was the last. -/
structure LeftBy (row : StoredGrade) (learner : LearnerId) (key : CourseKey) (made : List Upsert)
    (last : Upsert) : Prop extends row.Keeps learner key last.breakdown where
  createdAt : made.head?.map (·.moment) = some row.createdAt
  modifiedAt : row.modifiedAt = last.moment
  failing : last.breakdown.passed = false → row.passedAt = none
  passing : last.breakdown.passed = true → ∃ j, IsLeast (Upsert.passedFrom made) j ∧
    made[j]?.map (·.moment) = row.passedAt

/-- What upserts have left: no row if there were none. -/
def Left (row? : Option StoredGrade) (learner : LearnerId) (key : CourseKey)
    (made : List Upsert) : Prop :=
  match made.getLast? with
  | none => row? = none
  | some last => ∃ row, row? = some row ∧ row.LeftBy learner key made last

variable {learner : LearnerId} {key : CourseKey} {previous : Option StoredGrade}
  {made : List Upsert} {b : GradeBreakdown} {now : Instant} {c : Context} {row : StoredGrade}

/-- The row was created at the first upsert. -/
theorem Left.created (h : Left previous learner key made) :
    previous.map (·.createdAt) = made.head?.map (·.moment) := by
  rw [Left] at h
  cases made with
  | nil =>
    rw [List.getLast?_nil] at h
    rw [h]
    rfl
  | cons first rest =>
    rw [List.getLast?_eq_some_getLast (List.cons_ne_nil first rest)] at h
    obtain ⟨row, rfl, left⟩ := h
    exact left.createdAt.symm

/-- The row has passed since the first of the passing upserts in the end, or the last of all
did not pass. -/
theorem Left.since (h : Left previous learner key made) :
    (∃ j, IsLeast (Upsert.passedFrom made) j ∧
      made[j]?.map (·.moment) = previous.bind (·.passedAt)) ∨
    (∀ l, made.getLast? = some l → l.breakdown.passed = false) ∧
      previous.bind (·.passedAt) = none := by
  rw [Left] at h
  cases last : made.getLast? with
  | none =>
    rw [last] at h
    have none : previous.bind (·.passedAt) = none := by rw [h]; rfl
    exact .inr ⟨fun l ahead => (nomatch ahead), none⟩
  | some l =>
    rw [last] at h
    obtain ⟨row, rfl, left⟩ := h
    cases passed : l.breakdown.passed with
    | true => exact .inl (left.passing passed)
    | false =>
      refine .inr ⟨fun l' same => ?_, left.failing passed⟩
      cases same
      exact passed

/-- **One more upsert.** -/
theorem leftBy_records (before : Left previous learner c.key made)
    (records : row.Records learner b previous now c) :
    row.LeftBy learner c.key (made ++ [⟨b, now⟩]) ⟨b, now⟩ where
  toKeeps := records.toKeeps
  createdAt := by
    rw [records.createdAt, before.created]
    cases made <;> rfl
  modifiedAt := records.modifiedAt
  failing := fun failed => by rw [records.passedAt, failed]; rfl
  passing := fun passed => by
    rw [records.passedAt, if_pos passed]
    rcases before.since with ⟨j, least, since⟩ | ⟨failed, since⟩
    · refine ⟨j, Upsert.passedFrom_extend passed least, ?_⟩
      obtain ⟨inside, -⟩ := least.1
      rw [List.getElem?_append_left inside, ← since, List.getElem?_eq_getElem inside]
      rfl
    · refine ⟨_, Upsert.passedFrom_start passed failed, ?_⟩
      rw [List.getElem?_concat_length, since]
      rfl

end StoredGrade

/-! ## Histories -/

namespace Performance

/-- The resolution of a performance upserted the row of a learner in a course: for the breakdown
it decided on, at the one reading of the clock. -/
structure Upserts (p : Performance) (learner : LearnerId) (key : CourseKey) (m : Upsert) :
    Prop where
  decides : ∃ l s c, p.operation.resolving? = some (l, s, c) ∧
    p.engine.Decides l s c p.exchanges m.breakdown
  read : readings p.exchanges = [m.moment]
  upserted : ∃ row ∈ written p.exchanges, row.learner = learner ∧ row.courseKey = key

/-- The upsert of the row in a performance, if it upserted it. -/
def Makes (learner : LearnerId) (key : CourseKey) (p : Performance) : Option Upsert → Prop
  | none => ∀ row ∈ written p.exchanges, ¬(row.learner = learner ∧ row.courseKey = key)
  | some m => p.Upserts learner key m

variable {p : Performance} {learner : LearnerId} {key : CourseKey}

/-- A performance upserts a row at most once. -/
theorem makes_some (learner : LearnerId) (key : CourseKey) (p : Performance) :
    ∃ m?, p.Makes learner key m? := by
  rcases p.upsert with silent | ⟨l, s, c, ys, zs, b, previous, now, row, c', named, same, prepared,
    announces⟩
  · refine ⟨none, ?_⟩
    rw [Makes, silent]
    exact fun row member => (nomatch member)
  · obtain ⟨wrote, read⟩ := seen_of_prepared same prepared announces
    by_cases own : row.learner = learner ∧ row.courseKey = key
    · have decides : p.engine.Decides l s c p.exchanges b := same ▸ prepared.decides.append _
      exact ⟨some ⟨b, now⟩, ⟨l, s, c, named, decides⟩, read, row, by simp [wrote], own⟩
    · refine ⟨none, ?_⟩
      rw [Makes, wrote]
      intro row' member
      cases List.mem_singleton.1 member
      exact own

theorem find?_foldl_put {rows : MemoryRows} {written : List StoredGrade}
    (others : ∀ row ∈ written, ¬(row.learner = learner ∧ row.courseKey = key)) :
    (written.foldl MemoryRows.put rows).find? learner key = rows.find? learner key := by
  induction written generalizing rows with
  | nil => rfl
  | cons row rest ih =>
    rw [List.foldl_cons, ih fun row' member => others row' (List.mem_cons_of_mem _ member),
      MemoryRows.find?_put, if_neg (others row List.mem_cons_self)]

/-- The row written over is the one that was there. -/
theorem previous_of_truthful {e : GradeEngine} {rows : MemoryRows} {l : Learner} {s : Strategy}
    {c c' : Context} {ys : List Exchange} {b : GradeBreakdown} {previous : Option StoredGrade}
    {now : Instant} {row : StoredGrade} (store : Truthful rows ys)
    (prepared : GradeEngine.Prepared e l s c ys b previous now row c') :
    previous = rows.find? l.id c.key := by
  obtain ⟨before, after, rfl, -, -, found⟩ := prepared.replied
  exact store.found (written_hidden prepared.hidden)
    (List.mem_append_left _ found)

/-- **One performance** adds its upsert to those that have left the row. -/
theorem left_step {rows : MemoryRows} (store : Truthful rows p.exchanges) {made : List Upsert}
    {m? : Option Upsert} (makes : p.Makes learner key m?)
    (before : StoredGrade.Left (rows.find? learner key) learner key made) :
    StoredGrade.Left ((rowsAfter rows p.exchanges).find? learner key) learner key
      (made ++ m?.toList) := by
  rw [rowsAfter_eq_written]
  cases m? with
  | none =>
    rw [Option.toList_none, List.append_nil, find?_foldl_put makes]
    exact before
  | some m =>
    obtain ⟨⟨l, s, c, named, decides⟩, read, row, member, rfl, rfl⟩ := makes
    rcases p.upsert with silent | ⟨l', s', c', ys, zs, b, previous, now, row', c₁, named', same,
      prepared, announces⟩
    · rw [silent] at member
      cases member
    cases named.symm.trans named'
    obtain ⟨wrote, read'⟩ := seen_of_prepared same prepared announces
    rw [wrote] at member ⊢
    cases List.mem_singleton.1 member
    -- The exchanges fix the breakdown and the reading.
    have moment : now = m.moment := List.singleton_injective (read'.symm.trans read)
    rw [same] at decides store
    have breakdown : b = m.breakdown := (prepared.decides.append _).unique decides
    subst moment breakdown
    have records := prepared.records
    have key : row.courseKey = c.key := records.courseKey.trans prepared.filled.key
    rw [records.learner, key] at before ⊢
    rw [← previous_of_truthful (truthful_append.1 store).1 prepared,
      ← (prepared.filled.key : c₁.key = c.key)] at before
    have left := StoredGrade.leftBy_records before records
    rw [StoredGrade.Left, Option.toList_some, List.getLast?_concat]
    refine ⟨row, ?_, prepared.filled.key ▸ left⟩
    rw [List.foldl_cons, List.foldl_nil, MemoryRows.find?_put,
      if_pos ⟨records.learner, key⟩]

/-- **A history** of performances adds its upserts, in order. -/
theorem left_run {ps : List Performance} {rows : MemoryRows} {made : List Upsert}
    {makes : List (Option Upsert)} (store : Truthful rows (ps.flatMap (·.exchanges)))
    (each : List.Forall₂ (Makes learner key) ps makes)
    (before : StoredGrade.Left (rows.find? learner key) learner key made) :
    StoredGrade.Left ((rowsAfter rows (ps.flatMap (·.exchanges))).find? learner key) learner key
      (made ++ makes.flatMap (·.toList)) := by
  induction each generalizing rows made with
  | nil =>
    rw [List.flatMap_nil, List.flatMap_nil, List.append_nil]
    exact before
  | cons first _ ih =>
    rw [List.flatMap_cons] at store ⊢
    obtain ⟨now, later⟩ := truthful_append.1 store
    have step := left_step now first before
    rw [rowsAfter_append, List.flatMap_cons, ← List.append_assoc]
    exact ih later step

/-- Where grades are kept only of those engaged, every row written is of an attempt. -/
theorem attempted_of_engaged (engaged : p.engine.flags.writeOnlyIfEngaged = true) :
    ∀ row ∈ written p.exchanges, row.attempted = true := by
  intro row member
  rcases p.upsert with silent | ⟨l, s, c, ys, zs, b, previous, now, row', c₁, named, same,
    prepared, announces⟩
  · rw [silent] at member
    cases member
  · rw [(seen_of_prepared same prepared announces).1] at member
    cases List.mem_singleton.1 member
    obtain ⟨_, _, readOnly, _, _, -, -, keeps, -⟩ := prepared.reached
    rw [GradeEngine.keeps, engaged] at keeps
    rw [prepared.records.attempted]
    exact (Bool.and_eq_true_iff.1 keeps).2

/-- **The history of a row.** Operations of any engines are carried out one after the other on
rows kept in memory, beginning without a row for the learner in the course. Each upserts the
row at most once, for one breakdown at one reading of the clock; and the row in the end is the
one that these upserts leave, in their order. Where grades are kept only of those engaged, no
row ever written is without an attempt. -/
theorem row_history (learner : LearnerId) (key : CourseKey) (ps : List Performance)
    (rows : MemoryRows) (fresh : rows.find? learner key = none)
    (store : Truthful rows (ps.flatMap (·.exchanges))) :
    (∃ makes, List.Forall₂ (Makes learner key) ps makes) ∧
      (∀ makes, List.Forall₂ (Makes learner key) ps makes →
        StoredGrade.Left ((rowsAfter rows (ps.flatMap (·.exchanges))).find? learner key) learner
          key (makes.flatMap (·.toList))) ∧
      ((∀ p ∈ ps, p.engine.flags.writeOnlyIfEngaged = true) →
        ∀ row ∈ written (ps.flatMap (·.exchanges)), row.attempted = true) := by
  refine ⟨?_, fun makes each => ?_, fun engaged row member => ?_⟩
  · clear store
    induction ps with
    | nil => exact ⟨[], .nil⟩
    | cons p rest ih =>
      obtain ⟨m?, first⟩ := makes_some learner key p
      obtain ⟨makes, others⟩ := ih
      exact ⟨m? :: makes, .cons first others⟩
  · have start : StoredGrade.Left (rows.find? learner key) learner key [] := fresh
    exact left_run store each start
  · rw [written, List.filterMap_flatMap] at member
    obtain ⟨p, inside, wrote⟩ := List.mem_flatMap.1 member
    exact attempted_of_engaged (engaged p inside) row wrote

/-- Every request takes a second. A first breakdown fails, the next two pass: the row is passed
since the second. -/
theorem row_history_passing_at_last :
    let answer : Dialogue.Answering World := fun r w =>
      ((World.answer r w).1, { (World.answer r w).2 with now := ⟨w.now.seconds + 1, 0⟩ })
    let failing : GradeBreakdown := ⟨0.0, none, false, true, []⟩
    let passing : GradeBreakdown := ⟨1.0, some "Pass", true, true, []⟩
    let engine (b : GradeBreakdown) : GradeEngine := ⟨{}, .scripted b false {}, []⟩
    let update := GradeEngine.Operation.update Sample.learner (.ofKey Sample.key)
    let ps := perform answer
      [(engine failing, update), (engine passing, update), (engine passing, update)]
      (Sample.world (Sample.course none ["hw1"]))
    let row? := (rowsAfter [] (ps.flatMap (·.exchanges))).find? Sample.learner.id Sample.key
    (∃ makes, List.Forall₂ (Makes Sample.learner.id Sample.key) ps makes ∧
      StoredGrade.Left row? Sample.learner.id Sample.key (makes.flatMap (·.toList))) ∧
      row?.map (fun row => (row.createdAt.seconds, row.passedAt.map (·.seconds),
        row.modifiedAt.seconds)) = some (2, some 11, 20) := by
  intro answer failing passing engine update ps row?
  have keeps : KeepsRows answer fun w rows => w.rows = .memory rows := World.keepsRows
  have store : Truthful [] (ps.flatMap (·.exchanges)) := truthful_perform keeps _ rfl
  obtain ⟨⟨makes, each⟩, left, -⟩ := row_history Sample.learner.id Sample.key ps [] rfl store
  exact ⟨⟨makes, each, left makes each⟩, by decide +kernel⟩

end Performance

end Gradebook
