/-
# Gradebook.Proofs.PureReads — reading looks for a row, and creating agrees with it

Reading and creating recover from the same absence of a row, which stands for a course that
keeps no grades as well as for a learner who has none yet. `GradeEngine.onRecord?` is the row
both of them find, and it decides both answers:

  on record              read        create
  a row, current         the row     the row
  a row, outdated        the row     computes
  none, zero assumed     zero        zero
  none                   nothing     computes, and keeps nothing

The requests of a read are the same in every surroundings (`trace_read`): it looks for the
row if the course keeps grades, and is done.
-/
import Gradebook.Proofs.Journal
import Gradebook.Proofs.StateMachine

namespace Gradebook

set_option autoImplicit false

open World (look_bind look_get look_pure)

/-- Writing to the log, which every operation may do. -/
def Request.isLog : Request → Bool
  | .log _ => true
  | _ => false

theorem Dialogue.trace_map {α β σ : Type} (answer : Dialogue.Answering σ) (f : α → β)
    (d : Dialogue α) (s : σ) : (f <$> d).trace answer s = d.trace answer s := by
  rw [← bind_pure_comp, Dialogue.trace_bind]
  exact List.append_nil _

namespace GradeEngine

variable (e : GradeEngine)

/-! ## Reading -/

/-- What a read asks but for its log entries: the row, and that only of a course that keeps
grades. -/
theorem trace_readHere {σ : Type} (answer : Dialogue.Answering σ) (learner : Learner)
    (c : Context) (s : σ) :
    (((e.readHere learner).dialogue c).trace answer s).filter (!·.isLog) =
      if e.flags.persists c.key then [.findRow learner.id c.key] else [] := by
  have absent (s : σ) : ((Lookup.dialogue (do
      if e.flags.assumesZero (← get).key then some <$> createZero learner
      else pure none : Lookup (Option ResolvedGrade)) c).trace answer s).filter (!·.isLog) = [] := by
    simp only [Lookup.dialogue_bind, Lookup.dialogue_get, Dialogue.done_bind]
    cases e.flags.assumesZero c.key <;> rfl
  simp only [readHere, readStored, Lookup.dialogue_bind, Lookup.dialogue_get, Dialogue.done_bind]
  cases e.flags.persists c.key with
  | false => exact absent s
  | true =>
    -- the one reply that matters: an error, no row, or a row
    simp only [Bool.not_true, Bool.false_eq_true, if_false, if_true, rowOf, Lookup.dialogue_bind,
      Lookup.dialogue_ask, Dialogue.ask_bind, Dialogue.done_bind, Dialogue.trace]
    generalize answer (.findRow learner.id c.key) s = reply
    obtain ⟨x | _ | row, s'⟩ := reply
    · rfl
    · exact congrArg (_ :: ·) (absent s')
    · rfl

/-- The answer of a read. -/
def recalled (w : World) (learner : LearnerId) (key : CourseKey) : Option ResolvedGrade :=
  match e.onRecord? w learner key with
  | some row => some (.ofStored row)
  | none => if e.flags.assumesZero key then some (.zero learner key) else none

variable {e} {w : World} {learner : Learner} {c : Context}

/-- A read answers by the row on record, and only the log knows of it. -/
theorem look_readHere (recalls : w.Recalls learner.id c.key) :
    ∃ entries, w.look (e.readHere learner) c =
      ((.ok (e.recalled w learner.id c.key), c), w.addLog entries) := by
  have unchanged : w.addLog [] = w := by simp [World.addLog]
  have absent : ∃ entries, w.look (do
      if e.flags.assumesZero (← get).key then some <$> createZero learner
      else pure none : Lookup (Option ResolvedGrade)) c =
        ((.ok (if e.flags.assumesZero c.key then some (.zero learner.id c.key) else none), c),
          w.addLog entries) := by
    simp only [look_bind, look_get]
    cases e.flags.assumesZero c.key with
    | true => exact ⟨_, rfl⟩
    | false => exact ⟨[], by rw [unchanged]; rfl⟩
  obtain ⟨entries, read⟩ := look_readStored e w learner c
  rw [readHere, look_bind, read, recalled]
  cases persists : e.flags.persists c.key with
  | false =>
    have none_on_record : e.onRecord? w learner.id c.key = none := by simp [onRecord?, persists]
    rw [none_on_record]
    exact absent
  | true =>
    rw [if_pos rfl, findRow_ok e recalls persists]
    cases e.onRecord? w learner.id c.key with
    | none => exact absent
    | some row => exact ⟨entries, rfl⟩

/-! ## Creating -/

/-- What becomes of a breakdown when the store does not fail: it is the answer unless the loader
crashes behind it, and if it may not be kept no row is written. -/
theorem conclude_ends (e : GradeEngine) (recalls : w.Recalls learner.id c.key)
    (content : ∃ x, w.contentOf c = .ok x) (readOnly : Bool) (known : Option StoredGrade)
    (b : GradeBreakdown) :
    let o := (w.look (e.conclude learner readOnly known b) c).1.1
    let w' := (w.look (e.conclude learner readOnly known b) c).2
    (o = .ok (.ofBreakdown learner.id c.key b (e.keeps c.key readOnly b)) ∨
        ∃ k, w.LoaderCrash c.key k ∧ o = .error (.crash k)) ∧
      w'.computations = w.computations ∧
      (readOnly = true → w'.rows = w.rows ∧ w'.writes = w.writes) := by
  intro o w'
  obtain ⟨-, concluded⟩ := conclude_cases e w learner readOnly known b c
  have ends := look_conclude_ends e recalls content readOnly known b
  cases concluded with
  | unwritten steady answer =>
    refine ⟨?_, steady.computations, fun _ => ⟨steady.rows, steady.writes⟩⟩
    refine ends.imp_left ?_
    rintro ⟨g, answered⟩
    obtain ⟨keeps, rfl⟩ := answer g answered
    rw [keeps]
    exact answered
  | written previous row keeps found recorded steady answer =>
    refine ⟨?_, steady.computations, ?_⟩
    · refine ends.imp_left ?_
      rintro ⟨g, answered⟩
      obtain rfl := answer g answered
      rw [keeps]
      exact answered
    · intro mayNot
      rw [GradeEngine.keeps, mayNot] at keeps
      cases keeps

/-- The calculator is called once, after nothing but a look at the fingerprint. Its failure is
the outcome. Its breakdown is the answer, which says whether it was kept, unless the loader
crashes behind it. -/
def ComputesAfresh (e : GradeEngine) (w : World) (learner : Learner) (c : Context)
    (mayKeep : Bool) (o : Except Failure ResolvedGrade) (w' : World) : Prop :=
  ∃ c₀ w₀ c₁ w₁ outcome, w.Follows c c₀ ∧ w.Quiet w₀ ∧
    (begun w₀).look (e.calculator learner.id) c₀ = ((outcome, c₁), w₁) ∧
    w'.computations = w.computations + 1 ∧
    match outcome with
    | .error f => o = .error f
    | .ok b => o = .ok (.ofBreakdown learner.id c.key b (mayKeep && e.flags.persists c.key &&
          (!e.flags.writeOnlyIfEngaged || b.attempted))) ∨
        ∃ k, w.LoaderCrash c.key k ∧ o = .error (.crash k)

theorem ComputesAfresh.not_quiet {mayKeep : Bool} {o : Except Failure ResolvedGrade} {w' : World}
    (computes : ComputesAfresh e w learner c mayKeep o w') : ¬w.Quiet w' := by
  intro quiet
  obtain ⟨-, -, -, -, -, -, -, -, once, -⟩ := computes
  have still : w'.computations = w.computations := quiet.computations
  omega

theorem ComputesAfresh.unkept {o : Except Failure ResolvedGrade} {w' : World} {g : ResolvedGrade}
    (computes : ComputesAfresh e w learner c false o w') (answered : o = .ok g) :
    g.source = .computed false := by
  obtain ⟨-, -, -, -, outcome, -, -, -, -, ended⟩ := computes
  cases outcome with
  | error f => cases answered.symm.trans ended
  | ok b =>
    rcases ended with ended | ⟨k, -, ended⟩
    · cases answered.symm.trans ended
      rfl
    · cases answered.symm.trans ended

theorem recompute_afresh (e : GradeEngine) {w₀ : World} {c₀ : Context}
    (recalls : w.Recalls learner.id c.key) (content : ∃ x, w.contentOf c = .ok x)
    (follows : w.Follows c c₀) (quiet : w.Quiet w₀) (readOnly : Bool)
    (known : Option StoredGrade) :
    let o := (w₀.look (e.recompute learner readOnly known) c₀).1.1
    let w' := (w₀.look (e.recompute learner readOnly known) c₀).2
    ComputesAfresh e w learner c (!readOnly) o w' ∧
      (readOnly = true → w'.rows = w.rows ∧ w'.writes = w.writes) := by
  rw [look_recompute, look_bind]
  obtain ⟨steady, filled⟩ := look_computing e follows quiet learner.id
  generalize computes : (begun w₀).look (e.calculator learner.id) c₀ = r at steady filled
  obtain ⟨⟨outcome, c₁⟩, w₁⟩ := r
  have key : c₁.key = c.key := filled.grows.key
  have rows : w₁.rows = w.rows := steady.rows
  have writes : w₁.writes = w.writes := steady.writes
  cases outcome with
  | error f =>
    exact ⟨⟨c₀, w₀, c₁, w₁, .error f, follows, quiet, computes, steady.computations, rfl⟩,
      fun _ => ⟨rows, writes⟩⟩
  | ok b =>
    have same : w.SameSource w₁ := ⟨steady.source, steady.faults⟩
    have recalls₁ : w₁.Recalls learner.id c₁.key := by
      have row := World.findRow_eq (w := w) steady.faults steady.rows learner.id c.key
      rw [key]
      exact ⟨row.symm ▸ recalls.finds, (congrArg (·.putRow) steady.faults).trans recalls.writes⟩
    have content₁ : ∃ x, w₁.contentOf c₁ = .ok x := by
      rw [filled.contentOf_eq same]
      exact content
    obtain ⟨ends, computations, unwritten⟩ :=
      conclude_ends e recalls₁ content₁ readOnly known b
    rw [key, rows, writes] at *
    refine ⟨⟨c₀, w₀, c₁, w₁, .ok b, follows, quiet, computes,
      computations.trans steady.computations, ?_⟩, unwritten⟩
    refine ends.imp_right ?_
    rintro ⟨k, crash, failed⟩
    exact ⟨k, crash.same same, failed⟩

/-- A create goes by the row on record. -/
theorem look_create (e : GradeEngine) (recalls : w.Recalls learner.id c.key)
    (content : ∃ x, w.contentOf c = .ok x) :
    let o := (w.look (e.createHere learner) c).1.1
    let w' := (w.look (e.createHere learner) c).2
    match e.onRecord? w learner.id c.key with
    | some row =>
      (w.hashOf c = .ok row.policyHash → o = .ok (.ofStored row) ∧ w.Quiet w') ∧
        (w.hashOf c ≠ .ok row.policyHash → ComputesAfresh e w learner c true o w')
    | none =>
      if e.flags.assumesZero c.key then o = .ok (.zero learner.id c.key) ∧ w.Quiet w'
      else ComputesAfresh e w learner c false o w' ∧ w'.rows = w.rows ∧ w'.writes = w.writes := by
  obtain ⟨c₀, w₀, follows, quiet, planned⟩ := look_resolveHere e w learner c .createIfStale
  rw [plan_create e recalls] at planned
  change w.look (e.createHere learner) c = _ at planned
  rw [planned]
  cases e.onRecord? w learner.id c.key with
  | none =>
    simp only [planAbsent]
    cases e.flags.assumesZero c.key with
    | true => exact ⟨by rw [← follows.grows.key]; rfl, quiet⟩
    | false =>
      obtain ⟨computes, unwritten⟩ :=
        recompute_afresh e recalls content follows quiet true none
      exact ⟨computes, unwritten rfl⟩
  | some row =>
    obtain ⟨hash, hashed⟩ := World.hashOf_ok content
    simp only [hashed, planStored, Except.ok.injEq]
    by_cases current : row.policyHash = hash
    · rw [if_pos current]
      exact ⟨fun _ => ⟨rfl, quiet⟩, fun outdated => (outdated (congrArg _ current.symm)).elim⟩
    · rw [if_neg current]
      refine ⟨fun same => (current same.symm).elim, fun _ => ?_⟩
      exact (recompute_afresh e recalls content follows quiet false (some row)).1

/-- Creating after a read, by what the read answered. -/
theorem create_after_read (e : GradeEngine) (recalls : w.Recalls learner.id c.key)
    (content : ∃ x, w.contentOf c = .ok x) {hash : PolicyHash} (hashed : w.hashOf c = .ok hash) :
    let read := e.recalled w learner.id c.key
    let o := (w.look (e.createHere learner) c).1.1
    let w' := (w.look (e.createHere learner) c).2
    (∀ g, read = some g → (g.isZero ∨ ∃ row, e.onRecord? w learner.id c.key = some row ∧
        row.policyHash = hash) → o = .ok g) ∧
      (ComputesAfresh e w learner c (e.onRecord? w learner.id c.key).isSome o w' ↔
        read = none ∨ ∃ row, e.onRecord? w learner.id c.key = some row ∧
          row.policyHash ≠ hash) ∧
      (read = none → w'.rows = w.rows ∧ w'.writes = w.writes ∧
        ∀ g, o = .ok g → g.source = .computed false) := by
  have created := look_create e recalls content
  rw [hashed] at created
  cases onRecord : e.onRecord? w learner.id c.key with
  | none =>
    simp only [recalled, onRecord] at created ⊢
    cases zero : e.flags.assumesZero c.key with
    | true =>
      simp only [zero, if_true] at created ⊢
      obtain ⟨answered, quiet⟩ := created
      refine ⟨?_, ⟨fun computes => (computes.not_quiet quiet).elim, ?_⟩, ?_⟩
      · intro g found _
        cases found
        exact answered
      · rintro (nothing | ⟨row, held, -⟩)
        · cases nothing
        · cases held
      · intro nothing
        cases nothing
    | false =>
      simp only [zero, Bool.false_eq_true, if_false] at created ⊢
      obtain ⟨computes, rows, writes⟩ := created
      refine ⟨?_, ⟨fun _ => .inl trivial, fun _ => computes⟩, ?_⟩
      · intro g found
        cases found
      · exact fun _ => ⟨rows, writes, fun g answered => computes.unkept answered⟩
  | some row =>
    simp only [recalled, onRecord] at created ⊢
    obtain ⟨serves, recomputes⟩ := created
    by_cases current : row.policyHash = hash
    · obtain ⟨answered, quiet⟩ := serves (congrArg Except.ok current.symm)
      refine ⟨?_, ⟨fun computes => (computes.not_quiet quiet).elim, ?_⟩, ?_⟩
      · intro g found _
        cases found
        exact answered
      · rintro (nothing | ⟨row', held, outdated⟩)
        · cases nothing
        · cases held
          exact (outdated current).elim
      · intro nothing
        cases nothing
    · have computes := recomputes fun same => current (Except.ok.inj same).symm
      refine ⟨?_, ⟨fun _ => .inr ⟨row, rfl, current⟩, fun _ => computes⟩, ?_⟩
      · intro g found served
        cases found
        rcases served with zero | ⟨row', held, current'⟩
        · cases zero
        · cases held
          exact (current current').elim
      · intro nothing
        cases nothing

/-- **Reading is pure and agrees with creating.** In any surroundings a read asks for the row
of a course that keeps grades, and for nothing else. When the store does not fail it answers
with that row whatever its fingerprint, else with zero or nothing as the course assumes, and
only the log knows of it. Creating, in the same state and with a content that is found,
answers alike if that was a zero or a current row; it computes exactly if the read found
nothing or an outdated row, and in the former case it keeps nothing. -/
theorem read_agrees_with_create (e : GradeEngine) {w : World} {learner : Learner}
    {i : CourseInputs} {c : Context} (valid : Context.ofInputs (some learner.id) i = .ok c)
    (recalls : w.Recalls learner.id c.key) :
    (∀ (σ : Type) (answer : Dialogue.Answering σ) (s : σ),
      ((e.read learner i).trace answer s).filter (!·.isLog) =
        if e.flags.persists c.key then [.findRow learner.id c.key] else []) ∧
    (∃ entries, w.run (e.read learner i) =
      (.ok (match e.onRecord? w learner.id c.key with
        | some row => some (.ofStored row)
        | none => if e.flags.assumesZero c.key then some (.zero learner.id c.key) else none),
      w.addLog entries)) ∧
    ∀ x, w.contentOf c = .ok x →
      let read := (w.run (e.read learner i)).1
      let create := w.run (e.create learner i)
      (∀ g, read = .ok (some g) →
        (g.isZero ∨ ∃ row, e.onRecord? w learner.id c.key = some row ∧
          row.policyHash = x.gradingPolicy.hash) → create.1 = .ok g) ∧
      (ComputesAfresh e w learner c (e.onRecord? w learner.id c.key).isSome create.1 create.2 ↔
        read = .ok none ∨ ∃ row, e.onRecord? w learner.id c.key = some row ∧
          row.policyHash ≠ x.gradingPolicy.hash) ∧
      (read = .ok none → create.2.rows = w.rows ∧ create.2.writes = w.writes ∧
        ∀ g, create.1 = .ok g → g.source = .computed false) := by
  obtain ⟨entries, recalled⟩ := look_readHere (e := e) recalls
  have read : w.run (e.read learner i) =
      (.ok (e.recalled w learner.id c.key), w.addLog entries) := by
    rw [GradeEngine.read, Session.run_within w learner i _ valid, recalled]
  refine ⟨?_, ⟨entries, read⟩, ?_⟩
  · intro σ answer s
    rw [← trace_readHere e answer learner c s, GradeEngine.read, within, valid]
    exact congrArg (List.filter _) (Dialogue.trace_map answer _ _ s)
  · intro x found
    have hash := Session.hashOf_opened valid found
    have after := create_after_read e recalls ⟨x, found⟩ hash
    simp only [read, GradeEngine.create, Session.run_within w learner i _ valid]
    obtain ⟨agrees, computes, unkept⟩ := after
    refine ⟨?_, ?_, ?_⟩
    · intro g recalled
      exact agrees g (Except.ok.inj recalled)
    · rw [computes, Except.ok.injEq]
    · intro nothing
      exact unkept (Except.ok.inj nothing)

/-- A grade was kept under a policy without assignment types, which the course has replaced:
the row is read, and the grade is created anew. -/
theorem read_agrees_with_create_outdated :
    let row : StoredGrade := {
      learner := Sample.learner.id, courseKey := Sample.key, contentVersion := none
      contentEditedAt := none, policyHash := GradingPolicy.hash ∅, percent := 1.0
      letterGrade := "Pass", passedAt := none, attempted := true, createdAt := default
      modifiedAt := default }
    let w := { Sample.world (Sample.course none ["hw1"]) with rows := .memory (.put [] row) }
    let c : Context := ⟨some Sample.learner.id, Sample.key, none, none, none⟩
    let create := w.run (Sample.engine.create Sample.learner (.ofKey Sample.key))
    Context.ofInputs (some Sample.learner.id) (.ofKey Sample.key) = .ok c ∧
      w.Recalls Sample.learner.id Sample.key ∧
      (∃ entries, w.run (Sample.engine.read Sample.learner (.ofKey Sample.key)) =
        (.ok (some (.ofStored row)), w.addLog entries)) ∧
      ComputesAfresh Sample.engine w Sample.learner c true create.1 create.2 := by
  intro row w c create
  have valid : Context.ofInputs (some Sample.learner.id) (.ofKey Sample.key) = .ok c := rfl
  have recalls : w.Recalls Sample.learner.id c.key := ⟨⟨_, rfl⟩, rfl⟩
  have content : w.contentOf c = .ok (Sample.course none ["hw1"]).content := rfl
  have held : Sample.engine.onRecord? w Sample.learner.id c.key = some row := rfl
  have outdated : GradingPolicy.hash ∅ ≠ Sample.homework.hash := by decide +kernel
  obtain ⟨-, read, creates⟩ := read_agrees_with_create Sample.engine valid recalls
  obtain ⟨-, computes, -⟩ := creates _ content
  rw [held] at read computes
  exact ⟨valid, recalls, read, computes.2 (.inr ⟨row, rfl, outdated⟩)⟩

end GradeEngine

end Gradebook
