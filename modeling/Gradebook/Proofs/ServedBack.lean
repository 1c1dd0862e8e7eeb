/-
# Gradebook.Proofs.ServedBack — a grade that was kept comes back

A row holds a letter as a text, an empty one for none, and a pass as the moment of passing.
Reading the row back gives what was written (`StoredGrade.Keeps.served`) but for one letter:
the empty text is a letter that a valid policy can award, and comes back as none.

`kept_grade_served_back` follows a grade from the create or update that kept it, through any
steps that keep no other for the same learner and course, to the read and create after them.
-/
import Gradebook.Proofs.Journal

namespace Gradebook

set_option autoImplicit false

namespace GradingPolicy

theorem better_mem {best : Option (String × Double)} {entry found : String × Double}
    (h : better best entry = some found) : found = entry ∨ best = some found := by
  cases best with
  | none => exact .inl (Option.some.inj h).symm
  | some held =>
    simp only [better] at h
    split at h
    · exact .inl (Option.some.inj h).symm
    · exact .inr h

theorem foldl_better_mem {entries : List (String × Double)} {best : Option (String × Double)}
    {found : String × Double} (h : entries.foldl better best = some found) :
    found ∈ entries ∨ best = some found := by
  induction entries generalizing best with
  | nil => exact .inr h
  | cons entry rest ih =>
    rcases ih h with inside | first
    · exact .inl (List.mem_cons_of_mem entry inside)
    · rcases better_mem first with rfl | before
      · exact .inl (List.mem_cons_self)
      · exact .inr before

/-- A letter awarded is one of the policy. -/
theorem letterFor?_mem {p : GradingPolicy} {fraction : Float} {letter : String}
    (h : p.letterFor? fraction = some letter) : ∃ cutoff, (letter, cutoff) ∈ p.cutoffs.entries := by
  obtain ⟨⟨letter, cutoff⟩, best, rfl⟩ := Option.map_eq_some_iff.1 h
  rcases foldl_better_mem best with inside | none
  · exact ⟨cutoff, (List.mem_filter.1 inside).1⟩
  · cases none

end GradingPolicy

/-- What a row gives back of the breakdown it keeps. -/
theorem StoredGrade.Keeps.served {row : StoredGrade} {learner : LearnerId} {key : CourseKey}
    {b : GradeBreakdown} (keeps : row.Keeps learner key b) (kept : Bool) :
    (ResolvedGrade.ofStored row).percent = (ResolvedGrade.ofBreakdown learner key b kept).percent ∧
    (ResolvedGrade.ofStored row).passed = (ResolvedGrade.ofBreakdown learner key b kept).passed ∧
    (ResolvedGrade.ofStored row).attempted =
      (ResolvedGrade.ofBreakdown learner key b kept).attempted ∧
    (ResolvedGrade.ofStored row).passStatus =
      (ResolvedGrade.ofBreakdown learner key b kept).passStatus ∧
    ((ResolvedGrade.ofStored row).letterGrade =
      (ResolvedGrade.ofBreakdown learner key b kept).letterGrade ↔ b.letterGrade ≠ some "") := by
  have passed : row.passed = b.passed := keeps.passed
  refine ⟨keeps.percent, passed, keeps.attempted,
    ResolvedGrade.passStatus_congr passed keeps.attempted, ?_⟩
  simp only [ResolvedGrade.ofStored, ResolvedGrade.ofBreakdown, keeps.letterGrade]
  cases b.letterGrade with
  | none => simp
  | some letter => by_cases empty : letter = "" <;> simp [empty]

namespace Session

/-! ## A row stays until another is kept -/

/-- A step that keeps no grade of a learner in a course leaves their row alone. -/
theorem step_find? {s : Session} (weighted : s.engine.calculator = .weighted)
    (memory : s.world.rows.InMemory) {step : Step} {learner : LearnerId} {key : CourseKey}
    (other : ∀ k, s.keptBy step = some k → ¬(k.learner = learner ∧ k.key = key)) :
    (s.step step).2.world.rows.InMemory ∧
      (s.step step).2.world.rows.find? learner key = s.world.rows.find? learner key := by
  have same (rows : (s.step step).2.world.rows = s.world.rows) :
      (s.step step).2.world.rows.InMemory ∧
        (s.step step).2.world.rows.find? learner key = s.world.rows.find? learner key := by
    rw [rows]
    exact ⟨memory, rfl⟩
  cases resolving : s.resolving? step with
  | none =>
    obtain ⟨passed, -⟩ := step_passed resolving
    exact same passed.rows.1
  | some graded =>
    obtain ⟨graded, strategy, c⟩ := graded
    obtain ⟨o, -, resolved⟩ := step_resolved weighted resolving
    cases resolved with
    | failed f answer still => exact same still.1
    | served row strategy persists found current answer still => exact same still.1
    | zero answer still => exact same still.1
    | unkept k computed answer still => exact same still.1
    | kept k row computed persists keeps stamped answer rows writes =>
      obtain ⟨learner_eq, key_eq, -⟩ := World.computation_ok computed
      have differs := other k (keptBy_some resolving writes computed)
      rw [learner_eq, key_eq] at differs
      rw [rows, RowStore.find?_put memory, keeps.learner, keeps.courseKey, if_neg differs]
      exact ⟨RowStore.inMemory_put memory row, rfl⟩

theorem run_find? {s : Session} (weighted : s.engine.calculator = .weighted)
    (memory : s.world.rows.InMemory) {steps : List Step} {learner : LearnerId} {key : CourseKey}
    (other : ∀ k ∈ s.journal steps, ¬(k.learner = learner ∧ k.key = key)) :
    (s.run steps).2.world.rows.find? learner key = s.world.rows.find? learner key := by
  induction steps generalizing s with
  | nil => rfl
  | cons step rest ih =>
    have here (k : Computation) (kept : s.keptBy step = some k) :
        ¬(k.learner = learner ∧ k.key = key) := by
      apply other k
      rw [journal, kept]
      exact List.mem_cons_self
    have later (k : Computation) (kept : k ∈ (s.step step).2.journal rest) :
        ¬(k.learner = learner ∧ k.key = key) := by
      apply other k
      rw [journal]
      exact List.mem_append_right _ kept
    have weighted' : (s.step step).2.engine.calculator = .weighted := by
      rw [step_engine, weighted]
    obtain ⟨memory', found⟩ := step_find? weighted memory here
    exact (ih weighted' memory' later).trans found

/-! ## Reading it back -/

section Reading

variable {s : Session} {learner : Learner} {i : CourseInputs} {c : Context} {row : StoredGrade}
  (opened : Context.ofInputs (some learner.id) i = .ok c)
  (persists : s.engine.flags.persists c.key = true)
  (found : (s.world.findRow learner.id c.key).1 = .ok (some row))
include opened persists found

theorem step_read :
    (s.step (.read learner i)).1 = .found (.ok (some (.ofStored row))) := by
  obtain ⟨entries, read⟩ := GradeEngine.look_readStored s.engine s.world learner c
  rw [if_pos persists, found] at read
  simp only [Session.step, carryOut, GradeEngine.read, run_within _ _ _ _ opened,
    GradeEngine.readHere, World.look_bind, read]
  rfl

theorem step_create (current : s.world.hashOf c = .ok row.policyHash) :
    (s.step (.create learner i)).1 = .grade (.ok (.ofStored row)) := by
  obtain ⟨c₀, w₀, -, -, planned⟩ :=
    GradeEngine.look_resolveHere s.engine s.world learner c .createIfStale
  have plan : s.engine.plan s.world learner.id c .createIfStale = .serve row := by
    rw [GradeEngine.plan, if_pos persists, found]
    simp only [current, GradeEngine.planStored, if_true]
  rw [plan] at planned
  change s.world.look (s.engine.createHere learner) c = _ at planned
  simp only [Session.step, carryOut, GradeEngine.create, run_within _ _ _ _ opened, planned]
  rfl

end Reading

/-- **A grade that was kept is served back unchanged, but for an empty letter.** When a
create or an update has answered a grade and kept it, the stored grade has the same percent,
marks and status; its letter is the same unless that is the empty text, which a policy
without an empty letter never awards. As long as no other grade of the learner in the course
is kept, a read answers the stored grade, and so does a create when the content at hand has
the policy the grade was computed under. -/
theorem kept_grade_served_back {s : Session} (weighted : s.engine.calculator = .weighted)
    (memory : s.world.rows.InMemory) {learner₀ : Learner} {i₀ : CourseInputs} {c₀ : Context}
    {step₀ : Step} {g : ResolvedGrade}
    (direct : step₀ = .create learner₀ i₀ ∨ step₀ = .update learner₀ i₀)
    (opened₀ : Context.ofInputs (some learner₀.id) i₀ = .ok c₀)
    (answered : (s.step step₀).1.grade? = some g) (kept : g.source = .computed true)
    (between : List Step)
    (undisturbed : ∀ k ∈ (s.step step₀).2.journal between,
      ¬(k.learner = learner₀.id ∧ k.key = c₀.key)) :
    ∃ r : ResolvedGrade, r.source = .stored ∧ r.percent = g.percent ∧ r.passed = g.passed ∧
      r.attempted = g.attempted ∧ r.passStatus = g.passStatus ∧
      (r.letterGrade = g.letterGrade ↔ g.letterGrade ≠ some "") ∧
      (∀ x₀, s.world.contentOf c₀ = .ok x₀ →
        (∀ cutoff, ("", cutoff) ∉ x₀.gradingPolicy.cutoffs.entries) →
        r.letterGrade = g.letterGrade) ∧
      ∀ learner i c, Context.ofInputs (some learner.id) i = .ok c → learner.id = learner₀.id →
        c.key = c₀.key → ((s.step step₀).2.run between).2.world.faults.findRow = none →
        (((s.step step₀).2.run between).2.step (.read learner i)).1 = .found (.ok (some r)) ∧
        ∀ x₀ x, s.world.contentOf c₀ = .ok x₀ →
          ((s.step step₀).2.run between).2.world.contentOf c = .ok x →
          x.gradingPolicy = x₀.gradingPolicy →
          (((s.step step₀).2.run between).2.step (.create learner i)).1 = .grade (.ok r) := by
  have resolving : ∃ strategy, s.resolving? step₀ = some (learner₀, strategy, c₀) := by
    rcases direct with rfl | rfl <;> exact ⟨_, by rw [resolving?, opened₀]; rfl⟩
  obtain ⟨strategy, resolving⟩ := resolving
  obtain ⟨learner, strategy', c, k, row, resolving', computed, persists, keeps, stamped, rfl,
    rows, -⟩ := kept_of_answer weighted answered kept
  obtain ⟨rfl, rfl, rfl⟩ : learner = learner₀ ∧ strategy' = strategy ∧ c = c₀ := by
    simpa only [resolving', Option.some.injEq, Prod.mk.injEq] using resolving
  obtain ⟨-, -, content, -⟩ := World.computation_ok computed
  have engine : ((s.step step₀).2.run between).2.engine = s.engine :=
    (run_engine _ between).trans (step_engine s step₀)
  have weighted₁ : (s.step step₀).2.engine.calculator = .weighted := by rw [step_engine, weighted]
  have memory₁ : (s.step step₀).2.world.rows.InMemory := by
    rw [rows]
    exact RowStore.inMemory_put memory row
  have found := run_find? weighted₁ memory₁ undisturbed
  obtain ⟨percent, passed, attempted, status, letter⟩ := keeps.served true
  refine ⟨.ofStored row, rfl, percent, passed, attempted, status, letter, ?_, ?_⟩
  · intro x₀ content₀ letters
    rw [content, Except.ok.injEq] at content₀
    subst content₀
    refine letter.2 fun empty => ?_
    obtain ⟨cutoff, inside⟩ := GradingPolicy.letterFor?_mem empty
    exact letters cutoff inside
  · intro learner i c opened same_learner same_key serves
    have persists' : ((s.step step₀).2.run between).2.engine.flags.persists c.key = true := by
      rw [engine, same_key]
      exact persists
    have found' : (((s.step step₀).2.run between).2.world.findRow learner.id c.key).1 =
        .ok (some row) := by
      rw [World.findRow, serves, same_learner, same_key]
      simp only
      rw [found, rows, RowStore.find?_put memory, if_pos ⟨keeps.learner, keeps.courseKey⟩]
    refine ⟨step_read opened persists' found', ?_⟩
    intro x₀ x content₀ content' unchanged
    refine step_create opened persists' found' ?_
    rw [World.hashOf, hash?_ofInputs opened, content', ← stamped, World.hashOf,
      hash?_ofInputs opened₀, content₀]
    simp only [Except.map, unchanged]

/-- A grade is kept, read and served on the small course. -/
theorem kept_grade_served_back_sample :
    let s := sample (Sample.course none ["hw1"])
    let i := CourseInputs.ofKey Sample.key
    ∃ g r : ResolvedGrade, (s.step (.update Sample.learner i)).1.grade? = some g ∧
      g.source = .computed true ∧ r.source = .stored ∧ r.percent = g.percent ∧
      r.letterGrade = g.letterGrade ∧
      ((s.step (.update Sample.learner i)).2.step (.read Sample.learner i)).1 =
        .found (.ok (some r)) ∧
      ((s.step (.update Sample.learner i)).2.step (.create Sample.learner i)).1 =
        .grade (.ok r) := by
  intro s i
  have updated : (s.step (.update Sample.learner i)).1.grade?.map
      (fun g => (g.source, g.letterGrade)) = some (.computed true, none) := by
    decide +kernel
  obtain ⟨g, answered, seen⟩ := Option.map_eq_some_iff.1 updated
  obtain ⟨kept, letter⟩ := Prod.mk.inj seen
  let c : Context := ⟨some Sample.learner.id, Sample.key, none, none, none⟩
  have opened : Context.ofInputs (some Sample.learner.id) i = .ok c := rfl
  have resolving : s.resolving? (.update Sample.learner i) =
      some (Sample.learner, .forceUpdate, c) := rfl
  have source := sameSource_of_resolving resolving
  have before : s.world.contentOf c = .ok (Sample.course none ["hw1"]).content := rfl
  have after := (World.Follows.refl s.world c).contentOf_eq source
  have weighted : s.engine.calculator = .weighted := rfl
  have memory : s.world.rows.InMemory := trivial
  obtain ⟨r, stored, percent, -, -, -, same, -, back⟩ :=
    kept_grade_served_back weighted memory (.inr rfl) opened answered kept []
      fun k inside => absurd inside List.not_mem_nil
  simp only [run] at back
  obtain ⟨read, create⟩ := back Sample.learner i c opened rfl rfl
    (congrArg (·.findRow) source.faults)
  refine ⟨g, r, answered, kept, stored, percent, same.2 ?_, read, ?_⟩
  · rw [letter]
    exact (Option.some_ne_none "").symm
  · exact create _ _ before (after.trans before) rfl

/-- A valid policy may have an empty letter, and a grade with it comes back with none. -/
theorem empty_letter_comes_back_as_none :
    let policy : GradingPolicy := ⟨[], (∅ : Dictionary Double).insert "" (.ofFloat 0.0)⟩
    let s := sample { Sample.course (some "v1") [] with gradingPolicy := policy }
    let i := CourseInputs.ofKey Sample.key
    policy.validate.toOption = some () ∧
      (s.step (.update Sample.learner i)).1.grade?.map (fun g => (g.source, g.letterGrade)) =
        some (.computed true, some "") ∧
      ((s.step (.update Sample.learner i)).2.step (.create Sample.learner i)).1.grade?.map
        (fun g => (g.source, g.letterGrade)) = some (.stored, none) := by
  decide +kernel

end Session

end Gradebook
