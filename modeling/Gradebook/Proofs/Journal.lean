/-
# Gradebook.Proofs.Journal — which computations a run has kept

`Session.journal` lists, for a run, the computations whose grades were written to the store,
in order. It is read off the session before each step; nothing in it looks at a row. The
invariant `Mirrors` says that the rows are those of the last computation kept for each
learner and course, each stamped with the fingerprint of the content it was computed from.

One step keeps it by `GradeEngine.resolved`, together with `SoundContexts`: no context at
hand has the fingerprint of another policy than that of its content.
-/
import Gradebook.Proofs.Contexts

namespace Gradebook

set_option autoImplicit false

namespace Computation

/-- The last computation kept for a learner in a course. -/
def last? (learner : LearnerId) (key : CourseKey) (journal : List Computation) :
    Option Computation :=
  journal.reverse.find? fun k => k.learner = learner ∧ k.key = key

theorem last?_append_single (learner : LearnerId) (key : CourseKey) (journal : List Computation)
    (k : Computation) : last? learner key (journal ++ [k]) =
      if k.learner = learner ∧ k.key = key then some k else last? learner key journal := by
  simp only [last?, List.reverse_append, List.reverse_cons, List.reverse_nil, List.nil_append,
    List.cons_append, List.find?_cons]
  by_cases same : k.learner = learner ∧ k.key = key
  · simp [same]
  · simp [same]

end Computation

namespace Session

/-! ## The journal -/

/-- The computation whose grade a step has written to the store, if it has. -/
def keptBy (s : Session) (step : Step) : Option Computation :=
  match s.resolving? step with
  | none => none
  | some (learner, _, c) =>
    if (s.step step).2.world.writes = s.world.writes then none
    else (s.world.computation learner.id c).toOption

/-- The computations kept in a run, in order. -/
def journal (s : Session) : List Step → List Computation
  | [] => []
  | step :: rest => (s.keptBy step).toList ++ (s.step step).2.journal rest

/-- What a step has come to when it graded somebody with the weighted calculator. -/
theorem step_resolved {s : Session} {step : Step} {learner : Learner} {strategy : Strategy}
    {c : Context} (weighted : s.engine.calculator = .weighted)
    (h : s.resolving? step = some (learner, strategy, c)) :
    ∃ o, (s.step step).1.grade? = o.toOption ∧
      GradeEngine.Resolved s.engine s.world learner c strategy o (s.step step).2.world := by
  obtain ⟨quiet, answer⟩ := step_resolving h
  exact ⟨_, answer, (GradeEngine.resolved weighted s.world learner c strategy).quiet quiet⟩

/-- A grade answered is the outcome of one resolution. -/
theorem resolved_of_answer {s : Session} {step : Step} {g : ResolvedGrade}
    (weighted : s.engine.calculator = .weighted) (answered : (s.step step).1.grade? = some g) :
    ∃ learner strategy c, s.resolving? step = some (learner, strategy, c) ∧
      GradeEngine.Resolved s.engine s.world learner c strategy (.ok g) (s.step step).2.world := by
  cases resolving : s.resolving? step with
  | none => cases (step_passed resolving).2.symm.trans answered
  | some graded =>
    obtain ⟨learner, strategy, c⟩ := graded
    obtain ⟨o, answer, resolved⟩ := step_resolved weighted resolving
    refine ⟨learner, strategy, c, rfl, ?_⟩
    cases o with
    | error f => cases answer.symm.trans answered
    | ok g' =>
      cases answer.symm.trans answered
      exact resolved

theorem keptBy_none {s : Session} {step : Step}
    (h : (s.step step).2.world.writes = s.world.writes) : s.keptBy step = none := by
  unfold keptBy
  split
  · rfl
  · rw [if_pos h]

theorem keptBy_some {s : Session} {step : Step} {learner : Learner} {strategy : Strategy}
    {c : Context} {k : Computation} (h : s.resolving? step = some (learner, strategy, c))
    (writes : (s.step step).2.world.writes = s.world.writes + 1)
    (computed : s.world.computation learner.id c = .ok k) : s.keptBy step = some k := by
  have grew : (s.step step).2.world.writes ≠ s.world.writes := by omega
  rw [keptBy, h]
  simp only [computed]
  exact if_neg grew

/-- A computed grade is the breakdown of one computation. -/
theorem computed_of_answer {s : Session} (weighted : s.engine.calculator = .weighted) {step : Step}
    {g : ResolvedGrade} (answered : (s.step step).1.grade? = some g) {persisted : Bool}
    (source : g.source = .computed persisted) : ∃ learner strategy c k,
      s.resolving? step = some (learner, strategy, c) ∧
      s.world.computation learner.id c = .ok k ∧
      g = .ofBreakdown learner.id c.key k.breakdown persisted := by
  obtain ⟨learner, strategy, c, resolving, resolved⟩ := resolved_of_answer weighted answered
  cases resolved with
  | failed f answer still => cases answer
  | served row strategy persists found current answer still =>
    cases answer
    cases source
  | zero answer still =>
    cases answer
    cases source
  | unkept k computed answer still =>
    cases answer g rfl
    cases source
    exact ⟨learner, strategy, c, k, resolving, computed, rfl⟩
  | kept k row computed persists keeps stamped answer rows writes =>
    cases answer g rfl
    cases source
    exact ⟨learner, strategy, c, k, resolving, computed, rfl⟩

/-- What a grade that was kept left in the store. -/
theorem kept_of_answer {s : Session} (weighted : s.engine.calculator = .weighted) {step : Step}
    {g : ResolvedGrade} (answered : (s.step step).1.grade? = some g)
    (kept : g.source = .computed true) : ∃ learner strategy c k row,
      s.resolving? step = some (learner, strategy, c) ∧
      s.world.computation learner.id c = .ok k ∧ s.engine.flags.persists c.key = true ∧
      row.Keeps learner.id c.key k.breakdown ∧ s.world.hashOf c = .ok row.policyHash ∧
      g = .ofBreakdown learner.id c.key k.breakdown true ∧
      (s.step step).2.world.rows = s.world.rows.put row ∧
      (s.step step).2.world.writes = s.world.writes + 1 := by
  obtain ⟨learner, strategy, c, resolving, resolved⟩ := resolved_of_answer weighted answered
  cases resolved with
  | failed f answer still => cases answer
  | served row strategy persists found current answer still =>
    cases answer
    cases kept
  | zero answer still =>
    cases answer
    cases kept
  | unkept k computed answer still =>
    cases answer g rfl
    cases kept
  | kept k row computed persists keeps stamped answer rows writes =>
    exact ⟨learner, strategy, c, k, row, resolving, computed, persists, keeps, stamped,
      answer g rfl, rows, writes⟩

/-- **The journal records what is answered**: a grade said to be kept is the breakdown of
the computation that the step adds to the journal. -/
theorem keptBy_of_answer {s : Session} {step : Step} {g : ResolvedGrade}
    (weighted : s.engine.calculator = .weighted) (answered : (s.step step).1.grade? = some g)
    (kept : g.source = .computed true) : ∃ k, s.keptBy step = some k ∧
      g = .ofBreakdown k.learner k.key k.breakdown true := by
  obtain ⟨learner, strategy, c, k, row, resolving, computed, -, -, -, same, -, writes⟩ :=
    kept_of_answer weighted answered kept
  obtain ⟨learner_eq, key_eq, -⟩ := World.computation_ok computed
  refine ⟨k, keptBy_some resolving writes computed, ?_⟩
  rw [learner_eq, key_eq]
  exact same

/-! ## No context has the fingerprint of another policy -/

def SoundContexts (s : Session) : Prop := ∀ holder c, s.contextAt? holder = some c → c.Sound

theorem hash?_ofInputs {learner : Option LearnerId} {i : CourseInputs} {c : Context}
    (h : Context.ofInputs learner i = .ok c) : c.hash? = none := by
  rw [Context.ofInputs_eq h]

theorem hashOf_opened {w : World} {learner : Option LearnerId} {i : CourseInputs} {c : Context}
    {x : ContentStructure} (opened : Context.ofInputs learner i = .ok c)
    (content : w.contentOf c = .ok x) : w.hashOf c = .ok x.gradingPolicy.hash := by
  rw [World.hashOf, hash?_ofInputs opened, content]
  rfl

theorem SoundContexts.step {s : Session} (sound : s.SoundContexts) (step : Step) :
    (s.step step).2.SoundContexts := by
  intro holder c held
  cases step_stems held with
  | kept before follows => exact follows.sound (sound _ _ before)
  | forked learner before =>
    have copied := sound _ _ before
    exact copied
  | opened inputs opened => exact Context.sound_ofInputs opened
  | started inputs opened follows content => exact follows.sound (Context.sound_ofInputs opened)

theorem sound_resolving {s : Session} (sound : s.SoundContexts) {step : Step} {learner : Learner}
    {strategy : Strategy} {c : Context} (h : s.resolving? step = some (learner, strategy, c)) :
    c.Sound := by
  rcases context_of_resolving h with ⟨i, -, opened⟩ | ⟨holder, held, kept, rfl | rfl⟩
  · exact Context.sound_ofInputs opened
  · exact sound holder c kept
  · have copied := sound holder held kept
    exact copied

/-! ## The rows are those of the journal -/

/-- Every row is that of the last computation kept for its learner and course. -/
def Mirrors (journal : List Computation) (w : World) : Prop :=
  ∃ rows, w.rows = .memory rows ∧ ∀ learner key row, rows.find? learner key = some row →
    ∃ k, Computation.last? learner key journal = some k ∧ row.Keeps learner key k.breakdown ∧
      row.policyHash = k.content.gradingPolicy.hash

theorem mirrors_empty {w : World} (h : w.rows = .memory []) : Mirrors [] w :=
  ⟨[], h, fun _ _ _ found => by cases found⟩

theorem Mirrors.same {journal : List Computation} {w w' : World} (h : Mirrors journal w)
    (rows : w'.rows = w.rows) : Mirrors journal w' := by
  obtain ⟨entries, held, mirrors⟩ := h
  exact ⟨entries, rows.trans held, mirrors⟩

/-- Writing the row of a computation adds it to the journal. -/
theorem Mirrors.put {journal : List Computation} {w w' : World} {row : StoredGrade}
    {k : Computation} (h : Mirrors journal w) (rows : w'.rows = w.rows.put row)
    (keeps : row.Keeps k.learner k.key k.breakdown)
    (stamped : row.policyHash = k.content.gradingPolicy.hash) :
    Mirrors (journal ++ [k]) w' := by
  obtain ⟨entries, held, mirrors⟩ := h
  refine ⟨entries.put row, by rw [rows, held]; rfl, fun learner key found looked => ?_⟩
  rw [MemoryRows.find?, MemoryRows.put, keeps.learner, keeps.courseKey, Assoc.find?_put] at looked
  rw [Computation.last?_append_single]
  by_cases same : k.learner = learner ∧ k.key = key
  · rw [if_pos (by rw [same.1, same.2]), Option.some.injEq] at looked
    subst looked
    rw [if_pos same]
    exact ⟨k, rfl, same.1 ▸ same.2 ▸ keeps, stamped⟩
  · have other : ¬(k.learner, k.key) = (learner, key) :=
      fun h => same ⟨congrArg (·.1) h, congrArg (·.2) h⟩
    rw [if_neg other] at looked
    rw [if_neg same]
    exact mirrors learner key found looked

theorem Mirrors.step {journal : List Computation} {s : Session}
    (weighted : s.engine.calculator = .weighted) (sound : s.SoundContexts)
    (mirrors : Mirrors journal s.world) (step : Step) :
    Mirrors (journal ++ (s.keptBy step).toList) (s.step step).2.world := by
  have unchanged (rows : (s.step step).2.world.rows = s.world.rows)
      (writes : (s.step step).2.world.writes = s.world.writes) :
      Mirrors (journal ++ (s.keptBy step).toList) (s.step step).2.world := by
    rw [keptBy_none writes, Option.toList_none, List.append_nil]
    exact mirrors.same rows
  cases resolving : s.resolving? step with
  | none =>
    obtain ⟨passed, -⟩ := step_passed resolving
    exact unchanged passed.rows.1 passed.rows.2
  | some graded =>
    obtain ⟨learner, strategy, c⟩ := graded
    obtain ⟨o, -, resolved⟩ := step_resolved weighted resolving
    cases resolved with
    | failed f answer still => exact unchanged still.1 still.2
    | served row strategy persists found current answer still => exact unchanged still.1 still.2
    | zero answer still => exact unchanged still.1 still.2
    | unkept k computed answer still => exact unchanged still.1 still.2
    | kept k row computed persists keeps stamped answer rows writes =>
      rw [keptBy_some resolving writes computed, Option.toList_some]
      obtain ⟨learner_eq, key_eq, content, -⟩ := World.computation_ok computed
      obtain ⟨x, found, hashed⟩ := World.hashOf_sound (sound_resolving sound resolving) stamped
      rw [content, Except.ok.injEq] at found
      subst found
      exact mirrors.put rows (by rw [learner_eq, key_eq]; exact keeps) hashed

theorem SoundContexts.run {s : Session} (sound : s.SoundContexts) (steps : List Step) :
    (s.run steps).2.SoundContexts :=
  run_keeps (fun _ step _ sound => sound.step step) sound

/-- **The rows of a run are those of its journal.** -/
theorem Mirrors.run {journal : List Computation} {s : Session}
    (weighted : s.engine.calculator = .weighted) (sound : s.SoundContexts)
    (mirrors : Mirrors journal s.world) (steps : List Step) :
    Mirrors (journal ++ s.journal steps) (s.run steps).2.world := by
  induction steps generalizing s journal with
  | nil =>
    rw [Session.journal, List.append_nil]
    exact mirrors
  | cons step rest ih =>
    have weighted' : (s.step step).2.engine.calculator = .weighted := by
      rw [step_engine, weighted]
    rw [Session.journal, ← List.append_assoc]
    exact ih weighted' (sound.step step) (mirrors.step weighted sound step)

end Session

end Gradebook
