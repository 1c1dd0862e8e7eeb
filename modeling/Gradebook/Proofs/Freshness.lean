/-
# Gradebook.Proofs.Freshness — a stored grade that is served is current

Create compares two fingerprints that come about at different times and places: one is
stamped on the row when it is written, the other belongs to the context at hand. Both are
the fingerprints of contents (`Session.SoundContexts`), and the row is that of the last
computation kept (`Session.Mirrors`). So a grade served from the store was computed under
the policy of the content at hand, unless two policies have one digest.
-/
import Gradebook.Proofs.Journal
import Gradebook.Proofs.PolicyBytes

namespace Gradebook

set_option autoImplicit false

namespace Session

theorem Idle.sound {s : Session} (idle : s.Idle) : s.SoundContexts :=
  fun holder _ held => by cases (idle.contextAt? holder).symm.trans held

/-- A grade from the store is that of a row whose fingerprint is the current one. -/
theorem served_of_stored {s : Session} {step : Step} {g : ResolvedGrade}
    (weighted : s.engine.calculator = .weighted) (answered : (s.step step).1.grade? = some g)
    (stored : g.source = .stored) : ∃ learner c row,
      s.resolving? step = some (learner, .createIfStale, c) ∧
      (s.world.findRow learner.id c.key).1 = .ok (some row) ∧
      s.world.hashOf c = .ok row.policyHash ∧ g = .ofStored row := by
  obtain ⟨learner, strategy, c, resolving, resolved⟩ := resolved_of_answer weighted answered
  cases resolved with
  | failed f answer still => cases answer
  | served row strategy persists found current answer still =>
    subst strategy
    exact ⟨learner, c, row, resolving, found, current, Except.ok.inj answer⟩
  | zero answer still =>
    cases answer
    cases stored
  | unkept k computed answer still =>
    cases answer g rfl
    cases stored
  | kept k row computed persists keeps stamped answer rows writes =>
    cases answer g rfl
    cases stored

/-- **A served grade is fresh.** In every run from an empty store, a grade that a create, a
resolution or a batch serves from the store is that of the last computation kept for its
learner and course, and that was made from a content whose policy has the very bytes of the
policy at hand (unless the two are a collision of the digest). -/
theorem served_grade_fresh {s : Session} (weighted : s.engine.calculator = .weighted)
    (empty : s.world.rows = .memory []) (idle : s.Idle) (steps : List Step) {step : Step}
    {g : ResolvedGrade} (answered : ((s.run steps).2.step step).1.grade? = some g)
    (stored : g.source = .stored) :
    ∃ learner c content k,
      (s.run steps).2.resolving? step = some (learner, .createIfStale, c) ∧
      learner.id = g.learner ∧ c.key = g.courseKey ∧
      (s.run steps).2.world.contentOf c = .ok content ∧
      Computation.last? g.learner g.courseKey (s.journal steps) = some k ∧
      g.percent = k.breakdown.percent ∧ g.passed = k.breakdown.passed ∧
      g.attempted = k.breakdown.attempted ∧
      (k.content.gradingPolicy.bytes = content.gradingPolicy.bytes ∨
        Digest.Collision k.content.gradingPolicy.bytes content.gradingPolicy.bytes) := by
  have mirrors := (mirrors_empty empty).run weighted idle.sound steps
  have sound := idle.sound.run steps
  have weighted' : (s.run steps).2.engine.calculator = .weighted := by rw [run_engine, weighted]
  rw [List.nil_append] at mirrors
  obtain ⟨learner, c, row, resolving, found, current, rfl⟩ :=
    served_of_stored weighted' answered stored
  obtain ⟨rows, held, mirrored⟩ := mirrors
  have looked : rows.find? learner.id c.key = some row := by
    rw [World.findRow] at found
    split at found
    · cases found
    · rw [held] at found
      exact Except.ok.inj found
  obtain ⟨k, last, keeps, stamped⟩ := mirrored learner.id c.key row looked
  obtain ⟨content, at_hand, hashed⟩ :=
    World.hashOf_sound (sound_resolving sound resolving) current
  have same : k.content.gradingPolicy.hash = content.gradingPolicy.hash :=
    stamped.symm.trans hashed
  refine ⟨learner, c, content, k, resolving, keeps.learner.symm, keeps.courseKey.symm, at_hand, ?_,
    keeps.percent, keeps.passed, keeps.attempted, GradingPolicy.bytes_eq_or_collision same⟩
  show Computation.last? row.learner row.courseKey _ = _
  rw [keeps.learner, keeps.courseKey]
  exact last

/-- A policy is replaced, the grade is brought up to date, and then served. -/
theorem served_grade_fresh_after_edit :
    let steps := [Step.update Sample.learner (.ofKey Sample.key),
      .define { Sample.course none ["hw1"] with gradingPolicy := ∅ },
      .create Sample.learner (.ofKey Sample.key)]
    ∃ g k, (((sample (Sample.course none ["hw1"])).run steps).2.step
        (.create Sample.learner (.ofKey Sample.key))).1.grade? = some g ∧ g.source = .stored ∧
      Computation.last? g.learner g.courseKey
        ((sample (Sample.course none ["hw1"])).journal steps) = some k ∧
      g.percent = k.breakdown.percent := by
  intro steps
  have served : (((sample (Sample.course none ["hw1"])).run steps).2.step
      (.create Sample.learner (.ofKey Sample.key))).1.grade?.map (·.source) = some .stored := by
    decide +kernel
  obtain ⟨g, answered, stored⟩ := Option.map_eq_some_iff.1 served
  obtain ⟨-, -, -, k, -, -, -, -, last, percent, -⟩ := served_grade_fresh
    (s := sample (Sample.course none ["hw1"])) rfl rfl (idle_sample _) steps answered stored
  exact ⟨g, k, answered, stored, last, percent⟩

end Session

end Gradebook
