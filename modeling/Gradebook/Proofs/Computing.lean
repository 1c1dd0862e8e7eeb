/-
# Gradebook.Proofs.Computing — what the weighted calculator computes from

A `Computation` is everything the weighted grade of a learner depends on: the content,
the groups of its blocks and the scores. `World.computation` reads them off a world and a
context, `look_weighted` says that the calculator computes from just these. Looking other
things up before does not change them (`computation_eq`). Where no groups are kept, what is
left is a function of the content and the scores (`look_weighted_fresh`).
-/
import Gradebook.Proofs.Looking

namespace Gradebook

set_option autoImplicit false

/-- What a weighted grade is computed from, for whom. -/
structure Computation where
  learner : LearnerId
  key : CourseKey
  content : ContentStructure
  groups : GradedBlocks
  scores : Dictionary Score

namespace Computation

def breakdown (k : Computation) : GradeBreakdown :=
  Calculation.breakdown k.content.gradingPolicy k.groups k.scores

end Computation

/-- The weighted grade of a content, from its own groups and the scores that are read. -/
def ContentStructure.weighed (x : ContentStructure)
    (scores : Except StorageError (Dictionary Score)) : Except Failure GradeBreakdown :=
  match x.gradingPolicy.validate with
  | .error cause => .error (.error (.calculation (.invalidPolicy cause)))
  | .ok () => match scores with
    | .error cause => .error (.error (.calculation (.scoresUnavailable cause)))
    | .ok scores =>
      .ok (Calculation.breakdown x.gradingPolicy x.gradedBlocksByFormat scores)

theorem ContentStructure.weighed_ok {x : ContentStructure}
    (valid : x.gradingPolicy.validate = .ok ()) (scores : Dictionary Score) :
    x.weighed (.ok scores) =
      .ok (Calculation.breakdown x.gradingPolicy x.gradedBlocksByFormat scores) := by
  simp only [weighed, valid]

namespace World

variable {w : World}

/-- What the weighted grade of a learner is computed from, or why there is none. -/
def computation (w : World) (learner : LearnerId) (c : Context) : Except Failure Computation :=
  match w.contentOf c with
  | .error f => .error f
  | .ok content => match content.gradingPolicy.validate with
    | .error cause => .error (.error (.calculation (.invalidPolicy cause)))
    | .ok () => match (w.scoresOf learner content.courseKey).1 with
      | .error cause => .error (.error (.calculation (.scoresUnavailable cause)))
      | .ok scores =>
        let groups := w.groups content.courseKey content.version content.gradedBlocksByFormat
        .ok ⟨learner, c.key, content, groups.1, scores⟩

theorem groups_eq {w' : World} (h : w'.cache = w.cache) (key : CourseKey)
    (version : Option String) (built : GradedBlocks) :
    (w'.groups key version built).1 = (w.groups key version built).1 := by
  simp only [groups, h]

/-- What is computed from does not depend on what was looked up before. -/
theorem computation_eq {w' : World} {c c' : Context} (follows : w.Follows c c')
    (same : w.SameSource w') (scores : w'.scores = w.scores) (cache : w'.cache = w.cache)
    (learner : LearnerId) : w'.computation learner c' = w.computation learner c := by
  simp only [computation, follows.contentOf_eq same, scoresOf_eq same.faults scores,
    groups_eq cache, follows.grows.key]

theorem computation_ok {learner : LearnerId} {c : Context} {k : Computation}
    (h : w.computation learner c = .ok k) :
    k.learner = learner ∧ k.key = c.key ∧ w.contentOf c = .ok k.content ∧
      k.content.gradingPolicy.validate = .ok () ∧
      (w.scoresOf learner k.content.courseKey).1 = .ok k.scores ∧
      k.groups = (w.groups k.content.courseKey k.content.version
        k.content.gradedBlocksByFormat).1 := by
  rw [computation] at h
  cases content : w.contentOf c with
  | error f => simp [content] at h
  | ok x =>
    cases valid : x.gradingPolicy.validate with
    | error cause => simp [content, valid] at h
    | ok u =>
      cases scores : (w.scoresOf learner x.courseKey).1 with
      | error cause => simp [content, valid, scores] at h
      | ok scores' =>
        simp only [content, valid, scores, Except.ok.injEq] at h
        subst h
        exact ⟨rfl, rfl, rfl, valid, scores, rfl⟩

theorem look_weigh (w : World) (learner : LearnerId) (content : ContentStructure) (c : Context) :
    (w.look (Calculator.weigh learner content) c).1 =
      (match (w.scoresOf learner content.courseKey).1 with
        | .error cause => .error (.error (.calculation (.scoresUnavailable cause)))
        | .ok scores => .ok (Calculation.breakdown content.gradingPolicy
            (w.groups content.courseKey content.version content.gradedBlocksByFormat).1 scores),
      c) := by
  simp only [Calculator.weigh, look_bind, look_ask, answer]
  have same : ((w.groups content.courseKey content.version content.gradedBlocksByFormat).2.scoresOf
      learner content.courseKey).1 = (w.scoresOf learner content.courseKey).1 :=
    scoresOf_eq (by rfl) (by rfl) learner content.courseKey
  rw [same]
  cases (w.scoresOf learner content.courseKey).1 with
  | error cause => rfl
  | ok scores => rfl

theorem cache_weigh (w : World) (learner : LearnerId) (content : ContentStructure) (c : Context) :
    (w.look (Calculator.weigh learner content) c).2.cache =
      (w.groups content.courseKey content.version content.gradedBlocksByFormat).2.cache := by
  simp only [Calculator.weigh, look_bind, look_ask, answer]
  generalize (w.groups content.courseKey content.version content.gradedBlocksByFormat).2 = w'
  have still : (w'.scoresOf learner content.courseKey).2 = w' := by
    unfold scoresOf
    split <;> rfl
  rw [still]
  cases (w'.scoresOf learner content.courseKey).1 with
  | error cause => rfl
  | ok scores => rfl

/-- **The weighted calculator computes from the content, groups and scores** that world and
context hold, and leaves the content at hand. -/
theorem look_weighted (w : World) (learner : LearnerId) (c : Context) :
    (w.look (Calculator.weighted learner) c).1 =
      ((w.computation learner c).map Computation.breakdown, held c (w.contentOf c)) := by
  have found := look_content w c
  have quiet := look_quiet Context.within_content w c
  show (w.look (Calculator.computeWeighted learner) c).1 = _
  rw [Calculator.computeWeighted, look_bind]
  generalize w.look Context.content c = r at found quiet
  obtain ⟨⟨o, c'⟩, w'⟩ := r
  obtain ⟨rfl, rfl⟩ := Prod.mk.inj found
  rw [computation]
  cases w.contentOf c with
  | error f => rfl
  | ok content =>
    cases valid : content.gradingPolicy.validate with
    | error cause => simp [valid, Except.map]
    | ok u =>
      simp only [valid, look_weigh, scoresOf_eq quiet.faults quiet.scores, groups_eq quiet.cache]
      cases (w.scoresOf learner content.courseKey).1 <;> rfl

/-- What the weighted calculator answers when nothing stands in its way. -/
theorem look_weighted_ok {learner : LearnerId} {c : Context} {x : ContentStructure}
    {scores : Dictionary Score} (content : w.contentOf c = .ok x)
    (valid : x.gradingPolicy.validate = .ok ())
    (read : (w.scoresOf learner x.courseKey).1 = .ok scores) :
    (w.look (Calculator.weighted learner) c).1.1 = .ok (Calculation.breakdown x.gradingPolicy
      (w.groups x.courseKey x.version x.gradedBlocksByFormat).1 scores) := by
  rw [look_weighted, computation, content]
  simp only [valid, read]
  rfl

/-- **Without groups kept for it, a content is weighed by itself.** -/
theorem look_weighted_fresh {learner : LearnerId} {c : Context} {x : ContentStructure}
    (content : w.contentOf c = .ok x) (fresh : w.cache.hit? x.courseKey x.version = none) :
    (w.look (Calculator.weighted learner) c).1.1 =
      x.weighed (w.scoresOf learner x.courseKey).1 := by
  have own : (w.groups x.courseKey x.version x.gradedBlocksByFormat).1 =
      x.gradedBlocksByFormat := by
    rw [groups, DerivedCache.groups, fresh]
  rw [look_weighted, computation, content]
  simp only [ContentStructure.weighed]
  cases x.gradingPolicy.validate with
  | error cause => rfl
  | ok u =>
    cases (w.scoresOf learner x.courseKey).1 with
    | error cause => rfl
    | ok scores =>
      simp only [own]
      rfl

/-- The one thing a computation may do to the derived data is to ask for the groups of its
content. -/
theorem cache_weighted (w : World) (learner : LearnerId) (c : Context) :
    (w.look (Calculator.weighted learner) c).2.cache = w.cache ∨
      ∃ x, w.contentOf c = .ok x ∧ (w.look (Calculator.weighted learner) c).2.cache =
        (w.groups x.courseKey x.version x.gradedBlocksByFormat).2.cache := by
  have found := look_content w c
  have quiet := look_quiet Context.within_content w c
  show (w.look (Calculator.computeWeighted learner) c).2.cache = _ ∨ ∃ x, _ ∧
    (w.look (Calculator.computeWeighted learner) c).2.cache = _
  rw [Calculator.computeWeighted, look_bind]
  generalize w.look Context.content c = r at found quiet
  obtain ⟨⟨o, c'⟩, w'⟩ := r
  obtain ⟨rfl, rfl⟩ := Prod.mk.inj found
  cases content : w.contentOf c with
  | error f => exact .inl quiet.cache
  | ok x =>
    cases valid : x.gradingPolicy.validate with
    | error cause =>
      simp only [valid, look_fail]
      exact .inl quiet.cache
    | ok u =>
      refine .inr ⟨x, rfl, ?_⟩
      have cache : w'.cache = w.cache := quiet.cache
      simp only [valid, cache_weigh, groups, cache]

end World

end Gradebook
