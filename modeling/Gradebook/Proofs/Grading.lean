/-
# Gradebook.Proofs.Grading — resolutions with the weighted calculator

Seen from outside, a resolution with the weighted calculator either leaves the rows alone
or writes one row that keeps the breakdown of `World.computation` under the fingerprint
`World.hashOf`; both are read off the world and the context it starts from. `resolved` says
so, with what is answered in each case.
-/
import Gradebook.Proofs.Computing
import Gradebook.Proofs.Resolving

namespace Gradebook

set_option autoImplicit false

open Lookup (Within within_pure within_bind within_ask within_get within_throw)

namespace Request

/-- What follows a computation may ask. -/
def concludes : Request → Prop
  | .findRow _ _ | .putRow _ | .clock => True
  | r => r.announces

theorem concludes_of_announces {r : Request} (h : r.announces) : r.concludes := by
  cases r <;> first | exact h | trivial

end Request

namespace GradeEngine

theorem within_stored {α : Type} {kinds : Request → Prop} (o : Except StorageError α) :
    Within kinds (stored o) := by
  cases o with
  | error x => exact within_throw _
  | ok a => exact within_pure a

theorem within_keep (learner : Learner) (known : Option StoredGrade) (b : GradeBreakdown) :
    Within Request.concludes (keep learner known b) := by
  have looks : ∀ r, Request.looks r → Request.concludes r :=
    fun _ h => Request.concludes_of_announces (Request.announces_of_looks h)
  refine within_bind within_get fun c => ?_
  have rest (previous : Option StoredGrade) : Within Request.concludes (do
      let now ← Lookup.ask .clock
      let row ← StoredGrade.record learner.id b previous now
      write row) :=
    within_bind (within_ask trivial) fun now =>
      within_bind ((StoredGrade.within_record learner.id b previous now).mono looks) fun _ =>
        within_bind (within_ask trivial) fun _ => within_stored _
  cases known with
  | some row => exact rest (some row)
  | none => exact within_bind (within_bind (within_ask trivial) fun _ => within_stored _) rest

theorem within_conclude (e : GradeEngine) (learner : Learner) (readOnly : Bool)
    (known : Option StoredGrade) (b : GradeBreakdown) :
    Within Request.concludes (e.conclude learner readOnly known b) := by
  refine within_bind within_get fun c => ?_
  have announce (kept : Bool) : Within Request.concludes (e.announce learner c.key b kept) :=
    (within_announce e learner c.key b kept).mono fun _ => Request.concludes_of_announces
  dsimp only
  split
  · exact within_bind (within_keep learner known b) fun _ => announce _
  · exact announce _

theorem cache_conclude (e : GradeEngine) (w : World) (learner : Learner) (readOnly : Bool)
    (known : Option StoredGrade) (b : GradeBreakdown) (c : Context) :
    (w.look (e.conclude learner readOnly known b) c).2.cache = w.cache := by
  refine World.look_keeps (·.cache) (within_conclude e learner readOnly known b) ?_ w c
  intro r w kind
  cases r with
  | findRow learner key =>
    simp only [World.answer, World.findRow]
    split <;> rfl
  | putRow row =>
    simp only [World.answer, World.putRow]
    split <;> rfl
  | deliver listener notice => rfl
  | clock => rfl
  | loadCourse key => exact (World.answer_looks (r := .loadCourse key) trivial w).1
  | loadContent key => exact (World.answer_looks (r := .loadContent key) trivial w).1
  | log entry => rfl
  | _ => exact kind.elim

/-- What has come of a resolution: who wrote what, and what an answer can be. -/
inductive Resolved (e : GradeEngine) (w : World) (learner : Learner) (c : Context) (s : Strategy)
    (o : Except Failure ResolvedGrade) (w' : World) : Prop where
  | failed (f : Failure) (answer : o = .error f)
      (still : w'.rows = w.rows ∧ w'.writes = w.writes)
  | served (row : StoredGrade) (strategy : s = .createIfStale)
      (persists : e.flags.persists c.key = true)
      (found : (w.findRow learner.id c.key).1 = .ok (some row))
      (current : w.hashOf c = .ok row.policyHash) (answer : o = .ok (.ofStored row))
      (still : w'.rows = w.rows ∧ w'.writes = w.writes)
  | zero (answer : o = .ok (.zero learner.id c.key))
      (still : w'.rows = w.rows ∧ w'.writes = w.writes)
  | unkept (k : Computation) (computed : w.computation learner.id c = .ok k)
      (answer : ∀ g, o = .ok g → g = .ofBreakdown learner.id c.key k.breakdown false)
      (still : w'.rows = w.rows ∧ w'.writes = w.writes)
  | kept (k : Computation) (row : StoredGrade) (computed : w.computation learner.id c = .ok k)
      (persists : e.flags.persists c.key = true)
      (keeps : row.Keeps learner.id c.key k.breakdown)
      (stamped : w.hashOf c = .ok row.policyHash)
      (answer : ∀ g, o = .ok g → g = .ofBreakdown learner.id c.key k.breakdown true)
      (rows : w'.rows = w.rows.put row) (writes : w'.writes = w.writes + 1)

/-- Writing to the log afterwards changes nothing. -/
theorem Resolved.quiet {e : GradeEngine} {w w' w'' : World} {learner : Learner} {c : Context}
    {s : Strategy} {o : Except Failure ResolvedGrade} (h : Resolved e w learner c s o w')
    (quiet : w'.Quiet w'') : Resolved e w learner c s o w'' := by
  have kept (still : w'.rows = w.rows ∧ w'.writes = w.writes) :
      w''.rows = w.rows ∧ w''.writes = w.writes :=
    ⟨quiet.rows.trans still.1, quiet.writes.trans still.2⟩
  cases h with
  | failed f answer still => exact .failed f answer (kept still)
  | served row strategy persists found current answer still =>
    exact .served row strategy persists found current answer (kept still)
  | zero answer still => exact .zero answer (kept still)
  | unkept k computed answer still => exact .unkept k computed answer (kept still)
  | kept k row computed persists keeps stamped answer rows writes =>
    exact .kept k row computed persists keeps stamped answer (quiet.rows.trans rows)
      (quiet.writes.trans writes)

theorem plan_serve {e : GradeEngine} {w : World} {learner : LearnerId} {c : Context}
    {s : Strategy} {row : StoredGrade} (h : e.plan w learner c s = .serve row) :
    s = .createIfStale ∧ e.flags.persists c.key = true ∧
      (w.findRow learner c.key).1 = .ok (some row) ∧ w.hashOf c = .ok row.policyHash := by
  have absent (h : e.planAbsent c.key = .serve row) : False := by
    unfold planAbsent at h
    split at h <;> cases h
  cases s with
  | forceUpdate => cases h
  | createIfStale =>
    unfold plan at h
    cases persists : e.flags.persists c.key with
    | false =>
      rw [persists, if_neg Bool.false_ne_true] at h
      exact (absent h).elim
    | true =>
      rw [if_pos persists] at h
      generalize found : (w.findRow learner c.key).1 = o at h
      rcases o with x | _ | row'
      · cases h
      · exact (absent h).elim
      · simp only [planStored] at h
        generalize hashed : w.hashOf c = o at h
        cases o with
        | error f => cases h
        | ok hash =>
          simp only at h
          split at h
          · next same =>
            cases h
            exact ⟨rfl, rfl, rfl, congrArg Except.ok same.symm⟩
          · cases h

section Weighted

variable {e : GradeEngine} (weighted : e.calculator = .weighted) (w : World) (learner : Learner)
  (c : Context)
include weighted

/-- A recomputation after some looking up. -/
theorem recompute_resolved {w₀ : World} {c₀ : Context} (follows : w.Follows c c₀)
    (quiet : w.Quiet w₀) (s : Strategy) (readOnly : Bool) (known : Option StoredGrade) :
    Resolved e w learner c s (w₀.look (e.recompute learner readOnly known) c₀).1.1
      (w₀.look (e.recompute learner readOnly known) c₀).2 := by
  obtain ⟨steady, filled⟩ := look_computing e follows quiet learner.id
  have same₀ : w.SameSource (begun w₀) := ⟨quiet.source, quiet.faults⟩
  have computed : ((begun w₀).look (e.calculator learner.id) c₀).1.1 =
      (w.computation learner.id c).map Computation.breakdown := by
    rw [weighted, World.look_weighted, World.computation_eq follows same₀ quiet.scores quiet.cache]
  rw [look_recompute, World.look_bind]
  generalize (begun w₀).look (e.calculator learner.id) c₀ = r at steady filled computed
  obtain ⟨⟨outcome, c₁⟩, w₁⟩ := r
  have rows₁ : w₁.rows = w.rows := steady.rows
  have writes₁ : w₁.writes = w.writes := steady.writes
  have same₁ : w.SameSource w₁ := ⟨steady.source, steady.faults⟩
  cases outcome with
  | error f => exact .failed f rfl ⟨rows₁, writes₁⟩
  | ok b =>
    cases of : w.computation learner.id c with
    | error f => simp [of, Except.map] at computed
    | ok k =>
      simp only [of, Except.map, Except.ok.injEq] at computed
      subst computed
      obtain ⟨-, concluded⟩ := conclude_cases e w₁ learner readOnly known k.breakdown c₁
      have key : c₁.key = c.key := filled.grows.key
      cases concluded with
      | unwritten steady answer =>
        refine .unkept k of (fun g answered => ?_)
          ⟨steady.rows.trans rows₁, steady.writes.trans writes₁⟩
        rw [← key]
        exact (answer g answered).2
      | written previous row keeps found recorded steady answer =>
        obtain ⟨row_keeps, stamped⟩ := StoredGrade.keeps_of_record recorded
        have persists : e.flags.persists c.key = true := by
          rw [GradeEngine.keeps, Bool.and_eq_true, Bool.and_eq_true, key] at keeps
          exact keeps.1.2
        refine .kept k row of persists (key ▸ row_keeps) ?_ (fun g answered => ?_) ?_ ?_
        · exact (filled.hashOf_eq same₁).symm.trans stamped
        · rw [← key]
          exact answer g answered
        · exact steady.rows.trans (congrArg (·.put row) rows₁)
        · exact steady.writes.trans (congrArg (· + 1) writes₁)

/-- **What comes of a resolution with the weighted calculator.** -/
theorem resolved (s : Strategy) :
    Resolved e w learner c s (w.look (e.resolveHere learner s) c).1.1
      (w.look (e.resolveHere learner s) c).2 := by
  obtain ⟨c₀, w₀, follows, quiet, planned⟩ := look_resolveHere e w learner c s
  rw [planned]
  have still : w₀.rows = w.rows ∧ w₀.writes = w.writes := ⟨quiet.rows, quiet.writes⟩
  cases plan : e.plan w learner.id c s with
  | serve row =>
    obtain ⟨strategy, persists, found, current⟩ := plan_serve plan
    exact .served row strategy persists found current rfl still
  | zero => exact .zero (by rw [follow, follows.grows.key]) still
  | fail f => exact .failed f rfl still
  | compute readOnly known =>
    exact recompute_resolved weighted w learner c follows quiet s readOnly known

/-- What a resolution may do to the derived data is to ask for the groups of its content. -/
theorem cache_resolveHere (s : Strategy) :
    (w.look (e.resolveHere learner s) c).2.cache = w.cache ∨
      ∃ x, w.contentOf c = .ok x ∧ (w.look (e.resolveHere learner s) c).2.cache =
        (w.groups x.courseKey x.version x.gradedBlocksByFormat).2.cache := by
  obtain ⟨c₀, w₀, follows, quiet, planned⟩ := look_resolveHere e w learner c s
  rw [planned]
  cases plan : e.plan w learner.id c s with
  | serve row => exact .inl quiet.cache
  | zero => exact .inl quiet.cache
  | fail f => exact .inl quiet.cache
  | compute readOnly known =>
    have same₀ : w.SameSource (begun w₀) := ⟨quiet.source, quiet.faults⟩
    have asked := World.cache_weighted (begun w₀) learner.id c₀
    rw [follows.contentOf_eq same₀, ← weighted] at asked
    have cache₀ : (begun w₀).cache = w.cache := quiet.cache
    have rest : (w₀.look (e.recompute learner readOnly known) c₀).2.cache =
        ((begun w₀).look (e.calculator learner.id) c₀).2.cache := by
      rw [look_recompute, World.look_bind]
      generalize (begun w₀).look (e.calculator learner.id) c₀ = r
      obtain ⟨⟨f | b, c₁⟩, w₁⟩ := r
      · rfl
      · exact cache_conclude e w₁ learner readOnly known b c₁
    simp only [follow, rest]
    simpa only [World.groups, cache₀] using asked

end Weighted

/-- A resolution fills cells of its context, whatever the calculator. -/
theorem follows_resolveHere (e : GradeEngine) (w : World) (learner : Learner) (c : Context)
    (s : Strategy) : w.Follows c (w.look (e.resolveHere learner s) c).1.2 ∧
      w.SameSource (w.look (e.resolveHere learner s) c).2 := by
  obtain ⟨c₀, w₀, follows, quiet, planned⟩ := look_resolveHere e w learner c s
  rw [planned]
  cases plan : e.plan w learner.id c s with
  | serve row => exact ⟨follows, quiet.toSameSource⟩
  | zero => exact ⟨follows, quiet.toSameSource⟩
  | fail f => exact ⟨follows, quiet.toSameSource⟩
  | compute readOnly known =>
    obtain ⟨steady, filled⟩ := look_computing e follows quiet learner.id
    simp only [follow, look_recompute, World.look_bind]
    generalize (begun w₀).look (e.calculator learner.id) c₀ = r at steady filled
    obtain ⟨⟨outcome, c₁⟩, w₁⟩ := r
    have same₁ : w.SameSource w₁ := ⟨steady.source, steady.faults⟩
    cases outcome with
    | error f => exact ⟨filled, same₁⟩
    | ok b =>
      obtain ⟨follows₂, concluded⟩ := conclude_cases e w₁ learner readOnly known b c₁
      refine ⟨filled.trans same₁ follows₂, same₁.trans ?_⟩
      cases concluded with
      | unwritten steady answer => exact steady.toSameSource
      | written previous row keeps found recorded steady answer =>
        exact ⟨steady.source, steady.faults⟩

end GradeEngine

end Gradebook
