/-
# Gradebook.Proofs.History — what one step of a session does

A step either grades somebody, in a context that `resolving?` names, or it does not. If it
does, its world and its answer are those of the one resolution (`step_resolving`); if it
does not, it gives no grade and changes the world in one of a few ways (`step_passed`).

Statements about whole runs are inductions over these two (`run_keeps`).
-/
import Gradebook.Proofs.Grading
import Gradebook.Session

namespace Gradebook

set_option autoImplicit false

namespace Answer

/-- The grade a resolution ended in. -/
def grade? : Answer → Option ResolvedGrade
  | .grade o => o.toOption
  | .result (some r) => r.outcome.toOption
  | _ => none

end Answer

namespace Step

/-- What a step says about the course. -/
def inputs? : Step → Option CourseInputs
  | .create _ i | .read _ i | .update _ i | .openContext _ i | .startBatch _ i _ => some i
  | _ => none

end Step

namespace World

variable {α β : Type}

theorem run_map (w : World) (f : α → β) (d : Dialogue α) :
    w.run (f <$> d) = (f (w.run d).1, (w.run d).2) := by
  rw [← bind_pure_comp]
  exact Dialogue.run_bind answer d _ w

theorem run_bind (w : World) (d : Dialogue α) (f : α → Dialogue β) :
    w.run (d >>= f) = (w.run d).2.run (f (w.run d).1) := Dialogue.run_bind answer d f w

end World

namespace Batch

theorem run_logResult (w : World) (b : Batch) (r : GradeResult) :
    ∃ w', w.Quiet w' ∧ w.run (b.logResult r) = ((), w') := by
  rcases r with ⟨learner, x | g⟩
  · exact ⟨(w.addLog [_]).addLog [_],
      (World.quiet_addLog w _).trans (World.quiet_addLog _ _), rfl⟩
  · exact ⟨w.addLog [_], World.quiet_addLog w _, rfl⟩

/-- Grading one learner of a batch is one resolution on a copy of its context. -/
theorem run_gradeOne (w : World) (e : GradeEngine) (b : Batch) (learner : Learner) :
    (w.run (b.gradeOne e learner)).1 = ⟨learner,
      (w.look (e.resolveHere learner b.strategy) (b.context.forLearner learner.id)).1.1.mapError
        Failure.contained⟩ ∧
    (w.look (e.resolveHere learner b.strategy) (b.context.forLearner learner.id)).2.Quiet
      (w.run (b.gradeOne e learner)).2 := by
  simp only [gradeOne, GradeEngine.resolve, World.run_bind, World.run_map]
  rw [← World.look]
  obtain ⟨⟨o, c⟩, w'⟩ := w.look (e.resolveHere learner b.strategy)
    (b.context.forLearner learner.id)
  obtain ⟨w'', quiet, logged⟩ := run_logResult w' b ⟨learner, o.mapError Failure.contained⟩
  simp only [logged]
  exact ⟨rfl, quiet⟩

end Batch

namespace Session

/-- Who is graded, how, and in which context, if a step grades anyone. -/
def resolving? (s : Session) : Step → Option (Learner × Strategy × Context)
  | .create learner i =>
    (Context.ofInputs (some learner.id) i).toOption.map (learner, .createIfStale, ·)
  | .update learner i =>
    (Context.ofInputs (some learner.id) i).toOption.map (learner, .forceUpdate, ·)
  | .resolve context learner strategy => s.contexts[context]?.map (learner, strategy, ·)
  | .resolveIn holder learner strategy => (s.contextAt? holder).map (learner, strategy, ·)
  | .nextResult batch => s.batches[batch]?.bind fun b => match b.supply with
    | some learner :: _ => some (learner, b.strategy, b.context.forLearner learner.id)
    | _ => none
  | _ => none

@[simp] theorem putContext_engine (s : Session) (holder : Holder) (c : Context) :
    (s.putContext holder c).engine = s.engine := by
  cases holder <;> rfl

@[simp] theorem putContext_world (s : Session) (holder : Holder) (c : Context) :
    (s.putContext holder c).world = s.world := by
  cases holder <;> rfl

@[simp] theorem putContext_transactions (s : Session) (holder : Holder) (c : Context) :
    (s.putContext holder c).transactions = s.transactions := by
  cases holder <;> rfl

/-- A lookup on a context kept before leaves behind what it filled. -/
theorem lookUp_eq {α : Type} (s : Session) (holder : Holder) (c : Context) (l : Lookup α) :
    s.lookUp holder c l = ((s.world.look l c).1.1,
      ({ s with world := (s.world.look l c).2 } : Session).putContext holder
        (s.world.look l c).1.2) := rfl

@[simp] theorem step_engine (s : Session) (step : Step) :
    (s.step step).2.engine = s.engine := by
  cases step with
  | resolve context learner strategy =>
    simp only [Session.step, resolve]
    split <;> rfl
  | resolveIn holder learner strategy =>
    simp only [Session.step, resolveIn, lookUp_eq]
    split
    · rfl
    · exact putContext_engine _ _ _
  | fork holder learner =>
    simp only [Session.step, fork]
    split <;> rfl
  | consult holder q =>
    simp only [Session.step, consult, lookUp_eq]
    split
    · rfl
    · exact putContext_engine _ _ _
  | openContext learner i =>
    simp only [Session.step, openContext]
    split <;> rfl
  | startBatch supply i strategy =>
    simp only [Session.step, startBatch]
    split <;> rfl
  | nextResult batch =>
    simp only [Session.step, nextResult]
    split <;> rfl
  | closeBatch batch =>
    simp only [Session.step, closeBatch]
    split <;> rfl
  | release transaction =>
    simp only [Session.step, release]
    split <;> rfl
  | _ => rfl

/-- An operation on the context of the inputs is a lookup on it. -/
theorem run_within {α : Type} (w : World) (learner : Learner) (i : CourseInputs) (l : Lookup α)
    {c : Context} (opened : Context.ofInputs (some learner.id) i = .ok c) :
    w.run (GradeEngine.within learner i l) = ((w.look l c).1.1, (w.look l c).2) := by
  rw [GradeEngine.within, opened]
  exact World.run_map w _ _

theorem run_within_error {α : Type} (w : World) (learner : Learner) (i : CourseInputs)
    (l : Lookup α) {x : GradeError} (refused : Context.ofInputs (some learner.id) i = .error x) :
    w.run (GradeEngine.within learner i l) = (.error (.error x), w) := by
  rw [GradeEngine.within, refused]
  rfl

section Resolving

variable {s : Session} {step : Step} {learner : Learner} {strategy : Strategy} {c : Context}

theorem opened_of_map {learner' : Learner} {strategy' : Strategy} {o : Except GradeError Context}
    (h : o.toOption.map (learner', strategy', ·) = some (learner, strategy, c)) :
    learner' = learner ∧ strategy' = strategy ∧ o = .ok c := by
  cases o with
  | error x => cases h
  | ok c' =>
    simp only [Except.toOption, Option.map_some, Option.some.injEq, Prod.mk.injEq] at h
    obtain ⟨rfl, rfl, rfl⟩ := h
    exact ⟨rfl, rfl, rfl⟩

theorem held_of_map {learner' : Learner} {strategy' : Strategy} {o : Option Context}
    (h : o.map (learner', strategy', ·) = some (learner, strategy, c)) :
    learner' = learner ∧ strategy' = strategy ∧ o = some c := by
  obtain ⟨c', rfl, same⟩ := Option.map_eq_some_iff.1 h
  simp only [Prod.mk.injEq] at same
  obtain ⟨rfl, rfl, rfl⟩ := same
  exact ⟨rfl, rfl, rfl⟩

/-- The batch whose next learner is graded. -/
theorem batch_of_resolving {n : Nat} (h : s.resolving? (.nextResult n) =
    some (learner, strategy, c)) : ∃ b rest, s.batches[n]? = some b ∧
      b.supply = some learner :: rest ∧ b.strategy = strategy ∧
      b.context.forLearner learner.id = c := by
  simp only [resolving?] at h
  obtain ⟨b, held, graded⟩ := Option.bind_eq_some_iff.1 h
  split at graded
  · next learner' rest supply =>
    simp only [Option.some.injEq, Prod.mk.injEq] at graded
    obtain ⟨rfl, rfl, rfl⟩ := graded
    exact ⟨b, rest, held, supply, rfl, rfl⟩
  · cases graded

theorem step_nextResult {n : Nat} {b : Batch} {rest : Supply} (held : s.batches[n]? = some b)
    (supply : b.supply = some learner :: rest) :
    s.step (.nextResult n) = (.result (some (s.world.run (b.gradeOne s.engine learner)).1),
      { s with
        world := (s.world.run (b.gradeOne s.engine learner)).2
        batches := s.batches.set n { b with supply := rest } }) := by
  simp only [Session.step, nextResult, held, carryOut, Batch.next, supply, World.run_bind]
  rfl

/-- **A step that grades somebody is one resolution.** -/
theorem step_resolving (h : s.resolving? step = some (learner, strategy, c)) :
    (s.world.look (s.engine.resolveHere learner strategy) c).2.Quiet (s.step step).2.world ∧
      (s.step step).1.grade? =
        (s.world.look (s.engine.resolveHere learner strategy) c).1.1.toOption := by
  cases step with
  | create learner' i =>
    obtain ⟨rfl, rfl, opened⟩ := opened_of_map h
    simp only [Session.step, carryOut, GradeEngine.create, run_within _ _ _ _ opened]
    exact ⟨.refl _, rfl⟩
  | update learner' i =>
    obtain ⟨rfl, rfl, opened⟩ := opened_of_map h
    simp only [Session.step, carryOut, GradeEngine.update, run_within _ _ _ _ opened]
    exact ⟨.refl _, rfl⟩
  | resolve context learner' strategy' =>
    obtain ⟨rfl, rfl, held⟩ := held_of_map h
    simp only [Session.step, resolve, held, carryOut, GradeEngine.resolve, World.run_map]
    exact ⟨.refl _, rfl⟩
  | resolveIn holder learner' strategy' =>
    obtain ⟨rfl, rfl, held⟩ := held_of_map h
    simp only [Session.step, resolveIn, held, lookUp_eq, putContext_world]
    exact ⟨.refl _, rfl⟩
  | nextResult n =>
    obtain ⟨b, rest, held, supply, rfl, rfl⟩ := batch_of_resolving h
    obtain ⟨answered, quiet⟩ := Batch.run_gradeOne s.world s.engine b learner
    rw [step_nextResult held supply]
    refine ⟨quiet, ?_⟩
    simp only [Answer.grade?, answered]
    generalize (s.world.look (s.engine.resolveHere learner b.strategy)
      (b.context.forLearner learner.id)).1.1 = o
    cases o <;> rfl
  | read | openContext | fork | consult | startBatch | closeBatch | beginTransaction | release
  | record | define | publish | disturb | clear | clock => cases h

/-- Grading somebody changes neither the content on offer nor which requests fail. -/
theorem sameSource_of_resolving (h : s.resolving? step = some (learner, strategy, c)) :
    s.world.SameSource (s.step step).2.world :=
  (GradeEngine.follows_resolveHere s.engine s.world learner c strategy).2.trans
    (step_resolving h).1.toSameSource

end Resolving

/-! ## Steps that grade nobody -/

/-- What a step that grades nobody does to the world. -/
inductive Passed (step : Step) (w w' : World) : Prop where
  | quiet (h : w.Quiet w')
  | cleared (key : CourseKey) (h : w' = w.clear key)
  | scored (learner : LearnerId) (key : CourseKey) (block : BlockId) (score : Score)
      (h : w' = w.record learner key block score)
  | defined (d : CourseDefinition) (of : step = .define d)
      (h : w' = { w with source := w.source.define d })
  | published (source : ContentSource) (of : step = .publish source) (h : w' = { w with source })
  | disturbed (faults : Faults) (of : step = .disturb faults) (h : w' = { w with faults })
  | clocked (now : Instant) (of : step = .clock now) (h : w' = { w with now })

theorem Passed.rows {step : Step} {w w' : World} (h : Passed step w w') :
    w'.rows = w.rows ∧ w'.writes = w.writes := by
  cases h with
  | quiet h => exact ⟨h.rows, h.writes⟩
  | _ => next h => subst h; exact ⟨rfl, rfl⟩

theorem quiet_readHere (e : GradeEngine) (w : World) (learner : Learner) (c : Context) :
    w.Quiet (w.look (e.readHere learner) c).2 := by
  obtain ⟨entries, read⟩ := GradeEngine.look_readStored e w learner c
  have absent : w.Quiet (w.look (do
      if e.flags.assumesZero (← get).key then some <$> GradeEngine.createZero learner
      else pure none : Lookup (Option ResolvedGrade)) c).2 := by
    simp only [World.look_bind, World.look_get]
    split
    · obtain ⟨entries, zero⟩ := GradeEngine.look_createZero w learner c
      rw [World.look_map, zero]
      exact World.quiet_addLog w entries
    · exact .refl w
  rw [GradeEngine.readHere, World.look_bind, read]
  cases e.flags.persists c.key with
  | false => exact absent
  | true =>
    simp only [if_true]
    rcases (w.findRow learner.id c.key).1 with x | _ | row
    · exact .refl w
    · exact absent
    · exact World.quiet_addLog w entries

theorem run_start (w : World) (supply : Supply) (i : CourseInputs) (strategy : Strategy)
    {c : Context} (opened : Context.ofInputs none i = .ok c) :
    w.run (Batch.start supply i strategy) = match w.look Batch.prepare c with
      | ((.error f, _), w) => (.error f, w)
      | ((.ok (), c), w) => (.ok ⟨supply, c, strategy, { key := c.key }⟩, w) := by
  rw [Batch.start, opened]
  simp only [World.run_bind]
  rw [← World.look]
  obtain ⟨⟨f | u, c'⟩, w'⟩ := w.look Batch.prepare c <;> rfl

theorem quiet_start (w : World) (supply : Supply) (i : CourseInputs) (strategy : Strategy) :
    w.Quiet (w.run (Batch.start supply i strategy)).2 := by
  cases opened : Context.ofInputs none i with
  | error x =>
    rw [Batch.start, opened]
    exact .refl w
  | ok c =>
    have quiet := World.look_quiet Batch.within_prepare w c
    rw [run_start _ _ _ _ opened]
    generalize w.look Batch.prepare c = r at quiet
    obtain ⟨⟨f | u, c'⟩, w'⟩ := r <;> exact quiet

theorem passed_close (step : Step) (w : World) (b : Batch) :
    Passed step w (w.run b.close).2 := by
  unfold Batch.close
  split
  · exact .quiet (.refl w)
  · exact .cleared b.transaction.key rfl

/-- A call of a batch for which nobody comes closes it. -/
theorem passed_next (step : Step) (w : World) (e : GradeEngine) {b : Batch}
    (nobody : ∀ learner rest, b.supply ≠ some learner :: rest) :
    Passed step w (w.run (b.next e)).2 ∧ (w.run (b.next e)).1.1 = none := by
  unfold Batch.next
  split
  · next learner rest supply => exact absurd supply (nobody learner rest)
  · next rest supply =>
    rw [World.run_bind]
    exact ⟨passed_close step w _, rfl⟩
  · next supply =>
    rw [World.run_bind]
    exact ⟨passed_close step w b, rfl⟩

/-- **A step that grades nobody** gives no grade and leaves the rows alone. -/
theorem step_passed {s : Session} {step : Step} (h : s.resolving? step = none) :
    Passed step s.world (s.step step).2.world ∧ (s.step step).1.grade? = none := by
  cases step with
  | create learner i =>
    cases opened : Context.ofInputs (some learner.id) i with
    | ok c => simp [resolving?, opened, Except.toOption] at h
    | error x =>
      simp only [Session.step, carryOut, GradeEngine.create, run_within_error _ _ _ _ opened]
      exact ⟨.quiet (.refl _), rfl⟩
  | update learner i =>
    cases opened : Context.ofInputs (some learner.id) i with
    | ok c => simp [resolving?, opened, Except.toOption] at h
    | error x =>
      simp only [Session.step, carryOut, GradeEngine.update, run_within_error _ _ _ _ opened]
      exact ⟨.quiet (.refl _), rfl⟩
  | read learner i =>
    cases opened : Context.ofInputs (some learner.id) i with
    | error x =>
      simp only [Session.step, carryOut, GradeEngine.read, run_within_error _ _ _ _ opened]
      exact ⟨.quiet (.refl _), rfl⟩
    | ok c =>
      simp only [Session.step, carryOut, GradeEngine.read, run_within _ _ _ _ opened]
      exact ⟨.quiet (quiet_readHere s.engine s.world learner c), rfl⟩
  | openContext learner i =>
    simp only [Session.step, openContext]
    split <;> exact ⟨.quiet (.refl _), rfl⟩
  | resolve context learner strategy =>
    have absent : s.contexts[context]? = none := Option.map_eq_none_iff.1 h
    simp only [Session.step, resolve, absent]
    exact ⟨.quiet (.refl _), rfl⟩
  | resolveIn holder learner strategy =>
    have absent : s.contextAt? holder = none := Option.map_eq_none_iff.1 h
    simp only [Session.step, resolveIn, absent]
    exact ⟨.quiet (.refl _), rfl⟩
  | fork holder learner =>
    simp only [Session.step, fork]
    split <;> exact ⟨.quiet (.refl _), rfl⟩
  | consult holder q =>
    simp only [Session.step, consult, lookUp_eq]
    split
    · exact ⟨.quiet (.refl _), rfl⟩
    · next c held =>
      simp only [putContext_world]
      exact ⟨.quiet (World.look_quiet (Context.within_consult q) s.world c), rfl⟩
  | startBatch supply i strategy =>
    have quiet := quiet_start s.world supply i strategy
    simp only [Session.step, startBatch, carryOut]
    generalize s.world.run (Batch.start supply i strategy) = r at quiet
    obtain ⟨f | b, w'⟩ := r <;> exact ⟨.quiet quiet, rfl⟩
  | nextResult n =>
    simp only [Session.step, nextResult, carryOut]
    split
    · exact ⟨.quiet (.refl _), rfl⟩
    · next b held =>
      have nobody : ∀ learner rest, b.supply ≠ some learner :: rest := by
        intro learner rest supply
        simp [resolving?, held, supply] at h
      obtain ⟨passed, ended⟩ := passed_next (.nextResult n) s.world s.engine nobody
      refine ⟨passed, ?_⟩
      simp only [Answer.grade?, ended]
  | closeBatch n =>
    simp only [Session.step, closeBatch]
    split
    · exact ⟨.quiet (.refl _), rfl⟩
    · exact ⟨passed_close _ s.world _, rfl⟩
  | beginTransaction key => exact ⟨.quiet (.refl _), rfl⟩
  | release n =>
    simp only [Session.step, release]
    split
    · exact ⟨.quiet (.refl _), rfl⟩
    · next t held =>
      simp only [World.release]
      split
      · exact ⟨.quiet (.refl _), rfl⟩
      · exact ⟨.cleared t.key rfl, rfl⟩
  | record learner key block score => exact ⟨.scored learner key block score rfl, rfl⟩
  | define d => exact ⟨.defined d rfl rfl, rfl⟩
  | publish source => exact ⟨.published source rfl rfl, rfl⟩
  | disturb faults => exact ⟨.disturbed faults rfl rfl, rfl⟩
  | clear key => exact ⟨.cleared key rfl, rfl⟩
  | clock now => exact ⟨.clocked now rfl rfl, rfl⟩

/-! ## Runs -/

/-- What every step of a run keeps, the run keeps. -/
theorem run_keeps {P : Session → Prop} {steps : List Step}
    (keeps : ∀ s, ∀ step ∈ steps, P s → P (s.step step).2) {s : Session} (start : P s) :
    P (s.run steps).2 := by
  induction steps generalizing s with
  | nil => exact start
  | cons step rest ih =>
    refine ih (fun s later inside => keeps s later ?_) (keeps s step List.mem_cons_self start)
    exact List.mem_cons_of_mem step inside

theorem run_engine (s : Session) (steps : List Step) : (s.run steps).2.engine = s.engine :=
  run_keeps (P := fun s' => s'.engine = s.engine)
    (fun s' step _ same => (step_engine s' step).trans same) rfl

end Session

end Gradebook
