/-
# Gradebook.Proofs.BatchSingles — a batch equals its single operations

A batch grades in copies of one context that was filled at its start. Single operations each
fill a context of their own, and the descriptor only when the grade goes out. As long as the
loader has one definition of the course (`World.Has`), all these contexts are views of it
(`Context.Views`), and what is read off one view is read off any other.

So a batch and the single operations go alike call by call, in worlds that differ in their logs
and their counts of loads only (`World.Quiet`).
-/
import Gradebook.Proofs.BatchElements
import Gradebook.Proofs.Failing

namespace Gradebook

set_option autoImplicit false

open Dialogue (KeptBy)
open Lookup (Alike Tries Within)

namespace World

variable {w w' : World}

/-! ## Worlds that differ in their logs -/

theorem Quiet.symm (h : w.Quiet w') : w'.Quiet w where
  source := h.source.symm
  faults := h.faults.symm
  rows := h.rows.symm
  scores := h.scores.symm
  now := h.now.symm
  computations := h.computations.symm
  writes := h.writes.symm
  cache := h.cache.symm
  deliveries := h.deliveries.symm

/-- Each of two worlds has become one that differs in its log. -/
theorem Quiet.along {w₁ w₁' : World} (h : w.Quiet w') (k : w.Quiet w₁) (k' : w'.Quiet w₁') :
    w₁.Quiet w₁' := k.symm.trans (h.trans k')

theorem quiet_answer_looks {r : Request} (h : r.looks) (w : World) : w.Quiet (answer r w).2 where
  toSteady := steady_answer (Request.mild_of_looks h) w
  cache := (answer_looks h w).1
  deliveries := (answer_looks h w).2

/-- Such worlds answer every request alike. -/
theorem Quiet.answer (h : w.Quiet w') (r : Request) :
    (World.answer r w').1 = (World.answer r w).1 ∧
      (World.answer r w).2.Quiet (World.answer r w').2 := by
  have looks (looks : r.looks) : (World.answer r w).2.Quiet (World.answer r w').2 :=
    h.along (quiet_answer_looks looks w) (quiet_answer_looks looks w')
  cases r with
  | loadCourse key => exact ⟨h.loadCourse_eq key, looks trivial⟩
  | loadContent key => exact ⟨h.loadContent_eq key, looks trivial⟩
  | log entry => exact ⟨rfl, looks trivial⟩
  | findRow learner key =>
    refine ⟨h.findRow_eq learner key, ?_⟩
    simp only [World.answer, findRow, h.faults]
    split <;> exact h
  | scoresOf learner key =>
    refine ⟨scoresOf_eq h.faults h.scores learner key, ?_⟩
    simp only [World.answer, World.scoresOf, h.faults]
    split <;> exact h
  | putRow row =>
    have faults : w'.faults.putRow = w.faults.putRow := congrArg (·.putRow) h.faults
    simp only [World.answer, putRow, faults]
    split
    · exact ⟨rfl, h⟩
    · have rows : w'.rows.put row = w.rows.put row := congrArg (·.put row) h.rows
      have writes : w'.writes + 1 = w.writes + 1 := congrArg (· + 1) h.writes
      exact ⟨rfl, { h with rows := rows, writes := writes }⟩
  | groups key version built =>
    refine ⟨groups_eq h.cache key version built, { h with cache := ?_ }⟩
    simp only [World.answer, groups, h.cache]
  | clear key =>
    exact ⟨rfl, { h with cache := congrArg (·.clear key) h.cache }⟩
  | computing learner =>
    exact ⟨rfl, { h with computations := congrArg (· + 1) h.computations }⟩
  | deliver listener notice =>
    exact ⟨rfl, { h with deliveries := congrArg (· ++ [(listener, notice)]) h.deliveries }⟩
  | clock => exact ⟨h.now, h⟩

/-- Such worlds carry out every dialogue alike. -/
theorem Quiet.run {α : Type} (quiet : w.Quiet w') (dialogue : Dialogue α) :
    (w'.run dialogue).1 = (w.run dialogue).1 ∧
      (w.run dialogue).2.Quiet (w'.run dialogue).2 := by
  induction dialogue generalizing w w' with
  | done a => exact ⟨rfl, quiet⟩
  | ask r next ih =>
    obtain ⟨same, still⟩ := quiet.answer r
    rw [World.run, World.run, Dialogue.run_ask, Dialogue.run_ask, same]
    exact ih (World.answer r w).1 still

theorem sameSource_run {α : Type} (w : World) (dialogue : Dialogue α) :
    w.SameSource (w.run dialogue).2 := by
  induction dialogue generalizing w with
  | done a => exact ⟨rfl, rfl⟩
  | ask r next ih => exact (sameSource_answer r w).trans (ih _ _)

/-! ## One definition of the course -/

/-- The loader does not fail, and has this definition under the key. -/
structure Has (w : World) (key : CourseKey) (d : CourseDefinition) : Prop where
  source : w.source.definition key = .ok d
  course : w.faults.course = none
  content : w.faults.content = none

variable {key : CourseKey} {d : CourseDefinition}

theorem Has.same (has : w.Has key d) (same : w.SameSource w') : w'.Has key d where
  source := by rw [same.source, has.source]
  course := by rw [same.faults, has.course]
  content := by rw [same.faults, has.content]

/-- A definition that is held is held on when another one comes, or the same again. -/
theorem Has.define (has : w.Has key d) {d' : CourseDefinition} (spares : d'.key = key → d' = d) :
    ({ w with source := w.source.define d' } : World).Has key d := by
  refine { has with source := ?_ }
  have held := has.source
  cases source : w.source with
  | catalog c files => rwa [source] at held
  | shelf definitions =>
    rw [source] at held
    simp only [ContentSource.define, ContentSource.definition, Shelf.define, Assoc.find?_put]
    split_ifs with same
    · rw [spares same]
    · exact held

theorem Has.loadCourse (has : w.Has key d) : (w.loadCourse key).1 = .ok d.course := by
  simp only [World.loadCourse, has.course, has.source]
  rfl

theorem Has.loadContent (has : w.Has key d) : (w.loadContent key).1 = .ok d.content := by
  simp only [World.loadContent, has.content, has.source]
  rfl

end World

/-- What the context holds is taken from this definition. -/
structure Context.Views (key : CourseKey) (d : CourseDefinition) (c : Context) : Prop where
  key : c.key = key
  course : ∀ x, c.course? = some x → x = d.course
  content : ∀ x, c.content? = some x → x = d.content
  hash : ∀ h, c.hash? = some h → h = d.content.gradingPolicy.hash

namespace World

variable {w w' : World} {key : CourseKey} {d : CourseDefinition}

/-- What is looked up in a view is a view. -/
theorem Has.lasting_views (has : w.Has key d) :
    Context.Lasting (w.terms Request.mild) (Context.Views key d) where
  course c x views _ given := by
    have loaded : Except.ok x = (w.loadCourse c.key).1 := given
    rw [views.key, has.loadCourse, Except.ok.injEq] at loaded
    refine { views with course := fun y held => ?_ }
    cases held
    exact loaded
  content c x views _ given := by
    have loaded : Except.ok x = (w.loadContent c.key).1 := given
    rw [views.key, has.loadContent, Except.ok.injEq] at loaded
    refine { views with content := fun y held => ?_ }
    cases held
    exact loaded
  hash c x views _ held := by
    refine { views with hash := fun h hashed => ?_ }
    cases hashed
    rw [views.content x held]

theorem Has.loadable (has : w.Has key d) :
    Context.Loadable (w.terms Request.mild) (Context.Views key d) fun _ => False where
  asks _ := Request.mild_of_looks
  lasting := has.lasting_views
  course c f views given := by
    have failed : Except.error f = (w.loadCourse c.key).1 := given
    rw [views.key, has.loadCourse] at failed
    cases failed
  content c f views given := by
    have failed : Except.error f = (w.loadContent c.key).1 := given
    rw [views.key, has.loadContent] at failed
    cases failed

section Views

variable (has : w.Has key d) {c : Context} (views : c.Views key d)
include has views

theorem Has.contentOf : w.contentOf c = .ok d.content := by
  rw [World.contentOf]
  cases held : c.content? with
  | some x => rw [views.content x held]
  | none => rw [views.key, has.loadContent]

theorem Has.hashOf : w.hashOf c = .ok d.content.gradingPolicy.hash := by
  rw [World.hashOf]
  cases hashed : c.hash? with
  | some h => rw [views.hash h hashed]
  | none =>
    rw [has.contentOf views]
    rfl

/-- Descriptor and content of a definition name one version. -/
theorem Has.versionOf : w.versionOf c = .ok d.version := by
  rw [World.versionOf]
  cases held : c.course? with
  | some x =>
    rw [views.course x held]
    rfl
  | none =>
    rw [has.contentOf views]
    rfl

theorem Has.editedAtOf : w.editedAtOf c = .ok d.editedOn := by
  rw [World.editedAtOf]
  cases held : c.course? with
  | some x =>
    rw [views.course x held]
    rfl
  | none =>
    rw [has.contentOf views]
    rfl

theorem Has.look_course : (w.look Context.course c).1.1 = .ok d.course := by
  rw [look, run, Context.dialogue_course]
  cases held : c.course? with
  | some x => rw [views.course x held]; rfl
  | none =>
    have loaded : (World.answer (.loadCourse c.key) (w.addLog [⟨.debug, .context,
        "Loading course descriptor", [c.keyField]⟩])).1 = .ok d.course := by
      rw [views.key]
      exact (has.same (quiet_addLog w _).toSameSource).loadCourse
    exact loaded

end Views

/-- Views of one definition, in worlds that differ in their logs. -/
def viewing (key : CourseKey) (d : CourseDefinition) : Pairing := fun w c w' c' =>
  w.Quiet w' ∧ w.Has key d ∧ c.Views key d ∧ c'.Views key d

/-- What a lookup finds in every view, it finds alike. -/
theorem alike_viewing {α : Type} {l : Lookup α} (within : Within Request.looks l)
    {o : Except Failure α}
    (finds : ∀ (w : World) c, w.Has key d → c.Views key d → (w.look l c).1.1 = o) :
    Alike (viewing key d) l l := by
  rintro w c w' c' ⟨quiet, has, views, views'⟩
  have has' : w'.Has key d := has.same quiet.toSameSource
  have still := look_quiet within w c
  have still' := look_quiet within w' c'
  have mild : ∀ r, Request.looks r → r.mild := fun _ => Request.mild_of_looks
  refine ⟨?_, quiet.along still still', has.same still.toSameSource, ?_, ?_⟩
  · rw [finds w c has views, finds w' c' has' views']
  · exact (look_within within mild has.lasting_views views).2
  · exact (look_within within mild has'.lasting_views views').2

theorem alike_ask_viewing (r : Request) :
    Alike (viewing key d) (Lookup.ask r) (Lookup.ask r) := by
  rintro w c w' c' ⟨quiet, has, views, views'⟩
  obtain ⟨same, still⟩ := quiet.answer r
  exact ⟨congrArg Except.ok same, still, has.same (sameSource_answer r w), views, views'⟩

theorem coupling_viewing (learner : LearnerId) : Coupling (viewing key d) learner where
  key := fun ⟨_, _, views, views'⟩ => views'.key.trans views.key.symm
  asks r _ := alike_ask_viewing r
  course := alike_viewing Context.within_course fun _ _ has views => has.look_course views
  content := alike_viewing Context.within_content fun w c has views =>
    (congrArg (·.1) (look_content w c)).trans (has.contentOf views)
  policyHash := alike_viewing Context.within_policyHash fun w c has views =>
    (look_policyHash w c).trans (has.hashOf views)
  contentVersion := alike_viewing Context.within_contentVersion fun w c has views =>
    (look_contentVersion w c).1.trans (has.versionOf views)
  contentEditedAt := alike_viewing Context.within_contentEditedAt fun w c has views =>
    (look_contentEditedAt w c).1.trans (has.editedAtOf views)

/-- **Views of one definition give one grade.** -/
theorem alike_resolveHere_viewing {e : GradeEngine} (weighted : e.calculator = .weighted)
    (learner : Learner) (s : Strategy) :
    Alike (viewing key d) (e.resolveHere learner s) (e.resolveHere learner s) := by
  have coupling : Coupling (viewing key d) learner.id := coupling_viewing learner.id
  have computes : Alike (viewing key d) (e.calculator learner.id) (e.calculator learner.id) := by
    rw [weighted]
    exact Calculator.alike_weighted coupling (fun _ _ => alike_ask_viewing _)
      fun _ => alike_ask_viewing _
  exact coupling.resolveHere (k := e.calculator) computes s

/-- Without a crash of the loader a resolution with the weighted calculator does not crash. -/
theorem Has.resolveHere_ne_crash (has : w.Has key d) {e : GradeEngine}
    (weighted : e.calculator = .weighted) (learner : Learner) (s : Strategy) (c : Context)
    (k : Crash) : (w.look (e.resolveHere learner s) c).1.1 ≠ .error (.crash k) := by
  let any : GradeError → Prop := fun _ => True
  have loads : Context.Loadable (Terms.reporting any) (fun _ => True) (Failure.IsError any) :=
    loadable_reporting
  have resolvable : GradeEngine.Resolvable (Terms.reporting any) (fun _ => True)
      (Failure.IsError any) (Failure.IsError any) learner.id :=
    { loads, asks := fun _ _ => trivial, loading := fun _ h => h
      storing := fun x => ⟨_, rfl, trivial⟩ }
  have computes : Tries (Terms.reporting any).discreet (fun _ => True) (Failure.IsError any)
      (e.calculator learner.id) := by
    rw [weighted]
    exact Calculator.tries_weighted loads.discreet
      (fun _ kind => ⟨trivial, Request.discreet_of_consults kind⟩) (fun _ h => h)
      (fun _ => ⟨_, rfl, trivial⟩) learner.id
  have kept : KeptBy (Terms.reporting any) World.answer fun w' => w.SameSource w' := by
    intro r w' same _
    have reports : w'.faults.Reports any := by
      rintro f (fault | fault)
      · cases fault.symm.trans ((congrArg (·.course) same.faults).trans has.course)
      · cases fault.symm.trans ((congrArg (·.content) same.faults).trans has.content)
    exact ⟨reporting_answer (fun _ => trivial) reports r, same.trans (sameSource_answer r w')⟩
  have settles := GradeEngine.settles_resolveHere resolvable computes s
  have fails := (settles.look (fun _ late => late.1) kept ⟨rfl, rfl⟩ (c := c) trivial).1
  intro crashed
  obtain ⟨x, same, -⟩ := fails _ crashed
  cases same

end World

/-- The operation that does for one learner what a batch of this strategy does for each. -/
def Step.single (learner : Learner) (i : CourseInputs) : Strategy → Step
  | .createIfStale => .create learner i
  | .forceUpdate => .update learner i

namespace Session

open World (Has viewing)

variable {key : CourseKey} {d : CourseDefinition}

/-- A single operation is a resolution in a context of its own. -/
theorem step_single {s : Session} {learner : Learner} {i : CourseInputs} {c : Context}
    (opened : Context.ofInputs (some learner.id) i = .ok c) (σ : Strategy) :
    s.step (.single learner i σ) =
      (.grade (s.world.look (s.engine.resolveHere learner σ) c).1.1,
        { s with world := (s.world.look (s.engine.resolveHere learner σ) c).2 }) := by
  cases σ with
  | createIfStale =>
    simp only [Step.single, Session.step, carryOut, GradeEngine.create, run_within _ _ _ _ opened]
    rfl
  | forceUpdate =>
    simp only [Step.single, Session.step, carryOut, GradeEngine.update, run_within _ _ _ _ opened]
    rfl

/-- The context of a bare key. -/
def bare (learner : Option LearnerId) (key : CourseKey) : Context :=
  ⟨learner, key, none, none, none⟩

theorem ofInputs_key (learner : Option LearnerId) (key : CourseKey) :
    Context.ofInputs learner (.ofKey key) = .ok (bare learner key) := rfl

theorem views_bare (learner : Option LearnerId) : (bare learner key).Views key d where
  key := rfl
  course _ held := by cases held
  content _ held := by cases held
  hash _ hashed := by cases hashed

/-- One call of a batch, and the operation that does the same. -/
theorem call_eq_single {w w' : World} {e : GradeEngine} (weighted : e.calculator = .weighted)
    (quiet : w.Quiet w') (has : w.Has key d) {b : Batch} (views : b.context.Views key d)
    (learner : Learner) :
    let element := w.run (b.gradeOne e learner)
    let single := w'.look (e.resolveHere learner b.strategy) (bare (some learner.id) key)
    element.1.learner = learner ∧ single.1.1 = element.1.outcome.mapError .error ∧
      element.2.Quiet single.2 ∧ element.2.Has key d := by
  intro element single
  have views₁ : (b.context.forLearner learner.id).Views key d :=
    ⟨views.key, views.course, views.content, views.hash⟩
  have start : viewing key d w (b.context.forLearner learner.id) w' (bare (some learner.id) key) :=
    ⟨quiet, has, views₁, views_bare _⟩
  obtain ⟨same, still, has₁, -⟩ :=
    World.alike_resolveHere_viewing weighted learner b.strategy _ _ _ _ start
  obtain ⟨graded, logged⟩ := Batch.run_gradeOne w e b learner
  have calm := has.resolveHere_ne_crash weighted learner b.strategy
    (b.context.forLearner learner.id)
  refine ⟨congrArg GradeResult.learner graded, ?_, logged.symm.trans still,
    has₁.same logged.toSameSource⟩
  rw [same, show element.1 = _ from graded]
  generalize (w.look (e.resolveHere learner b.strategy)
    (b.context.forLearner learner.id)).1.1 = o at calm
  rcases o with (x | k) | g
  · rfl
  · exact absurd rfl (calm k)
  · rfl

/-- The operations, each at its time. -/
def singles (σ : Strategy) (key : CourseKey) (readings : List (Learner × Instant)) : List Step :=
  readings.flatMap fun r => [.clock r.2, .single r.1 (.ofKey key) σ]

/-- Closing a batch writes no row and tells nobody. -/
theorem closing_unseen (w : World) (b : Batch) :
    (closing w b).rows = w.rows ∧ (closing w b).deliveries = w.deliveries := by
  unfold closing
  split <;> exact ⟨rfl, rfl⟩

/-- **The calls of a batch are its single operations**, from the start of the batch to its
end. -/
theorem calls_eq_singles (s s' : Session) {n : Nat} {b : Batch}
    (weighted : s.engine.calculator = .weighted) (engine : s'.engine = s.engine)
    (quiet : s.world.Quiet s'.world) (has : s.world.Has key d) (held : s.batches[n]? = some b)
    (views : b.context.Views key d) (readings : List (Learner × Instant))
    (supply : b.supply = .ofLearners (readings.map (·.1))) :
    let batch := s.run (Step.pulls n (readings.map (·.2)) ++ [.nextResult n])
    let single := s'.run (singles b.strategy key readings)
    ∃ results : List GradeResult, results.map (·.learner) = readings.map (·.1) ∧
      batch.1 = (results.flatMap fun r => [.done, .result (some r)]) ++ [.result none] ∧
      single.1 = (results.flatMap fun r => [.done, .grade (r.outcome.mapError .error)]) ∧
      batch.2.world.rows = single.2.world.rows ∧
      batch.2.world.deliveries = single.2.world.deliveries := by
  induction readings generalizing s s' b with
  | nil =>
    have nobody : s.run (Step.pulls n [] ++ [.nextResult n]) =
        ([.result none], s.called n (closing s.world b) b.closed) := by
      rw [show Step.pulls n [] ++ [.nextResult n] = [.nextResult n] from rfl, run_cons,
        step_nextResult_nil held supply]
      rfl
    obtain ⟨rows, deliveries⟩ := closing_unseen s.world b
    simp only [List.map_nil, nobody]
    exact ⟨[], rfl, rfl, rfl, rows.trans quiet.rows.symm, deliveries.trans quiet.deliveries.symm⟩
  | cons r readings ih =>
    obtain ⟨learner, t⟩ := r
    have held' : (s.atTime t).batches[n]? = some b := held
    have quiet' : (s.atTime t).world.Quiet (s'.atTime t).world := { quiet with now := rfl }
    have has' : (s.atTime t).world.Has key d := ⟨has.source, has.course, has.content⟩
    obtain ⟨about, same, still, has₁⟩ :=
      call_eq_single (e := s.engine) weighted quiet' has' views learner
    have called : (s.atTime t).step (.nextResult n) =
        (.result (some ((s.atTime t).world.run (b.gradeOne s.engine learner)).1),
          (s.atTime t).called n ((s.atTime t).world.run (b.gradeOne s.engine learner)).2
            { b with supply := .ofLearners (readings.map (·.1)) }) :=
      step_nextResult_some held' supply
    have alone := step_single (s := s'.atTime t) (ofInputs_key (some learner.id) key) b.strategy
    rw [show (s'.atTime t).engine = s.engine from engine] at alone
    generalize (s'.atTime t).world.look (s.engine.resolveHere learner b.strategy)
      (bare (some learner.id) key) = resolved at same still alone
    generalize (s.atTime t).world.run (b.gradeOne s.engine learner) = element
      at about same still has₁ called
    have batch : s.run (Step.pulls n (((learner, t) :: readings).map (·.2)) ++ [.nextResult n]) =
        let call := (s.atTime t).step (.nextResult n)
        let later := call.2.run (Step.pulls n (readings.map (·.2)) ++ [.nextResult n])
        (.done :: call.1 :: later.1, later.2) := rfl
    have single : s'.run (singles b.strategy key ((learner, t) :: readings)) =
        let call := (s'.atTime t).step (.single learner (.ofKey key) b.strategy)
        let later := call.2.run (singles b.strategy key readings)
        (.done :: call.1 :: later.1, later.2) := rfl
    rw [called] at batch
    rw [alone] at single
    rw [batch, single]
    obtain ⟨results, order, answers, answers', seen⟩ :=
      ih ((s.atTime t).called n element.2 { b with supply := .ofLearners (readings.map (·.1)) })
        { s'.atTime t with engine := s.engine, world := resolved.2 }
        weighted rfl still has₁ (held_called held' _ _) views rfl
    refine ⟨element.1 :: results, ?_, ?_, ?_, seen⟩
    · rw [List.map_cons, order, about]
      rfl
    · exact congrArg (fun later => .done :: .result (some element.1) :: later) answers
    · rw [List.flatMap_cons, ← same]
      exact congrArg (fun later => .done :: .grade resolved.1.1 :: later) answers'

/-- A batch over a bare key starts, with a view of the definition. -/
theorem startBatch_has {s : Session} (has : s.world.Has key d) (supply : Supply) (σ : Strategy) :
    ∃ (b : Batch) (w : World), s.step (.startBatch supply (.ofKey key) σ) =
        (.kept (.ok s.batches.length),
          ({ s with world := w, batches := s.batches ++ [b] } : Session)) ∧
      s.world.Quiet w ∧ b.context.Views key d ∧ b.supply = supply ∧ b.strategy = σ := by
  have loads := has.loadable
  have tries : Tries (s.world.terms Request.mild) (Context.Views key d) (fun _ => False)
      Batch.prepare :=
    Lookup.tries_bind (Context.tries_content loads) fun _ =>
      Lookup.tries_bind ((GradeEngine.tries_availableCourse loads).imp fun _ crash => crash.1)
        fun _ => Lookup.tries_pure _
  obtain ⟨ended, -⟩ := World.look_meets tries (World.keptBy_steady s.world) (.refl s.world)
    (views_bare none)
  have quiet := World.look_quiet Batch.within_prepare s.world (bare none key)
  have started := run_start s.world supply (.ofKey key) σ (ofInputs_key none key)
  generalize s.world.look Batch.prepare (bare none key) = r at ended quiet started
  obtain ⟨⟨f | u, c⟩, w⟩ := r
  · exact ended.1.elim
  · refine ⟨⟨supply, c, σ, { key := c.key }⟩, w, ?_, quiet, ended, rfl, rfl⟩
    simp only [Session.step, startBatch, carryOut, started]

/-- **A batch equals its single operations.** Over a bare key whose definition the loader has,
and with the weighted calculator, a batch that is called until it ends yields the outcomes that
create (or update, if it is to compute every grade) has for one learner after the other at the
same times, in contexts of their own, and leaves the same rows and has told the listeners the
same in the same order. -/
theorem batch_equals_singles (s : Session) (weighted : s.engine.calculator = .weighted)
    (has : s.world.Has key d) (σ : Strategy) (readings : List (Learner × Instant)) :
    let n := s.batches.length
    let batch := s.run (.startBatch (.ofLearners (readings.map (·.1))) (.ofKey key) σ ::
      (Step.pulls n (readings.map (·.2)) ++ [.nextResult n]))
    let single := s.run (readings.flatMap fun r => [.clock r.2, .single r.1 (.ofKey key) σ])
    ∃ results : List GradeResult, results.map (·.learner) = readings.map (·.1) ∧
      batch.1 = .kept (.ok n) ::
        ((results.flatMap fun r => [.done, .result (some r)]) ++ [.result none]) ∧
      single.1 = (results.flatMap fun r => [.done, .grade (r.outcome.mapError .error)]) ∧
      batch.2.world.rows = single.2.world.rows ∧
      batch.2.world.deliveries = single.2.world.deliveries := by
  intro n batch single
  obtain ⟨b, w, started, quiet, views, supply, rfl⟩ :=
    startBatch_has has (.ofLearners (readings.map (·.1))) σ
  let s₁ : Session := { s with world := w, batches := s.batches ++ [b] }
  have held : s₁.batches[n]? = some b := List.getElem?_concat_length
  obtain ⟨results, order, answers, answers', seen⟩ :=
    calls_eq_singles s₁ s weighted rfl quiet.symm (has.same quiet.toSameSource) held views readings
      supply
  have begun : batch =
      let later := s₁.run (Step.pulls n (readings.map (·.2)) ++ [.nextResult n])
      (.kept (.ok n) :: later.1, later.2) := by
    simp only [batch]
    rw [run_cons, started]
  rw [begun]
  exact ⟨results, order, congrArg (.kept (.ok n) :: ·) answers, answers', seen⟩

/-- A batch in which one learner comes twice, and the three updates. -/
theorem batch_equals_singles_repeated :
    let s := sample (Sample.course none ["hw1"])
    let readings : List (Learner × Instant) :=
      [(Sample.learner, default), (.ofId ⟨2⟩, default), (Sample.learner, default)]
    (s.engine.calculator = .weighted ∧ s.world.Has Sample.key (Sample.course none ["hw1"])) ∧
      let n := s.batches.length
      let batch := s.run (.startBatch (.ofLearners (readings.map (·.1))) (.ofKey Sample.key)
        .forceUpdate :: (Step.pulls n (readings.map (·.2)) ++ [.nextResult n]))
      let single := s.run (readings.flatMap fun r =>
        [.clock r.2, .single r.1 (.ofKey Sample.key) .forceUpdate])
      ∃ results : List GradeResult, results.map (·.learner) = readings.map (·.1) ∧
        batch.1 = .kept (.ok n) ::
          ((results.flatMap fun r => [.done, .result (some r)]) ++ [.result none]) ∧
        single.1 = (results.flatMap fun r => [.done, .grade (r.outcome.mapError .error)]) ∧
        batch.2.world.rows = single.2.world.rows ∧
        batch.2.world.deliveries = single.2.world.deliveries := by
  intro s readings
  have has : s.world.Has Sample.key (Sample.course none ["hw1"]) := ⟨rfl, rfl, rfl⟩
  exact ⟨⟨rfl, has⟩, batch_equals_singles s rfl has .forceUpdate readings⟩

end Session

end Gradebook
