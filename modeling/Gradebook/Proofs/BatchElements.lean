/-
# Gradebook.Proofs.BatchElements — a batch is complete, lazy and isolated

A batch is called at times of the caller's choosing (`Step.pulls`). One call grades one
learner, and closes the batch when nobody is left; everything here is an induction over the
calls.

* Each learner has one element, in the order of the list (`elements_of_pulls`).
* A batch given up after some calls has done what a batch over just the learners called for has
  done by its end (`world_of_giving_up`).
* Where calculators differ for one learner, only that learner's elements, rows and notices do
  (`isolated_pulls`).
-/
import Mathlib.Data.List.Forall2
import Gradebook.Proofs.Contexts
import Gradebook.Proofs.LearnerView

namespace Gradebook

set_option autoImplicit false

open Lookup (Alike)

/-- Calls of a batch, each at its time. -/
def Step.pulls (batch : Nat) (times : List Instant) : List Step :=
  times.flatMap fun t => [.clock t, .nextResult batch]

/-- Equal answers, or elements of a batch for this learner. -/
inductive Answer.SameBut (learner : LearnerId) : Answer → Answer → Prop where
  | same (a : Answer) : SameBut learner a a
  | own (r r' : GradeResult) (about : r.learner.id = learner) (alike : r'.learner = r.learner) :
      SameBut learner (.result (some r)) (.result (some r'))

/-- With the content at hand the calculator goes by the learner and the content alone: it
answers, fails or crashes, and fills nothing. -/
def Calculator.Judges (k : Calculator)
    (f : LearnerId → ContentStructure → Except Failure GradeBreakdown) : Prop :=
  ∀ (w : World) learner c x, c.content? = some x → (w.look (k learner) c).1 = (f learner x, c)

namespace Batch

/-- A batch that has been closed. -/
def closed (b : Batch) : Batch := { b with transaction := { b.transaction with released := true } }

/-- What closing a batch clears is a matter of its transaction. -/
theorem run_close (w : World) (b : Batch) : w.run b.close =
    (b.closed, if b.transaction.released then w else w.clear b.transaction.key) := by
  obtain ⟨supply, context, strategy, key, released⟩ := b
  cases released <;> rfl

end Batch

namespace Session

/-! ## One call -/

theorem run_cons (s : Session) (step : Step) (rest : List Step) :
    s.run (step :: rest) =
      ((s.step step).1 :: ((s.step step).2.run rest).1, ((s.step step).2.run rest).2) := rfl

theorem run_append (s : Session) (steps later : List Step) :
    s.run (steps ++ later) = ((s.run steps).1 ++ ((s.run steps).2.run later).1,
      ((s.run steps).2.run later).2) := by
  induction steps generalizing s with
  | nil => rfl
  | cons step rest ih => rw [List.cons_append, run_cons, run_cons, ih, List.cons_append]

/-- The session with its clock at another time. -/
def atTime (s : Session) (t : Instant) : Session := { s with world := { s.world with now := t } }

/-- The session after a call of a batch, which left this world and this batch. -/
def called (s : Session) (n : Nat) (w : World) (b : Batch) : Session :=
  { s with world := w, batches := s.batches.set n b }

theorem run_pulls_cons (s : Session) (n : Nat) (t : Instant) (times : List Instant) :
    s.run (Step.pulls n (t :: times)) =
      let call := (s.atTime t).step (.nextResult n)
      let later := call.2.run (Step.pulls n times)
      (.done :: call.1 :: later.1, later.2) := rfl

section Call

variable {s : Session} {n : Nat} {b : Batch}

theorem held_called (held : s.batches[n]? = some b) (w : World) (b' : Batch) :
    (s.called n w b').batches[n]? = some b' :=
  List.getElem?_set_self (List.getElem?_eq_some_iff.1 held).1

/-- The world when a batch has been closed. -/
def closing (w : World) (b : Batch) : World :=
  if b.transaction.released then w else w.clear b.transaction.key

theorem step_nextResult_some {learner : Learner} {rest : Supply} (held : s.batches[n]? = some b)
    (supply : b.supply = some learner :: rest) :
    s.step (.nextResult n) = (.result (some (s.world.run (b.gradeOne s.engine learner)).1),
      s.called n (s.world.run (b.gradeOne s.engine learner)).2 { b with supply := rest }) :=
  step_nextResult held supply

/-- A call for which nobody comes closes the batch. -/
theorem step_nextResult_nil (held : s.batches[n]? = some b) (supply : b.supply = []) :
    s.step (.nextResult n) = (.result none, s.called n (closing s.world b) b.closed) := by
  simp only [Session.step, nextResult, held, carryOut, Batch.next, supply, World.run_bind,
    Batch.run_close]
  rfl

/-- At a gap in the list a batch closes, and may go on later. -/
theorem step_nextResult_gap {rest : Supply} (held : s.batches[n]? = some b)
    (supply : b.supply = none :: rest) : s.step (.nextResult n) =
      (.result none, s.called n (closing s.world b) { b.closed with supply := rest }) := by
  simp only [Session.step, nextResult, held, carryOut, Batch.next, supply, World.run_bind,
    Batch.run_close]
  rfl

theorem step_closeBatch (held : s.batches[n]? = some b) :
    s.step (.closeBatch n) = (.done, s.called n (closing s.world b) b.closed) := by
  simp only [Session.step, closeBatch, held, carryOut, Batch.run_close]
  rfl

theorem step_nextResult_unknown (absent : s.batches[n]? = none) :
    s.step (.nextResult n) = (.unknown, s) := by
  simp only [Session.step, nextResult, absent]

theorem step_closeBatch_unknown (absent : s.batches[n]? = none) :
    s.step (.closeBatch n) = (.unknown, s) := by
  simp only [Session.step, closeBatch, absent]

/-- Calls start no batch. -/
theorem run_pulls_absent (absent : s.batches[n]? = none) (times : List Instant) :
    (s.run (Step.pulls n times)).2.batches[n]? = none := by
  induction times generalizing s with
  | nil => exact absent
  | cons t times ih =>
    have absent' : (s.atTime t).batches[n]? = none := absent
    rw [run_pulls_cons, step_nextResult_unknown absent']
    exact ih absent'

end Call

/-! ## Complete -/

/-- **The calls yield the learners in order**, one element each, and then nothing. -/
theorem elements_of_pulls {s : Session} {n : Nat} {b : Batch} {learners : List Learner}
    (held : s.batches[n]? = some b) (supply : b.supply = .ofLearners learners)
    (times : List Instant) : ∃ results : List GradeResult,
      results.map (·.learner) = learners.take times.length ∧
      (s.run (Step.pulls n times)).1 = (results.flatMap fun r => [.done, .result (some r)]) ++
        (List.replicate (times.length - learners.length) [.done, .result none]).flatten := by
  induction times generalizing s b learners with
  | nil => exact ⟨[], by simp, by simp [Step.pulls, run]⟩
  | cons t times ih =>
    have held' : (s.atTime t).batches[n]? = some b := held
    rw [run_pulls_cons]
    cases learners with
    | nil =>
      rw [step_nextResult_nil held' supply]
      have later := held_called held' (closing (s.atTime t).world b) b.closed
      obtain ⟨results, order, answers⟩ := ih later supply
      have none : results = [] := by
        rw [List.take_nil] at order
        exact List.map_eq_nil_iff.1 order
      subst none
      refine ⟨[], rfl, ?_⟩
      simp only [answers]
      simp [List.replicate_succ]
    | cons learner rest =>
      rw [step_nextResult_some held' supply]
      generalize graded : (s.atTime t).world.run (b.gradeOne (s.atTime t).engine learner) = r
      obtain ⟨results, order, answers⟩ :=
        ih (held_called held' r.2 { b with supply := .ofLearners rest }) rfl
      have about : r.1.learner = learner := by
        rw [← graded, (Batch.run_gradeOne (s.atTime t).world (s.atTime t).engine b learner).1]
      refine ⟨r.1 :: results, ?_, ?_⟩
      · rw [List.map_cons, order, about]
        rfl
      · simp only [List.flatMap_cons, List.length_cons, Nat.add_sub_add_right, List.cons_append,
          List.nil_append, ← answers]
        rfl

/-! ## Lazy -/

/-- **Giving a batch up costs what was called for**: the world is that of a batch over just
those learners, called once more and so closed by itself. -/
theorem world_of_giving_up {s s' : Session} {n : Nat} {b : Batch} {times : List Instant}
    (learners : List Learner) (world : s'.world = s.world) (engine : s'.engine = s.engine)
    (held : s.batches[n]? = some { b with supply := .ofLearners learners })
    (held' : s'.batches[n]? = some { b with supply := .ofLearners (learners.take times.length) }) :
    (s.run (Step.pulls n times ++ [.closeBatch n])).2.world =
      (s'.run (Step.pulls n times ++ [.nextResult n])).2.world := by
  rw [run_append, run_append]
  induction times generalizing s s' b learners with
  | nil =>
    simp only [Step.pulls, List.flatMap_nil, run, step_closeBatch held,
      step_nextResult_nil held' rfl, called, closing, world]
  | cons t times ih =>
    have before : (s.atTime t).batches[n]? = _ := held
    have before' : (s'.atTime t).batches[n]? = _ := held'
    have world' : (s'.atTime t).world = (s.atTime t).world := by
      rw [atTime, atTime, world]
    rw [run_pulls_cons, run_pulls_cons]
    cases learners with
    | nil =>
      rw [step_nextResult_nil before rfl, step_nextResult_nil before' rfl, world']
      refine ih (b := b.closed) [] rfl engine (held_called before _ _) ?_
      simp only [List.take_nil]
      exact held_called before' _ _
    | cons learner rest =>
      -- Grading looks at the batch's context and strategy, not at who comes after.
      have alone (e : GradeEngine) (later : Supply) :
          Batch.gradeOne e { b with supply := later } learner = b.gradeOne e learner := rfl
      have engine' : (s'.atTime t).engine = (s.atTime t).engine := engine
      rw [step_nextResult_some before rfl, step_nextResult_some before' rfl, alone, alone, world',
        engine']
      exact ih (b := b) rest rfl engine (held_called before _ _)
        (held_called before' _ _)

/-! ## Isolated -/

section Isolated

open World (SameFor)

/-- Everybody but one learner. -/
def others (learner : LearnerId) (id : LearnerId) : Bool := decide (id ≠ learner)

theorem lasting_content {t : Terms} : Context.Lasting t fun c => ∃ x, c.content? = some x where
  course _ _ held _ _ := held
  content _ x _ _ _ := ⟨x, rfl⟩
  hash _ _ held _ _ := held

/-- Calculators that judge a learner alike compute alike, whatever they ask for meanwhile. -/
theorem alike_judges (own : LearnerId → Bool) {k k' : Calculator}
    {f f' : LearnerId → ContentStructure → Except Failure GradeBreakdown} (judges : k.Judges f)
    (judges' : k'.Judges f') {learner : LearnerId} (agree : f' learner = f learner) :
    Alike (.sharing (SameFor own) fun c => ∃ x, c.content? = some x) (k learner) (k' learner) := by
  rintro w c w' c' ⟨same, rfl, x, held⟩
  have judged := judges w learner c' x held
  have judged' := judges' w' learner c' x held
  have apart : ∀ r, Request.consults r → r.apart own := fun _ => Request.apart_of_consults
  have still := World.sameFor_look (k.consults learner) apart w c'
  have still' := World.sameFor_look (k'.consults learner) apart w' c'
  rw [judged, judged', agree]
  exact ⟨rfl, same.along still still', rfl, x, held⟩

/-- Nobody sees derived data cleared. -/
theorem sameFor_closing {own : LearnerId → Bool} (w : World) (b : Batch) :
    SameFor own w (closing w b) := by
  unfold closing
  split
  · exact .refl w
  · exact World.sameFor_answer (r := .clear b.transaction.key) trivial w

/-- Grading one learner of the batch keeps the world the same for others. -/
theorem sameFor_gradeOne {own : LearnerId → Bool} (e : GradeEngine) (w : World) (b : Batch)
    {learner : Learner} (other : ¬own learner.id) :
    SameFor own w (w.run (b.gradeOne e learner)).2 :=
  have resolved := World.sameFor_resolveHere e other b.strategy w (b.context.forLearner learner.id)
  resolved.trans (Batch.run_gradeOne w e b learner).2.sameFor

/-- Where the resolutions go alike, so do the elements. -/
theorem gradeOne_alike {own : LearnerId → Bool} {e e' : GradeEngine} {b : Batch}
    {learner : Learner} {w w' : World}
    (outcome : (w'.look (e'.resolveHere learner b.strategy) (b.context.forLearner learner.id)).1.1 =
      (w.look (e.resolveHere learner b.strategy) (b.context.forLearner learner.id)).1.1)
    (still : SameFor own
      (w.look (e.resolveHere learner b.strategy) (b.context.forLearner learner.id)).2
      (w'.look (e'.resolveHere learner b.strategy) (b.context.forLearner learner.id)).2) :
    (w'.run (b.gradeOne e' learner)).1 = (w.run (b.gradeOne e learner)).1 ∧
      SameFor own (w.run (b.gradeOne e learner)).2 (w'.run (b.gradeOne e' learner)).2 := by
  obtain ⟨graded, quiet⟩ := Batch.run_gradeOne w e b learner
  obtain ⟨graded', quiet'⟩ := Batch.run_gradeOne w' e' b learner
  refine ⟨?_, still.along quiet.sameFor quiet'.sameFor⟩
  rw [graded, graded', outcome]

/-- Two sessions that differ, by then, in what concerns one learner. -/
structure Apart (e : GradeEngine) (k k' : Calculator) (learner : LearnerId) (n : Nat)
    (s s' : Session) : Prop where
  engine : s.engine = { e with calculator := k }
  engine' : s'.engine = { e with calculator := k' }
  world : SameFor (others learner) s.world s'.world
  batch : s'.batches[n]? = s.batches[n]?
  supply : ∀ b, s.batches[n]? = some b → ∃ learners, b.supply = .ofLearners learners
  content : ∀ b, s.batches[n]? = some b → ∃ x, b.context.content? = some x

theorem Apart.atTime {e : GradeEngine} {k k' : Calculator} {learner : LearnerId} {n : Nat}
    {s s' : Session} (apart : Apart e k k' learner n s s') (t : Instant) :
    Apart e k k' learner n (s.atTime t) (s'.atTime t) :=
  { apart with world := { apart.world with now := rfl } }

theorem Apart.called {e : GradeEngine} {k k' : Calculator} {learner : LearnerId} {n : Nat}
    {s s' : Session} (apart : Apart e k k' learner n s s') {b b' : Batch}
    (held : s.batches[n]? = some b) {w w' : World} (world : SameFor (others learner) w w')
    (supply : ∃ learners, b'.supply = .ofLearners learners) (same : b'.context = b.context) :
    Apart e k k' learner n (s.called n w b') (s'.called n w' b') := by
  have here := held_called held w b'
  have here' := held_called (apart.batch.trans held) w' b'
  refine ⟨apart.engine, apart.engine', world, here'.trans here.symm, ?_, ?_⟩
  · intro b₁ held₁
    cases here.symm.trans held₁
    exact supply
  · intro b₁ held₁
    cases here.symm.trans held₁
    rw [same]
    exact apart.content b held

section Judged

variable {e : GradeEngine} {k k' : Calculator} {learner : LearnerId} {n : Nat} {s s' : Session}
  {f f' : LearnerId → ContentStructure → Except Failure GradeBreakdown} (judges : k.Judges f)
  (judges' : k'.Judges f') (agree : ∀ id, id ≠ learner → f' id = f id)
include judges judges' agree

/-- One call, in two sessions whose calculators differ for one learner. -/
theorem Apart.step (apart : Apart e k k' learner n s s') :
    Answer.SameBut learner (s.step (.nextResult n)).1 (s'.step (.nextResult n)).1 ∧
      Apart e k k' learner n (s.step (.nextResult n)).2 (s'.step (.nextResult n)).2 := by
  cases held : s.batches[n]? with
  | none =>
    rw [step_nextResult_unknown held, step_nextResult_unknown (apart.batch.trans held)]
    exact ⟨.same _, apart⟩
  | some b =>
    have held' : s'.batches[n]? = some b := apart.batch.trans held
    obtain ⟨learners, supply⟩ := apart.supply b held
    cases learners with
    | nil =>
      rw [step_nextResult_nil held supply, step_nextResult_nil held' supply]
      have world := apart.world.along (sameFor_closing s.world b) (sameFor_closing s'.world b)
      exact ⟨.same _, apart.called held world ⟨[], supply⟩ rfl⟩
    | cons next rest =>
      obtain ⟨x, content⟩ := apart.content b held
      rw [step_nextResult_some held supply, step_nextResult_some held' supply, apart.engine,
        apart.engine']
      by_cases own : next.id = learner
      · have other : ¬others learner next.id := by simp [others, own]
        have graded := sameFor_gradeOne { e with calculator := k } s.world b other
        have graded' := sameFor_gradeOne { e with calculator := k' } s'.world b other
        refine ⟨?_, apart.called held (apart.world.along graded graded') ⟨rest, rfl⟩ rfl⟩
        rw [(Batch.run_gradeOne s.world { e with calculator := k } b next).1,
          (Batch.run_gradeOne s'.world { e with calculator := k' } b next).1]
        exact .own _ _ own rfl
      · have owned : others learner next.id := by simp [others, own]
        have coupling := World.coupling_sameFor owned lasting_content
        have computes := alike_judges (others learner) judges judges' (agree next.id own)
        have alike : Alike _
            (({ e with calculator := k } : GradeEngine).resolveHere next b.strategy)
            (({ e with calculator := k' } : GradeEngine).resolveHere next b.strategy) :=
          coupling.resolveHere computes b.strategy
        obtain ⟨outcome, still, -, -⟩ := alike s.world (b.context.forLearner next.id) s'.world _
          ⟨apart.world, rfl, x, content⟩
        obtain ⟨same, world⟩ := gradeOne_alike outcome still
        refine ⟨?_, apart.called held world ⟨rest, rfl⟩ rfl⟩
        rw [same]
        exact .same _

/-- **A calculator that fails for one learner fails for that learner only.** -/
theorem isolated_pulls (apart : Apart e k k' learner n s s') (times : List Instant) :
    List.Forall₂ (Answer.SameBut learner) (s.run (Step.pulls n times)).1
        (s'.run (Step.pulls n times)).1 ∧
      SameFor (others learner) (s.run (Step.pulls n times)).2.world
        (s'.run (Step.pulls n times)).2.world := by
  induction times generalizing s s' with
  | nil => exact ⟨.nil, apart.world⟩
  | cons t times ih =>
    obtain ⟨answer, later⟩ := (apart.atTime t).step judges judges' agree
    obtain ⟨answers, world⟩ := ih later
    rw [run_pulls_cons, run_pulls_cons]
    exact ⟨.cons (.same _) (.cons answer answers), world⟩

end Judged

end Isolated

/-! ## Batches from their start -/

/-- Whoever comes, a batch starts alike. -/
theorem run_start_supply (w : World) (supply supply' : Supply) (i : CourseInputs) (s : Strategy) :
    w.run (Batch.start supply' i s) =
      ((w.run (Batch.start supply i s)).1.map fun b => { b with supply := supply' },
        (w.run (Batch.start supply i s)).2) := by
  cases opened : Context.ofInputs none i with
  | error x =>
    rw [Batch.start, Batch.start, opened]
    rfl
  | ok c =>
    rw [run_start _ _ _ _ opened, run_start _ _ _ _ opened]
    obtain ⟨⟨f | u, c'⟩, w'⟩ := w.look Batch.prepare c <;> rfl

/-- A batch that starts is kept under the next number, and holds its content. -/
theorem startBatch_cases (s : Session) (i : CourseInputs) (σ : Strategy) :
    (∃ f w, ∀ supply, s.step (.startBatch supply i σ) =
        (.kept (.error f), { s with world := w })) ∨
      ∃ (b : Batch) (w : World), (∃ x, b.context.content? = some x) ∧ ∀ supply,
        s.step (.startBatch supply i σ) = (.kept (.ok s.batches.length),
          ({ s with world := w, batches := s.batches ++ [{ b with supply }] } : Session)) := by
  generalize started : s.world.run (Batch.start [] i σ) = r
  obtain ⟨f | b, w⟩ := r
  · refine .inl ⟨f, w, fun supply => ?_⟩
    simp only [Session.step, startBatch, carryOut, run_start_supply s.world [] supply, started]
    rfl
  · obtain ⟨c, -, -, content⟩ := context_start started
    refine .inr ⟨b, w, content, fun supply => ?_⟩
    simp only [Session.step, startBatch, carryOut, run_start_supply s.world [] supply, started]
    rfl

/-- The session with another calculator. -/
def withCalculator (s : Session) (k : Calculator) : Session :=
  { s with engine := { s.engine with calculator := k } }

/-- Nothing is computed to start a batch. -/
theorem startBatch_withCalculator (s : Session) (k : Calculator) (supply : Supply)
    (i : CourseInputs) (σ : Strategy) : (s.withCalculator k).step (.startBatch supply i σ) =
      ((s.step (.startBatch supply i σ)).1,
        (s.step (.startBatch supply i σ)).2.withCalculator k) := by
  simp only [Session.step, startBatch, carryOut, withCalculator]
  split <;> rfl

/-- After its start a batch is the same whoever calculates. -/
theorem apart_start (s : Session) (k k' : Calculator) (learner : LearnerId)
    (learners : List Learner) (i : CourseInputs) (σ : Strategy) :
    Apart s.engine k k' learner s.batches.length
      ((s.withCalculator k).step (.startBatch (.ofLearners learners) i σ)).2
      ((s.withCalculator k').step (.startBatch (.ofLearners learners) i σ)).2 := by
  rw [startBatch_withCalculator, startBatch_withCalculator]
  rcases startBatch_cases s i σ with ⟨f, w, started⟩ | ⟨b, w, content, started⟩
  · rw [started]
    have absent : s.batches[s.batches.length]? = none := List.getElem?_eq_none (Nat.le_refl _)
    refine ⟨rfl, rfl, .refl w, rfl, fun b held => ?_, fun b held => ?_⟩ <;>
      cases absent.symm.trans held
  · rw [started]
    have last := List.getElem?_concat_length (l := s.batches)
        (a := { b with supply := .ofLearners learners })
    refine ⟨rfl, rfl, .refl w, rfl, fun b' held => ?_, fun b' held => ?_⟩
    · cases last.symm.trans held
      exact ⟨learners, rfl⟩
    · cases last.symm.trans held
      exact content

/-- **A batch is complete, lazy and isolated.** Called again and again it yields one element for
each learner, in order, each with a grade or an error, and nothing after. Given up after some
calls, it leaves the world of a batch over just the learners called for, run to its end. And
with calculators that go by learner and content, what becomes of one learner changes no other
learner's element, row or notice. -/
theorem batch_complete_lazy_isolated (s : Session) (i : CourseInputs) (σ : Strategy)
    (learners : List Learner) (times : List Instant) :
    let n := s.batches.length
    let calls := Step.pulls n times
    ((s.step (.startBatch (.ofLearners learners) i σ)).1 = .kept (.ok n) →
      ∃ results : List GradeResult, results.map (·.learner) = learners.take times.length ∧
        (s.run (.startBatch (.ofLearners learners) i σ :: calls)).1 = .kept (.ok n) ::
          ((results.flatMap fun r => [.done, .result (some r)]) ++
            (List.replicate (times.length - learners.length) [.done, .result none]).flatten)) ∧
    (s.run (.startBatch (.ofLearners learners) i σ :: (calls ++ [.closeBatch n]))).2.world =
      (s.run (.startBatch (.ofLearners (learners.take times.length)) i σ ::
        (calls ++ [.nextResult n]))).2.world ∧
    ∀ (k k' : Calculator) (f f' : LearnerId → ContentStructure → Except Failure GradeBreakdown)
      (learner : LearnerId), k.Judges f → k'.Judges f' → (∀ id, id ≠ learner → f' id = f id) →
      let run := (s.withCalculator k).run (.startBatch (.ofLearners learners) i σ :: calls)
      let run' := (s.withCalculator k').run (.startBatch (.ofLearners learners) i σ :: calls)
      List.Forall₂ (Answer.SameBut learner) run.1 run'.1 ∧
        (∀ id key, id ≠ learner →
          run'.2.world.rows.find? id key = run.2.world.rows.find? id key) ∧
        run'.2.world.announcedTo (others learner) = run.2.world.announcedTo (others learner) := by
  intro n calls
  refine ⟨fun begun => ?_, ?_, fun k k' f f' learner judges judges' agree => ?_⟩
  · rcases startBatch_cases s i σ with ⟨f, w, started⟩ | ⟨b, w, -, started⟩
    · rw [started] at begun
      cases begun
    · have last := List.getElem?_concat_length (l := s.batches)
        (a := { b with supply := .ofLearners learners })
      rw [run_cons, started]
      obtain ⟨results, order, answers⟩ := elements_of_pulls
        (s := { s with world := w, batches := s.batches ++ [_] }) last rfl times
      exact ⟨results, order, congrArg (List.cons _) answers⟩
  · rw [run_cons, run_cons]
    rcases startBatch_cases s i σ with ⟨f, w, started⟩ | ⟨b, w, -, started⟩
    · have absent : s.batches[s.batches.length]? = none := List.getElem?_eq_none (Nat.le_refl _)
      have still := run_pulls_absent (s := { s with world := w }) absent times
      rw [started, started, run_append, run_append, run_cons, run_cons,
        step_nextResult_unknown still, step_closeBatch_unknown still]
    · rw [started, started]
      exact world_of_giving_up learners rfl rfl List.getElem?_concat_length
        List.getElem?_concat_length
  · rw [run_cons, run_cons]
    have apart := apart_start s k k' learner learners i σ
    obtain ⟨answers, world⟩ := isolated_pulls judges judges' agree apart times
    refine ⟨.cons ?_ answers, fun id key other => ?_, world.announced⟩
    · rw [startBatch_withCalculator, startBatch_withCalculator]
      exact .same _
    · exact world.rows.find? id key (by simp [others, other])

/-- A scripted calculator goes by the learner. -/
theorem judges_scripted (b : GradeBreakdown) (looks : Bool) (t : Calculator.Trouble) :
    ∃ f, (Calculator.scripted b looks t).Judges f ∧
      ∀ id, id ∉ t.crashes → id ∉ t.fails → f id = fun _ => .ok b := by
  have guarded (id : LearnerId) : ∃ o : Except Failure GradeBreakdown,
      (∀ (w : World) c, (w.look (do t.guard id; pure b) c) = ((o, c), w)) ∧
        (id ∉ t.crashes → id ∉ t.fails → o = .ok b) := by
    unfold Calculator.Trouble.guard
    split
    · next crashes =>
      exact ⟨_, fun _ _ => rfl, fun absent => absurd (by simpa using crashes) absent⟩
    · split
      · next fails =>
        exact ⟨_, fun _ _ => rfl, fun _ absent => absurd (by simpa using fails) absent⟩
      · exact ⟨.ok b, fun _ _ => rfl, fun _ _ => rfl⟩
  choose f judged calm using guarded
  refine ⟨fun id _ => f id, fun w id c x content => ?_, fun id crashes fails => ?_⟩
  · cases looks with
    | false => exact congrArg (·.1) (judged id w c)
    | true =>
      have found : w.look Context.content c = ((.ok x, c), w) := by
        rw [World.look, World.run, Context.dialogue_content, content]
        rfl
      show (w.look (do
        let _ ← Context.content
        t.guard id
        pure b) c).1 = (f id, c)
      rw [World.look_bind, found]
      exact congrArg (·.1) (judged id w c)
  · exact funext fun _ => calm id crashes fails

/-- The calculator crashes for the second of two learners, or it does not. -/
theorem batch_isolated_from_crash :
    let s := sample (Sample.course none ["hw1"])
    let learners := [Sample.learner, Learner.ofId ⟨2⟩]
    let n := s.batches.length
    let steps := Step.startBatch (.ofLearners learners) (.ofKey Sample.key) .forceUpdate ::
      Step.pulls n [default, default, default]
    let calm := Calculator.scripted ⟨0, none, false, true, []⟩ true {}
    let crashing := Calculator.scripted ⟨0, none, false, true, []⟩ true { crashes := [⟨2⟩] }
    (∃ results : List GradeResult, results.map (·.learner) = learners ∧
      (s.run steps).1 = .kept (.ok n) :: ((results.flatMap fun r => [.done, .result (some r)]) ++
        (List.replicate 1 [.done, .result none]).flatten)) ∧
    List.Forall₂ (Answer.SameBut ⟨2⟩) ((s.withCalculator calm).run steps).1
      ((s.withCalculator crashing).run steps).1 ∧
    ∀ key, ((s.withCalculator crashing).run steps).2.world.rows.find? ⟨1⟩ key =
      ((s.withCalculator calm).run steps).2.world.rows.find? ⟨1⟩ key := by
  intro s learners n steps calm crashing
  obtain ⟨f, judges, calmly⟩ := judges_scripted ⟨0, none, false, true, []⟩ true {}
  obtain ⟨f', judges', calmly'⟩ :=
    judges_scripted ⟨0, none, false, true, []⟩ true { crashes := [⟨2⟩] }
  have agree (id : LearnerId) (differs : id ≠ ⟨2⟩) : f' id = f id := by
    rw [calmly id (by simp) (by simp), calmly' id (by simpa using differs) (by simp)]
  have apart : (⟨1⟩ : LearnerId) ≠ ⟨2⟩ := by decide
  have begun : (s.step (.startBatch (.ofLearners learners) (.ofKey Sample.key) .forceUpdate)).1 =
      .kept (.ok n) := rfl
  obtain ⟨complete, -, isolated⟩ := batch_complete_lazy_isolated s (.ofKey Sample.key) .forceUpdate
    learners [default, default, default]
  obtain ⟨results, order, answers⟩ := complete begun
  obtain ⟨same, rows, -⟩ := isolated calm crashing f f' ⟨2⟩ judges judges' agree
  have once : ([default, default, default] : List Instant).length - learners.length = 1 := rfl
  rw [once] at answers
  refine ⟨⟨results, order, answers⟩, same, fun key => ?_⟩
  rw [rows ⟨1⟩ key apart]

end Session

end Gradebook
