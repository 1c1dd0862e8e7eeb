/-
# Gradebook.Proofs.InputForms — the form of the inputs does not matter

What a caller knows of a course may be its descriptor, its content, its key, or several of
these. Each form fills other cells of the context at once, and leaves others to the loader. As
long as the loader has the definition the inputs are taken from, this makes no difference: every
form opens a view of the definition (`CourseInputs.Tells.opens`), and views of one definition
give one grade (`World.alike_resolveHere_viewing`).

Two sessions that are told the same in different forms go side by side (`Session.Restated`):
their worlds differ in the log and the counts of loads, and the contexts they keep are equal or
views of the definition. One step keeps them so, whoever it is for (`Restated.step`), and so does
a run, in which batches are started, called and closed at any times, and contexts of other
courses are used in between.
-/
import Mathlib.Data.List.Forall2
import Gradebook.Proofs.BatchSingles

namespace Gradebook

set_option autoImplicit false

open Lookup (Alike)
open World (viewing)

/-! ## Lists side by side -/

section Lists

variable {α β : Type} {R : α → β → Prop} {xs : List α} {ys : List β}

theorem forall₂_getElem? (h : List.Forall₂ R xs ys) (n : Nat) : Option.Rel R xs[n]? ys[n]? := by
  induction h generalizing n with
  | nil => exact .none
  | cons first _ ih =>
    cases n with
    | zero => exact .some first
    | succ n => exact ih n

theorem forall₂_set (h : List.Forall₂ R xs ys) {a : α} {b : β} (new : R a b) (n : Nat) :
    List.Forall₂ R (xs.set n a) (ys.set n b) := by
  induction h generalizing n with
  | nil => exact .nil
  | cons first rest ih =>
    cases n with
    | zero => exact .cons new rest
    | succ n => exact .cons first (ih n)

theorem forall₂_modify (h : List.Forall₂ R xs ys) {f : α → α} {g : β → β}
    (still : ∀ a b, R a b → R (f a) (g b)) (n : Nat) :
    List.Forall₂ R (xs.modify n f) (ys.modify n g) := by
  induction h generalizing n with
  | nil => cases n <;> exact .nil
  | cons first rest ih =>
    cases n with
    | zero => exact .cons (still _ _ first) rest
    | succ n => exact .cons first (ih n)

end Lists

/-! ## Inputs that tell of one definition -/

namespace CourseInputs

/-- The inputs are some of descriptor, content and key of the definition, not none of them. -/
structure Tells (d : CourseDefinition) (i : CourseInputs) : Prop where
  some : i.isEmpty = false
  course : ∀ x, i.course = .some x → x = d.course
  content : ∀ x, i.content = .some x → x = d.content
  key : ∀ k, i.key = .some k → k = d.key

/-- The same inputs, or the definition told of in two forms. -/
def Restates (d : CourseDefinition) (i i' : CourseInputs) : Prop := i' = i ∨ i.Tells d ∧ i'.Tells d

variable {d : CourseDefinition} {i : CourseInputs}

theorem Tells.keys (tells : i.Tells d) : i.keys ≠ [] ∧ ∀ k ∈ i.keys, k = d.key := by
  obtain ⟨course, content, key⟩ := i
  obtain ⟨some, course_eq, content_eq, key_eq⟩ := tells
  refine ⟨fun none => ?_, fun k named => ?_⟩
  · simp only [CourseInputs.keys, List.append_eq_nil_iff, Option.toList_eq_nil_iff,
      Option.map_eq_none_iff] at none
    obtain ⟨⟨rfl, rfl⟩, rfl⟩ := none
    cases some
  · simp only [CourseInputs.keys, List.mem_append, Option.mem_toList, Option.map_eq_some_iff]
      at named
    rcases named with (⟨x, held, rfl⟩ | ⟨x, held, rfl⟩) | held
    · exact congrArg Course.key (course_eq x held)
    · exact congrArg ContentStructure.courseKey (content_eq x held)
    · exact key_eq k held

theorem Tells.agreedKey (tells : i.Tells d) : i.agreedKey = .ok d.key := by
  obtain ⟨some, same⟩ := tells.keys
  rw [CourseInputs.agreedKey]
  cases named : i.keys with
  | nil => exact absurd named some
  | cons first others =>
    rw [named] at same
    have key : first = d.key := same first List.mem_cons_self
    simp only
    split
    · next other found =>
      have agrees := same other (List.mem_cons_of_mem first (List.mem_of_find?_eq_some found))
      have differs := List.find?_some found
      simp [agrees, key] at differs
    · rw [key]

/-- **Whatever tells of a definition opens a view of it.** -/
theorem Tells.opens (tells : i.Tells d) (learner : Option LearnerId) :
    ∃ c, Context.ofInputs learner i = .ok c ∧ c.Views d.key d := by
  refine ⟨⟨learner, d.key, i.course, i.content, none⟩, ?_, rfl, tells.course, tells.content, nofun⟩
  rw [Context.ofInputs, tells.agreedKey]

end CourseInputs

/-! ## Contexts and batches side by side -/

/-- Equal contexts, or two views of the definition. -/
def Context.Restates (d : CourseDefinition) (c c' : Context) : Prop :=
  c' = c ∨ c.Views d.key d ∧ c'.Views d.key d

/-- Batches that differ in what their contexts hold only. -/
structure Batch.Restates (d : CourseDefinition) (b b' : Batch) : Prop where
  supply : b'.supply = b.supply
  context : b.context.Restates d b'.context
  strategy : b'.strategy = b.strategy
  transaction : b'.transaction = b.transaction

variable {d : CourseDefinition}

theorem Context.Restates.key {c c' : Context} (h : c.Restates d c') : c'.key = c.key := by
  rcases h with rfl | ⟨views, views'⟩
  · rfl
  · rw [views.key, views'.key]

theorem Context.Restates.forLearner {c c' : Context} (h : c.Restates d c') (learner : LearnerId) :
    (c.forLearner learner).Restates d (c'.forLearner learner) := by
  rcases h with rfl | ⟨views, views'⟩
  · exact .inl rfl
  · exact .inr ⟨⟨views.key, views.course, views.content, views.hash⟩,
      ⟨views'.key, views'.course, views'.content, views'.hash⟩⟩

theorem Batch.Restates.closed {b b' : Batch} (h : b.Restates d b') :
    b.closed.Restates d b'.closed where
  supply := h.supply
  context := h.context
  strategy := h.strategy
  transaction := by rw [Batch.closed, Batch.closed, h.transaction]

/-- What is opened on inputs in two forms is refused alike, or side by side. -/
theorem CourseInputs.Restates.opened {i i' : CourseInputs} (h : i.Restates d i')
    (learner : Option LearnerId) :
    (∃ x, Context.ofInputs learner i = .error x ∧ Context.ofInputs learner i' = .error x) ∨
      ∃ c c', Context.ofInputs learner i = .ok c ∧ Context.ofInputs learner i' = .ok c' ∧
        c.Restates d c' := by
  rcases h with rfl | ⟨tells, tells'⟩
  · cases opened : Context.ofInputs learner i' with
    | error x => exact .inl ⟨x, rfl, rfl⟩
    | ok c => exact .inr ⟨c, c, rfl, rfl, .inl rfl⟩
  · obtain ⟨c, opened, views⟩ := tells.opens learner
    obtain ⟨c', opened', views'⟩ := tells'.opens learner
    exact .inr ⟨c, c', opened, opened', .inr ⟨views, views'⟩⟩

namespace World

variable {w w' : World}

/-- What goes alike in views goes alike in contexts side by side. -/
theorem Quiet.look {α : Type} (quiet : w.Quiet w') (has : w.Has d.key d) {l : Lookup α}
    (alike : Alike (viewing d.key d) l l) {c c' : Context} (contexts : c.Restates d c') :
    (w'.look l c').1.1 = (w.look l c).1.1 ∧
      (w.look l c).1.2.Restates d (w'.look l c').1.2 ∧
      (w.look l c).2.Quiet (w'.look l c').2 ∧ (w.look l c).2.Has d.key d := by
  rcases contexts with rfl | ⟨views, views'⟩
  · obtain ⟨same, still⟩ := quiet.run (l.dialogue c')
    exact ⟨congrArg (·.1) same, .inl (congrArg (·.2) same), still, has.same (sameSource_run w _)⟩
  · obtain ⟨same, still, has', filled⟩ := alike w c w' c' ⟨quiet, has, views, views'⟩
    exact ⟨same, .inr filled, still, has'⟩

end World

/-- A view answers every question as any other. -/
theorem alike_consult (q : Context.Query) :
    Alike (viewing d.key d) (Context.consult q) (Context.consult q) := by
  have coupling : Coupling (viewing d.key d) (Learner.ofId default).id :=
    World.coupling_viewing _
  cases q with
  | course => exact Lookup.alike_map _ coupling.course
  | content => exact Lookup.alike_map _ coupling.content
  | gradingPolicy => exact Lookup.alike_map _ (Lookup.alike_map _ coupling.content)
  | policyHash => exact Lookup.alike_map _ coupling.policyHash
  | contentVersion => exact Lookup.alike_map _ coupling.contentVersion
  | contentEditedAt => exact Lookup.alike_map _ coupling.contentEditedAt
  | deadline => exact Lookup.alike_map _ (Lookup.alike_map _ coupling.course)
  | fullText => exact Lookup.alike_map _ coupling.fullText

namespace Step

/-- The same step, with the definition told of in another form. -/
inductive Restates (d : CourseDefinition) : Step → Step → Prop where
  | create (learner : Learner) {i i' : CourseInputs} (told : i.Restates d i') :
      Restates d (.create learner i) (.create learner i')
  | read (learner : Learner) {i i' : CourseInputs} (told : i.Restates d i') :
      Restates d (.read learner i) (.read learner i')
  | update (learner : Learner) {i i' : CourseInputs} (told : i.Restates d i') :
      Restates d (.update learner i) (.update learner i')
  | openContext (learner : Option LearnerId) {i i' : CourseInputs} (told : i.Restates d i') :
      Restates d (.openContext learner i) (.openContext learner i')
  | startBatch (supply : Supply) {i i' : CourseInputs} (σ : Strategy) (told : i.Restates d i') :
      Restates d (.startBatch supply i σ) (.startBatch supply i' σ)
  | other {step : Step} (silent : step.inputs? = none) : Restates d step step

/-- The loader has the definition after the step if it had it before, and does not fail. -/
def Spares (d : CourseDefinition) : Step → Prop
  | .define d' => d'.key = d.key → d' = d
  | .publish source => source.definition d.key = .ok d
  | .disturb faults => faults.course = none ∧ faults.content = none
  | _ => True

end Step

namespace Session

/-! ## Sessions side by side -/

/-- Two sessions that were told the same in different forms. -/
structure Restated (d : CourseDefinition) (s s' : Session) : Prop where
  engine : s'.engine = s.engine
  world : s.world.Quiet s'.world
  has : s.world.Has d.key d
  contexts : List.Forall₂ (Context.Restates d) s.contexts s'.contexts
  batches : List.Forall₂ (Batch.Restates d) s.batches s'.batches
  transactions : s'.transactions = s.transactions

theorem Restated.refl {s : Session} (has : s.world.Has d.key d) : s.Restated d s where
  engine := rfl
  world := .refl _
  has := has
  contexts := List.forall₂_same.2 fun _ _ => .inl rfl
  batches := List.forall₂_same.2 fun _ _ => ⟨rfl, .inl rfl, rfl, rfl⟩
  transactions := rfl

namespace Restated

variable {s s' : Session} (restated : s.Restated d s')
include restated

theorem contextAt? (holder : Holder) :
    Option.Rel (Context.Restates d) (s.contextAt? holder) (s'.contextAt? holder) := by
  cases holder with
  | context n => exact forall₂_getElem? restated.contexts n
  | batch n =>
    have held := forall₂_getElem? restated.batches n
    rw [Session.contextAt?, Session.contextAt?]
    generalize s.batches[n]? = b, s'.batches[n]? = b' at held
    cases held with
    | none => exact .none
    | some like => exact .some like.context

/-- Both worlds have moved on. -/
theorem moved {w w' : World} (quiet : w.Quiet w') (has : w.Has d.key d) :
    Restated d { s with world := w } { s' with world := w' } :=
  { restated with world := quiet, has }

/-- Both keep a context under the next number. -/
theorem opened {c c' : Context} (h : c.Restates d c') : Restated d
    { s with contexts := s.contexts ++ [c] } { s' with contexts := s'.contexts ++ [c'] } :=
  { restated with contexts := List.rel_append restated.contexts (.cons h .nil) }

/-- Both keep a batch under the next number. -/
theorem begun {b b' : Batch} (h : b.Restates d b') : Restated d
    { s with batches := s.batches ++ [b] } { s' with batches := s'.batches ++ [b'] } :=
  { restated with batches := List.rel_append restated.batches (.cons h .nil) }

theorem put (holder : Holder) {c c' : Context} (h : c.Restates d c') :
    Restated d (s.putContext holder c) (s'.putContext holder c') := by
  cases holder with
  | context n => exact { restated with contexts := forall₂_set restated.contexts h n }
  | batch n =>
    refine { restated with batches := forall₂_modify restated.batches (fun b b' like => ?_) n }
    exact { like with context := h }

/-- Both have called a batch. -/
theorem called {w w' : World} (quiet : w.Quiet w') (has : w.Has d.key d) (n : Nat) {b b' : Batch}
    (h : b.Restates d b') : Restated d (s.called n w b) (s'.called n w' b') :=
  { restated with world := quiet, has, batches := forall₂_set restated.batches h n }

/-- Both have closed a batch. -/
theorem closed (n : Nat) {b b' b₁ b₁' : Batch} (h : b.Restates d b') (later : b₁.Restates d b₁') :
    Restated d (s.called n (closing s.world b) b₁) (s'.called n (closing s'.world b') b₁') := by
  simp only [closing, h.transaction]
  split
  · exact restated.called restated.world restated.has n later
  · obtain ⟨-, quiet⟩ := restated.world.answer (.clear b.transaction.key)
    exact restated.called quiet (restated.has.same ⟨rfl, rfl⟩) n later

section Lookups

variable {α : Type} {l : Lookup α} (alike : Alike (viewing d.key d) l l)
include alike

/-- An operation on the context of inputs goes alike. -/
theorem within (who : Learner) {i i' : CourseInputs} (told : i.Restates d i') :
    (s'.carryOut (GradeEngine.within who i' l)).1 = (s.carryOut (GradeEngine.within who i l)).1 ∧
      Restated d (s.carryOut (GradeEngine.within who i l)).2
        (s'.carryOut (GradeEngine.within who i' l)).2 := by
  simp only [carryOut]
  rcases told.opened (some who.id) with ⟨x, refused, refused'⟩ | ⟨c, c', opened, opened', like⟩
  · rw [run_within_error _ _ _ _ refused, run_within_error _ _ _ _ refused']
    exact ⟨rfl, restated.moved restated.world restated.has⟩
  · obtain ⟨outcome, -, quiet, has⟩ := restated.world.look restated.has alike like
    rw [run_within _ _ _ _ opened, run_within _ _ _ _ opened']
    exact ⟨outcome, restated.moved quiet has⟩

/-- A lookup on a context kept before goes alike. -/
theorem lookUp (holder : Holder) {c c' : Context} (like : c.Restates d c') :
    (s'.lookUp holder c' l).1 = (s.lookUp holder c l).1 ∧
      Restated d (s.lookUp holder c l).2 (s'.lookUp holder c' l).2 := by
  obtain ⟨outcome, filled, quiet, has⟩ := restated.world.look restated.has alike like
  rw [lookUp_eq, lookUp_eq]
  exact ⟨outcome, (restated.moved quiet has).put holder filled⟩

end Lookups

/-- Starting a batch goes alike. -/
theorem start (supply : Supply) (σ : Strategy) {i i' : CourseInputs} (told : i.Restates d i') :
    (s'.startBatch supply i' σ).1 = (s.startBatch supply i σ).1 ∧
      Restated d (s.startBatch supply i σ).2 (s'.startBatch supply i' σ).2 := by
  have many := restated.batches.length_eq
  simp only [startBatch, carryOut]
  rcases told.opened none with ⟨x, refused, refused'⟩ | ⟨c, c', opened, opened', like⟩
  · have failed (w : World) {i : CourseInputs} (refused : Context.ofInputs none i = .error x) :
        w.run (Batch.start supply i σ) = (.error (.error x), w) := by
      rw [Batch.start, refused]
      rfl
    rw [failed _ refused, failed _ refused']
    exact ⟨rfl, restated.moved restated.world restated.has⟩
  · have prepare : Alike (viewing d.key d) Batch.prepare Batch.prepare := by
      have coupling : Coupling (viewing d.key d) (Learner.ofId default).id :=
        World.coupling_viewing _
      exact Lookup.alike_bind coupling.content fun _ _ =>
        Lookup.alike_bind coupling.availableCourse fun _ _ => Lookup.alike_pure _
    obtain ⟨outcome, filled, quiet, has⟩ := restated.world.look restated.has prepare like
    rw [run_start _ _ _ _ opened, run_start _ _ _ _ opened']
    generalize s.world.look Batch.prepare c = r at outcome filled quiet has
    generalize s'.world.look Batch.prepare c' = r' at outcome filled quiet
    obtain ⟨⟨o, c₁⟩, w⟩ := r
    obtain ⟨⟨o', c₁'⟩, w'⟩ := r'
    cases outcome
    cases o with
    | error f => exact ⟨rfl, restated.moved quiet has⟩
    | ok u =>
      refine ⟨congrArg (fun n => Answer.kept (.ok n)) many.symm, ?_⟩
      exact (restated.moved quiet has).begun
        ⟨rfl, filled, rfl, congrArg (fun key => ({ key } : Transaction)) filled.key⟩

/-- A call of a batch goes alike. -/
theorem next (weighted : s.engine.calculator = .weighted) (n : Nat) :
    (s'.step (.nextResult n)).1 = (s.step (.nextResult n)).1 ∧
      Restated d (s.step (.nextResult n)).2 (s'.step (.nextResult n)).2 := by
  have kept := forall₂_getElem? restated.batches n
  generalize held : s.batches[n]? = b, held' : s'.batches[n]? = b' at kept
  cases kept with
  | none =>
    rw [step_nextResult_unknown held, step_nextResult_unknown held']
    exact ⟨rfl, restated⟩
  | @some b b' like =>
    cases supply : b.supply with
    | nil =>
      rw [step_nextResult_nil held supply, step_nextResult_nil held' (like.supply.trans supply)]
      exact ⟨rfl, restated.closed n like like.closed⟩
    | cons comes rest =>
      cases comes with
      | none =>
        rw [step_nextResult_gap held supply, step_nextResult_gap held' (like.supply.trans supply)]
        exact ⟨rfl, restated.closed n like { like.closed with supply := rfl }⟩
      | some who =>
        rw [step_nextResult_some held supply,
          step_nextResult_some held' (like.supply.trans supply), restated.engine]
        have resolves : Alike (viewing d.key d) (s.engine.resolveHere who b.strategy)
            (s.engine.resolveHere who b.strategy) :=
          World.alike_resolveHere_viewing weighted who b.strategy
        obtain ⟨outcome, -, quiet, has⟩ := restated.world.look restated.has resolves
          (like.context.forLearner who.id)
        obtain ⟨graded, logged⟩ := Batch.run_gradeOne s.world s.engine b who
        obtain ⟨graded', logged'⟩ := Batch.run_gradeOne s'.world s.engine b' who
        rw [like.strategy] at graded' logged'
        refine ⟨?_, restated.called (quiet.along logged logged') (has.same logged.toSameSource) n
          { like with supply := rfl }⟩
        rw [graded, graded', outcome]

section Kept

variable (weighted : s.engine.calculator = .weighted)
include weighted

/-- Resolving alone, on a context kept before, goes alike. -/
theorem resolve (n : Nat) (who : Learner) (σ : Strategy) :
    (s'.step (.resolve n who σ)).1 = (s.step (.resolve n who σ)).1 ∧
      Restated d (s.step (.resolve n who σ)).2 (s'.step (.resolve n who σ)).2 := by
  have kept := forall₂_getElem? restated.contexts n
  simp only [Session.step, Session.resolve, restated.engine]
  generalize s.contexts[n]? = c, s'.contexts[n]? = c' at kept
  cases kept with
  | none => exact ⟨rfl, restated⟩
  | some like =>
    obtain ⟨outcome, -, quiet, has⟩ := restated.world.look restated.has
      (World.alike_resolveHere_viewing weighted who σ) like
    simp only [carryOut, GradeEngine.resolve, World.run_map]
    exact ⟨congrArg Answer.grade outcome, restated.moved quiet has⟩

/-- Resolving with the context of a holder goes alike. -/
theorem resolveIn (holder : Holder) (who : Learner) (σ : Strategy) :
    (s'.step (.resolveIn holder who σ)).1 = (s.step (.resolveIn holder who σ)).1 ∧
      Restated d (s.step (.resolveIn holder who σ)).2 (s'.step (.resolveIn holder who σ)).2 := by
  have kept := restated.contextAt? holder
  simp only [Session.step, Session.resolveIn, restated.engine]
  generalize s.contextAt? holder = c, s'.contextAt? holder = c' at kept
  cases kept with
  | none => exact ⟨rfl, restated⟩
  | some like =>
    obtain ⟨outcome, later⟩ :=
      restated.lookUp (World.alike_resolveHere_viewing weighted who σ) holder like
    exact ⟨congrArg Answer.grade outcome, later⟩

end Kept

/-- Asking the context of a holder goes alike. -/
theorem consult (holder : Holder) (q : Context.Query) :
    (s'.step (.consult holder q)).1 = (s.step (.consult holder q)).1 ∧
      Restated d (s.step (.consult holder q)).2 (s'.step (.consult holder q)).2 := by
  have kept := restated.contextAt? holder
  simp only [Session.step, Session.consult]
  generalize s.contextAt? holder = c, s'.contextAt? holder = c' at kept
  cases kept with
  | none => exact ⟨rfl, restated⟩
  | some like =>
    obtain ⟨outcome, later⟩ := restated.lookUp (alike_consult q) holder like
    exact ⟨congrArg Answer.learned outcome, later⟩

/-- Taking the context of a holder over for a learner goes alike. -/
theorem fork (holder : Holder) (who : LearnerId) :
    (s'.step (.fork holder who)).1 = (s.step (.fork holder who)).1 ∧
      Restated d (s.step (.fork holder who)).2 (s'.step (.fork holder who)).2 := by
  have kept := restated.contextAt? holder
  simp only [Session.step, Session.fork, restated.contexts.length_eq]
  generalize s.contextAt? holder = c, s'.contextAt? holder = c' at kept
  cases kept with
  | none => exact ⟨rfl, restated⟩
  | some like => exact ⟨rfl, restated.opened (like.forLearner who)⟩

/-- Closing a batch goes alike. -/
theorem closeBatch (n : Nat) :
    (s'.step (.closeBatch n)).1 = (s.step (.closeBatch n)).1 ∧
      Restated d (s.step (.closeBatch n)).2 (s'.step (.closeBatch n)).2 := by
  have kept := forall₂_getElem? restated.batches n
  generalize held : s.batches[n]? = b, held' : s'.batches[n]? = b' at kept
  cases kept with
  | none =>
    rw [step_closeBatch_unknown held, step_closeBatch_unknown held']
    exact ⟨rfl, restated⟩
  | some like =>
    rw [step_closeBatch held, step_closeBatch held']
    exact ⟨rfl, restated.closed n like like.closed⟩

/-- Releasing a transaction goes alike. -/
theorem release (n : Nat) :
    (s'.step (.release n)).1 = (s.step (.release n)).1 ∧
      Restated d (s.step (.release n)).2 (s'.step (.release n)).2 := by
  simp only [Session.step, Session.release, restated.transactions]
  split
  · exact ⟨rfl, restated⟩
  · next t held =>
    simp only [World.release]
    split
    · exact ⟨trivial, { restated with transactions := rfl }⟩
    · obtain ⟨-, quiet⟩ := restated.world.answer (.clear t.key)
      exact ⟨trivial, { restated with
        world := quiet
        has := restated.has.same ⟨rfl, rfl⟩
        transactions := rfl }⟩

/-- **A step that is told the same in another form goes alike.** -/
theorem step (weighted : s.engine.calculator = .weighted) {step step' : Step}
    (spares : step.Spares d) (restates : step.Restates d step') :
    (s'.step step').1 = (s.step step).1 ∧ Restated d (s.step step).2 (s'.step step').2 := by
  have resolves (who : Learner) (σ : Strategy) : Alike (viewing d.key d)
      (s.engine.resolveHere who σ) (s.engine.resolveHere who σ) :=
    World.alike_resolveHere_viewing weighted who σ
  cases restates with
  | create who told =>
    obtain ⟨outcome, later⟩ := restated.within (resolves who .createIfStale) who told
    simp only [Session.step, GradeEngine.create, restated.engine]
    exact ⟨congrArg Answer.grade outcome, later⟩
  | update who told =>
    obtain ⟨outcome, later⟩ := restated.within (resolves who .forceUpdate) who told
    simp only [Session.step, GradeEngine.update, restated.engine]
    exact ⟨congrArg Answer.grade outcome, later⟩
  | read who told =>
    have coupling : Coupling (viewing d.key d) who.id := World.coupling_viewing who.id
    obtain ⟨outcome, later⟩ := restated.within (coupling.readHere s.engine) who told
    simp only [Session.step, GradeEngine.read, restated.engine]
    exact ⟨congrArg Answer.found outcome, later⟩
  | openContext who told =>
    simp only [Session.step, Session.openContext]
    rcases told.opened who with ⟨x, refused, refused'⟩ | ⟨c, c', opened, opened', like⟩
    · rw [refused, refused']
      exact ⟨rfl, restated⟩
    · rw [opened, opened', restated.contexts.length_eq]
      exact ⟨rfl, restated.opened like⟩
  | startBatch supply σ told => exact restated.start supply σ told
  | other silent =>
    cases step with
    | create | read | update | openContext | startBatch => cases silent
    | nextResult n => exact restated.next weighted n
    | closeBatch n => exact restated.closeBatch n
    | resolve n who σ => exact restated.resolve weighted n who σ
    | resolveIn holder who σ => exact restated.resolveIn weighted holder who σ
    | fork holder who => exact restated.fork holder who
    | consult holder q => exact restated.consult holder q
    | release n => exact restated.release n
    | beginTransaction key =>
      simp only [Session.step, beginTransaction, restated.transactions]
      exact ⟨trivial, { restated with transactions := rfl }⟩
    | record who key block score =>
      have scores := congrArg (·.record who key block score) restated.world.scores
      exact ⟨rfl, restated.moved { restated.world with scores } (restated.has.same ⟨rfl, rfl⟩)⟩
    | define d' =>
      have source := congrArg (·.define d') restated.world.source
      exact ⟨rfl, restated.moved { restated.world with source } (restated.has.define spares)⟩
    | publish source =>
      exact ⟨rfl, restated.moved { restated.world with source := rfl }
        { restated.has with source := spares }⟩
    | disturb faults =>
      exact ⟨rfl, restated.moved { restated.world with faults := rfl }
        { restated.has with course := spares.1, content := spares.2 }⟩
    | clear key =>
      obtain ⟨-, quiet⟩ := restated.world.answer (.clear key)
      exact ⟨rfl, restated.moved quiet (restated.has.same ⟨rfl, rfl⟩)⟩
    | clock now =>
      exact ⟨rfl, restated.moved { restated.world with now := rfl } (restated.has.same ⟨rfl, rfl⟩)⟩

/-- **A run goes alike**, step by step. -/
theorem run (weighted : s.engine.calculator = .weighted) {steps steps' : List Step}
    (spares : ∀ step ∈ steps, step.Spares d)
    (restates : List.Forall₂ (Step.Restates d) steps steps') :
    (s'.run steps').1 = (s.run steps).1 ∧ Restated d (s.run steps).2 (s'.run steps').2 := by
  induction restates generalizing s s' with
  | nil => exact ⟨rfl, restated⟩
  | @cons step step' rest rest' first _ ih =>
    obtain ⟨answer, later⟩ := restated.step weighted (spares step List.mem_cons_self) first
    obtain ⟨answers, ended⟩ := ih later (by rw [step_engine, weighted])
      fun step inside => spares step (List.mem_cons_of_mem _ inside)
    rw [run_cons, run_cons, answer, answers]
    exact ⟨rfl, ended⟩

end Restated

/-- **The form of the inputs does not matter.** As long as the loader has a definition, and with
the weighted calculator, a run answers the same whichever of descriptor, content and key of the
definition its steps are given: the same grades, rows read, batch elements and errors, at the same
times. It leaves the same rows, scores and derived data, and has told the listeners the same, the
deadlines included, in the same order. -/
theorem form_of_inputs_is_immaterial {s : Session} (weighted : s.engine.calculator = .weighted)
    {d : CourseDefinition} (has : s.world.Has d.key d) {steps steps' : List Step}
    (spares : ∀ step ∈ steps, step.Spares d)
    (restates : List.Forall₂ (Step.Restates d) steps steps') :
    (s.run steps').1 = (s.run steps).1 ∧
      let w := (s.run steps).2.world
      let w' := (s.run steps').2.world
      w'.rows = w.rows ∧ w'.deliveries = w.deliveries ∧ w'.scores = w.scores ∧
        w'.cache = w.cache ∧ w'.computations = w.computations ∧ w'.writes = w.writes := by
  obtain ⟨answers, restated⟩ := (Restated.refl has).run weighted spares restates
  have quiet := restated.world
  exact ⟨answers, quiet.rows, quiet.deliveries, quiet.scores, quiet.cache, quiet.computations,
    quiet.writes⟩

end Session

namespace Sample

/-- The small course with an end. -/
def ending : CourseDefinition := { course (some "v1") ["hw1"] with ends := some ⟨5, 0⟩ }

/-- A grade is computed, kept and told, served, read and computed twice more in a batch. -/
def operations (i₁ i₂ i₃ : CourseInputs) : List Step :=
  [.update learner i₁, .create learner i₂, .read learner i₃,
    .startBatch (.ofLearners [learner, learner]) i₃ .forceUpdate,
    .nextResult 0, .clock ⟨7, 0⟩, .nextResult 0, .nextResult 0]

/-- The operations on the key alone. -/
def byKey : List Step := operations (.ofKey key) (.ofKey key) (.ofKey key)

/-- The operations on the descriptor, the content, and on all there is. -/
def byParts : List Step := operations { course := some ending.course }
  { content := some ending.content } ⟨some ending.course, some ending.content, some ending.key⟩

end Sample

namespace Session

/-- A listener hears of full marks in the small course. -/
def telling : Session where
  engine := { Sample.engine with listeners := [.logging] }
  world := (Sample.world Sample.ending).record ⟨1⟩ Sample.key "hw1" Sample.score

/-- From the key or from the parts of the definition, each of the grades computed is told with its
end. -/
theorem form_of_inputs_is_immaterial_parts :
    let w := (telling.run Sample.byKey).2.world
    let w' := (telling.run Sample.byParts).2.world
    (telling.run Sample.byParts).1 = (telling.run Sample.byKey).1 ∧ w'.rows = w.rows ∧
      w'.deliveries = w.deliveries ∧ w.deliveries.filterMap (fun told => match told.2 with
        | .changed _ _ _ deadline => some deadline
        | .nowPassed _ _ => none) = [some ⟨5, 0⟩, some ⟨5, 0⟩, some ⟨5, 0⟩] := by
  have has : telling.world.Has Sample.ending.key Sample.ending := ⟨rfl, rfl, rfl⟩
  have tells : (CourseInputs.ofKey Sample.key).Tells Sample.ending :=
    ⟨rfl, nofun, nofun, fun _ held => (Option.some.inj held).symm⟩
  have byCourse : CourseInputs.Tells Sample.ending { course := some Sample.ending.course } :=
    ⟨rfl, fun _ held => (Option.some.inj held).symm, nofun, nofun⟩
  have byContent : CourseInputs.Tells Sample.ending { content := some Sample.ending.content } :=
    ⟨rfl, nofun, fun _ held => (Option.some.inj held).symm, nofun⟩
  have byAll : CourseInputs.Tells Sample.ending
      ⟨some Sample.ending.course, some Sample.ending.content, some Sample.ending.key⟩ :=
    ⟨rfl, fun _ held => (Option.some.inj held).symm, fun _ held => (Option.some.inj held).symm,
      fun _ held => (Option.some.inj held).symm⟩
  have spares : ∀ step ∈ Sample.byKey, step.Spares Sample.ending := by
    simp [Sample.byKey, Sample.operations, Step.Spares]
  have forms : List.Forall₂ (Step.Restates Sample.ending) Sample.byKey Sample.byParts :=
    .cons (.update _ (.inr ⟨tells, byCourse⟩)) <| .cons (.create _ (.inr ⟨tells, byContent⟩)) <|
      .cons (.read _ (.inr ⟨tells, byAll⟩)) <| .cons (.startBatch _ _ (.inr ⟨tells, byAll⟩)) <|
      .cons (.other rfl) <| .cons (.other rfl) <| .cons (.other rfl) <| .cons (.other rfl) .nil
  obtain ⟨answers, rows, deliveries, -⟩ := form_of_inputs_is_immaterial rfl has spares forms
  exact ⟨answers, rows, deliveries, by decide +kernel⟩

end Session

end Gradebook
