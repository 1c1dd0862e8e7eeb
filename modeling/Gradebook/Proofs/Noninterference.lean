/-
# Gradebook.Proofs.Noninterference — learners do not interfere

`Session.withoutOthers` deletes from a run every step for somebody other than one learner, and
everybody else from the lists of batches. What is left, run by itself, has the answers it had,
and leaves the learner's rows and notices as they were (`learners_do_not_interfere`).

The two runs go side by side (`Alongside`). A step for somebody else changes one session only,
and nothing there that the learner sees (`Alongside.skip`); any other step changes both alike
(`Alongside.step`).

Learners share the derived data of a course. Who filled them is of no account where contents of
one course and one version have the same blocks (`BlocksByVersion`). They share a context too if
its user resolves one after the other in it, and there what was loaded for the first is there for
the second. So it matters where the learner is resolved: in no context that somebody else was
resolved in before, nor in a copy made of one since (`KeepsApart`). That this cannot be left out,
and that with the others the calls for them have to go, is `others_seen_in_shared_context`.
-/
import Gradebook.Proofs.BatchElements
import Gradebook.Proofs.BatchSnapshot

namespace Gradebook

set_option autoImplicit false

open Lookup (Alike)

/-- Contents of one course and one version, or of none, have the same blocks. -/
def BlocksByVersion (S : ContentStructure → Prop) : Prop :=
  ∀ x y, S x → S y → x.courseKey = y.courseKey → x.version = y.version → x.blocks = y.blocks

/-- This learner and nobody else. -/
def only (learner : LearnerId) (id : LearnerId) : Bool := decide (id = learner)

@[simp] theorem only_iff {learner id : LearnerId} : only learner id = true ↔ id = learner :=
  decide_eq_true_iff

/-! ## The run without others -/

namespace Supply

/-- Nobody else comes. Gaps stay. -/
def only (learner : LearnerId) (supply : Supply) : Supply :=
  supply.filter fun next => next.all fun l => Gradebook.only learner l.id

end Supply

namespace Batch

/-- The batch with nobody else to come. -/
def only (learner : LearnerId) (b : Batch) : Batch :=
  { b with supply := b.supply.only learner }

/-- All of a batch but its context. -/
def schedule (b : Batch) : Supply × Strategy × Transaction := (b.supply, b.strategy, b.transaction)

end Batch

/-- The step with nobody else in its list. -/
def Step.only (learner : LearnerId) : Step → Step
  | .startBatch supply i strategy => .startBatch (supply.only learner) i strategy
  | step => step

namespace Session

/-- Whom a step is for, if for one learner. A call of a batch is for the learner who comes. A
context that is opened is nobody's until somebody is resolved in it. -/
def subject? (s : Session) : Step → Option LearnerId
  | .create learner _ | .read learner _ | .update learner _ => some learner.id
  | .resolve _ learner _ | .resolveIn _ learner _ => some learner.id
  | .record learner _ _ _ => some learner
  | .nextResult n => s.batches[n]?.bind fun b => b.supply.head?.join.map (·.id)
  | _ => none

theorem subject?_nextResult {s : Session} {n : Nat} {b : Batch} {who : Learner} {rest : Supply}
    (held : s.batches[n]? = some b) (supply : b.supply = some who :: rest) :
    s.subject? (.nextResult n) = some who.id := by
  simp [subject?, held, supply]

/-- Whom a step resolves in a context that is kept, or in a copy of it, and which context. -/
def resolvedIn? (s : Session) : Step → Option (Holder × LearnerId)
  | .resolve n learner _ => some (.context n, learner.id)
  | .resolveIn holder learner _ => some (holder, learner.id)
  | .nextResult n => (s.subject? (.nextResult n)).map fun learner => (.batch n, learner)
  | _ => none

/-- The contexts that are foreign to the learner after a step, if these were before: somebody
else has been resolved in them, or they are copies made since. -/
def foreignAfter (s : Session) (learner : LearnerId) (foreign : List Holder) :
    Step → List Holder
  | .resolveIn holder other _ =>
    if (s.contextAt? holder).isSome ∧ other.id ≠ learner then holder :: foreign else foreign
  | .fork holder _ => if holder ∈ foreign then .context s.contexts.length :: foreign else foreign
  | _ => foreign

/-- On the way the learner is resolved in no context that is foreign by then. Others may be
resolved anywhere, also in the learner's contexts. -/
def KeepsApart (learner : LearnerId) (s : Session) (foreign : List Holder) : List Step → Prop
  | [] => True
  | step :: rest =>
    (∀ holder ∈ foreign, s.resolvedIn? step ≠ some (holder, learner)) ∧
      KeepsApart learner (s.step step).2 (s.foreignAfter learner foreign step) rest

instance decidableKeepsApart (learner : LearnerId) : (s : Session) → (foreign : List Holder) →
    (steps : List Step) → Decidable (s.KeepsApart learner foreign steps)
  | _, _, [] => .isTrue trivial
  | s, foreign, step :: rest =>
    have := decidableKeepsApart learner (s.step step).2 (s.foreignAfter learner foreign step) rest
    inferInstanceAs (Decidable (_ ∧ _))

/-- The step is for this learner or for nobody. What is looked up on a foreign context is for
somebody else. -/
def spares (s : Session) (learner : LearnerId) (foreign : List Holder) : Step → Bool
  | .consult holder _ => decide (holder ∉ foreign)
  | step => (s.subject? step).all (only learner)

/-- The steps of a run that are for this learner or for nobody, with nobody else in their lists,
and the answers they had. -/
def withoutOthers (learner : LearnerId) (s : Session) (foreign : List Holder) :
    List Step → List (Step × Answer)
  | [] => []
  | step :: rest =>
    let left := withoutOthers learner (s.step step).2 (s.foreignAfter learner foreign step) rest
    if s.spares learner foreign step then (step.only learner, (s.step step).1) :: left else left

end Session

/-! ## Resolutions in worlds side by side -/

variable {S : ContentStructure → Prop}

/-- A content that is loaded is one of `S`. -/
def Request.Yields (S : ContentStructure → Prop) : (r : Request) → r.Reply → Prop
  | .loadContent _, reply => ∀ x, reply = .ok x → S x
  | _, _ => True

/-- A content at hand is one of `S`. -/
def Context.Among (S : ContentStructure → Prop) (c : Context) : Prop :=
  ∀ x, c.content? = some x → S x

theorem Context.lasting_among (own : LearnerId → Bool) :
    Context.Lasting ⟨Request.ofOwn own, Request.Yields S⟩ (Context.Among S) where
  course _ _ among _ _ := among
  content _ x _ _ given _ held := Option.some.inj held ▸ given x rfl
  hash _ _ among _ _ := among

namespace World

variable {own : LearnerId → Bool} {w w' : World}

/-- The groups asked for are the content's own, whoever was first to ask. -/
theorem groups_own (blocks : BlocksByVersion S) (cache : w.cache.From S) {x : ContentStructure}
    (of : S x) : (w.groups x.courseKey x.version x.gradedBlocksByFormat).1 =
      x.gradedBlocksByFormat := by
  rw [groups_groupsFor]
  exact groupsFor_own cache of fun y of' => blocks y x of' of

/-- Worlds that are the same for these learners, and have contents of `S` only. -/
structure Beside (S : ContentStructure → Prop) (own : LearnerId → Bool) (w w' : World) : Prop
    extends SameFor own w w' where
  offers : w.source.Offers S
  cache : w.cache.From S
  cache' : w'.cache.From S

/-- One context in worlds side by side. -/
abbrev sideBySide (S : ContentStructure → Prop) (own : LearnerId → Bool) : Pairing :=
  .sharing (Beside S own) (Context.Among S)

theorem cache_answer {r : Request} (h : r.ofOwn own) (w : World) :
    (answer r w).2.cache = w.cache := by
  cases r with
  | loadCourse key => exact (answer_looks (r := .loadCourse key) trivial w).1
  | loadContent key => exact (answer_looks (r := .loadContent key) trivial w).1
  | findRow learner key =>
    simp only [answer, findRow]
    split <;> rfl
  | putRow row =>
    simp only [answer, putRow]
    split <;> rfl
  | scoresOf learner key =>
    simp only [answer, scoresOf]
    split <;> rfl
  | computing | deliver | clock | log => rfl
  | groups | clear => exact h.elim

theorem Beside.answer {r : Request} (beside : Beside S own w w') (asks : r.ofOwn own) :
    r.Yields S (World.answer r w).1 ∧ (World.answer r w').1 = (World.answer r w).1 ∧
      Beside S own (World.answer r w).2 (World.answer r w').2 := by
  obtain ⟨reply, same⟩ := beside.toSameFor.answer asks
  refine ⟨?_, reply, same, ?_, ?_, ?_⟩
  · cases r with
    | loadContent key => exact fun x => loaded_of_offers beside.offers
    | _ => trivial
  · rw [(sameSource_answer r w).source]
    exact beside.offers
  · rw [cache_answer asks]
    exact beside.cache
  · rw [cache_answer asks]
    exact beside.cache'

/-- Resolutions for these learners go alike in worlds side by side. -/
theorem coupling_beside {learner : LearnerId} (owned : own learner) :
    Coupling (sideBySide S own) learner :=
  coupling_sharing (fun _ => Request.ofOwn_of_looks) (fun _ => Request.ofOwn_of_concerns owned)
    (Context.lasting_among own) fun _ _ _ beside asks => beside.answer asks

theorem alike_groups (blocks : BlocksByVersion S) {x : ContentStructure} (of : S x) :
    let request := Request.groups x.courseKey x.version x.gradedBlocksByFormat
    Alike (sideBySide S own) (Lookup.ask request) (Lookup.ask request) := by
  rintro request w c w' c' ⟨beside, rfl, among⟩
  have own' := groups_own blocks beside.cache' of
  have still := beside.toSameFor.along (sameFor_answer (r := request) trivial w)
    (sameFor_answer (r := request) trivial w')
  refine ⟨?_, ⟨still, beside.offers, beside.cache.groups of, beside.cache'.groups of⟩, rfl, among⟩
  exact congrArg Except.ok (own'.trans (groups_own blocks beside.cache of).symm)

/-- **Resolutions for a learner go alike** in worlds that are the same for the learner, whatever
others have done to the derived data. -/
theorem alike_resolveHere_beside (blocks : BlocksByVersion S) {e : GradeEngine}
    (weighted : e.calculator = .weighted) {learner : Learner} (owned : own learner.id)
    (s : Strategy) :
    Alike (sideBySide S own) (e.resolveHere learner s) (e.resolveHere learner s) := by
  have coupling := coupling_beside (S := S) owned
  have computes : Alike (sideBySide S own) (e.calculator learner.id)
      (e.calculator learner.id) := by
    rw [weighted]
    refine Calculator.alike_weighted coupling (fun x found => ?_) fun key => ?_
    · obtain ⟨w, c, w', c', ⟨beside, -, among⟩, found⟩ := found
      rw [look_content] at found
      exact alike_groups blocks (content_of_offers beside.offers among found)
    · have asks : Request.ofOwn own (.scoresOf learner.id key) := owned
      exact Lookup.alike_within (Lookup.within_ask asks) (fun _ asks => asks)
        (Context.lasting_among own) fun _ _ _ beside asks => beside.answer asks
  exact coupling.resolveHere (k := e.calculator) computes s

end World

namespace Session

open World (SameFor Beside sideBySide)

theorem sameFor_release {own : LearnerId → Bool} (t : Transaction) (w : World) :
    SameFor own w (w.release t).2 := by
  simp only [World.release]
  split
  · exact .refl w
  · exact World.sameFor_answer (r := .clear t.key) trivial w

/-- In a context that stays as it is a resolution is a lookup. -/
theorem run_resolve (w : World) (e : GradeEngine) (who : Learner) (c : Context) (σ : Strategy) :
    w.run (e.resolve who c σ) =
      ((w.look (e.resolveHere who σ) c).1.1, (w.look (e.resolveHere who σ) c).2) :=
  World.run_map w _ _

/-! ## Sessions side by side -/

/-- The second session is the first without what others did. Of contexts that are foreign to the
learner it need only have as many. -/
structure Alongside (learner : LearnerId) (foreign : List Holder) (s s' : Session) : Prop where
  engine : s'.engine = s.engine
  world : SameFor (only learner) s.world s'.world
  many : s'.contexts.length = s.contexts.length
  contexts : ∀ holder, holder ∉ foreign → s'.contextAt? holder = s.contextAt? holder
  batches : s'.batches.map (·.schedule) = s.batches.map fun b => (b.only learner).schedule
  transactions : s'.transactions = s.transactions

/-- Calls of a batch leave its context as it is. -/
theorem contextAt?_called {s : Session} {n : Nat} {b b₁ : Batch} (held : s.batches[n]? = some b)
    (same : b₁.context = b.context) (w : World) (holder : Holder) :
    (s.called n w b₁).contextAt? holder = s.contextAt? holder :=
  contextAt?_eq (by rfl) (map_set_same held same) holder

namespace Alongside

variable {learner : LearnerId} {foreign : List Holder} {s s' : Session}
  (along : Alongside learner foreign s s')
include along

/-- Sessions side by side stay so when more is foreign. -/
theorem mono {more : List Holder} (grown : foreign ⊆ more) : Alongside learner more s s' :=
  { along with
    contexts := fun holder own => along.contexts holder fun inside => own (grown inside) }

theorem batch? (n : Nat) :
    s'.batches[n]?.map (·.schedule) = s.batches[n]?.map fun b => (b.only learner).schedule := by
  rw [← List.getElem?_map, ← List.getElem?_map, along.batches]

theorem many_batches : s'.batches.length = s.batches.length := by
  simpa only [List.length_map] using congrArg List.length along.batches

theorem batch_absent {n : Nat} (absent : s.batches[n]? = none) : s'.batches[n]? = none := by
  have same := along.batch? n
  rw [absent, Option.map_none] at same
  exact Option.map_eq_none_iff.1 same

/-- A batch is there in both, for the learner alone in the second, and with the same context if
that is not foreign. -/
theorem batch_held {n : Nat} {b : Batch} (held : s.batches[n]? = some b) :
    ∃ c, s'.batches[n]? = some { b.only learner with context := c } ∧
      (.batch n ∉ foreign → c = b.context) := by
  have same := along.batch? n
  rw [held, Option.map_some, Option.map_eq_some_iff] at same
  obtain ⟨b', held', like⟩ := same
  obtain ⟨supply, context, strategy, transaction⟩ := b'
  simp only [Batch.schedule, Prod.mk.injEq] at like
  obtain ⟨rfl, rfl, rfl⟩ := like
  refine ⟨context, held', fun own => ?_⟩
  have there := along.contexts (.batch n) own
  rw [contextAt?_batch held, contextAt?_batch held'] at there
  exact Option.some.inj there

/-- Both sessions keep a context there, or neither does. -/
theorem present (holder : Holder) :
    (s'.contextAt? holder).isSome = (s.contextAt? holder).isSome := by
  cases holder with
  | context n =>
    have many := along.many
    simp only [contextAt?]
    grind
  | batch n =>
    have same := congrArg Option.isSome (along.batch? n)
    simpa only [contextAt?, Option.isSome_map] using same

/-- Both worlds have moved on. -/
theorem moved {w w' : World} (world : SameFor (only learner) w w') :
    Alongside learner foreign { s with world := w } { s' with world := w' } :=
  { along with world }

/-- What ends alike and leaves the worlds the same can be carried out in both. -/
theorem carried {α : Type} {d : Dialogue α} (same : (s'.world.run d).1 = (s.world.run d).1)
    (world : SameFor (only learner) (s.world.run d).2 (s'.world.run d).2) :
    (s'.carryOut d).1 = (s.carryOut d).1 ∧
      Alongside learner foreign (s.carryOut d).2 (s'.carryOut d).2 := ⟨same, along.moved world⟩

/-- Both keep a context under the next number, the same one unless it is foreign. -/
theorem opened {c c' : Context} (same : .context s.contexts.length ∉ foreign → c' = c) :
    Alongside learner foreign
      { s with contexts := s.contexts ++ [c] } { s' with contexts := s'.contexts ++ [c'] } := by
  refine { along with many := ?_, contexts := fun holder own => ?_ }
  · rw [List.length_append, List.length_append, along.many, List.length_singleton,
      List.length_singleton]
  · cases holder with
    | batch n => exact along.contexts (.batch n) own
    | context n =>
      have kept := along.contexts (.context n) own
      simp only [contextAt?, List.getElem?_append, along.many] at kept ⊢
      split
      · exact kept
      · next beyond =>
        by_cases last : n = s.contexts.length
        · subst last
          rw [same own]
        · have past : n - s.contexts.length ≠ 0 := by omega
          rw [List.getElem?_singleton, List.getElem?_singleton, if_neg past, if_neg past]

/-- Both keep a copy under the same number. The copies differ where their originals do. -/
theorem forked (holder : Holder) (who : LearnerId) :
    (s'.fork holder who).1 = (s.fork holder who).1 ∧
      Alongside learner (s.foreignAfter learner foreign (.fork holder who))
        (s.fork holder who).2 (s'.fork holder who).2 := by
  by_cases inside : holder ∈ foreign
  · have more : s.foreignAfter learner foreign (.fork holder who) =
        .context s.contexts.length :: foreign := if_pos inside
    have grown := along.mono (List.subset_cons_self (.context s.contexts.length) foreign)
    have present := along.present holder
    rw [more]
    simp only [fork]
    generalize s.contextAt? holder = held, s'.contextAt? holder = held' at present
    cases held with
    | none =>
      cases held' with
      | none => exact ⟨rfl, grown⟩
      | some c' => cases present
    | some c =>
      cases held' with
      | none => cases present
      | some c' =>
        refine ⟨congrArg (fun n => Answer.kept (.ok n)) along.many, ?_⟩
        exact grown.opened fun own => absurd List.mem_cons_self own
  · have nothingNew : s.foreignAfter learner foreign (.fork holder who) = foreign :=
      if_neg inside
    rw [nothingNew]
    simp only [fork, along.contexts holder inside, along.many]
    split
    · exact ⟨rfl, along⟩
    · exact ⟨rfl, along.opened fun _ => rfl⟩

/-- Both keep the same batch under the next number. -/
theorem begun (b : Batch) : Alongside learner foreign
    { s with batches := s.batches ++ [b] }
    { s' with batches := s'.batches ++ [b.only learner] } := by
  have many := along.many_batches
  refine { along with contexts := fun holder own => ?_, batches := ?_ }
  · cases holder with
    | context n => exact along.contexts (.context n) own
    | batch n =>
      have kept := along.contexts (.batch n) own
      simp only [contextAt?, List.getElem?_append, many] at kept ⊢
      split
      · exact kept
      · rw [List.getElem?_singleton, List.getElem?_singleton]
        split <;> rfl
  · rw [List.map_append, List.map_append, along.batches]
    rfl

/-- Both hold the same context there from now on. -/
theorem put (holder : Holder) (c : Context) :
    Alongside learner foreign (s.putContext holder c) (s'.putContext holder c) where
  engine := by rw [putContext_engine, putContext_engine, along.engine]
  world := by
    rw [putContext_world, putContext_world]
    exact along.world
  many := by rw [length_contexts_putContext, length_contexts_putContext, along.many]
  contexts other own := by
    rw [contextAt?_put, contextAt?_put, along.contexts other own]
    split
    · next same => rw [← same, along.contexts other own]
    · rfl
  batches := by
    rw [map_batches_putContext (fun _ _ => rfl), map_batches_putContext (fun _ _ => rfl),
      along.batches]
  transactions := by rw [putContext_transactions, putContext_transactions, along.transactions]

/-- Both have called a batch. -/
theorem called {w w' : World} (world : SameFor (only learner) w w') {n : Nat}
    {b b' b₁ b₁' : Batch} (held : s.batches[n]? = some b) (held' : s'.batches[n]? = some b')
    (same : b₁.context = b.context) (same' : b₁'.context = b'.context)
    (like : b₁'.schedule = (b₁.only learner).schedule) :
    Alongside learner foreign (s.called n w b₁) (s'.called n w' b₁') :=
  { along with
    world
    contexts := fun holder own => by
      rw [contextAt?_called held same, contextAt?_called held' same', along.contexts holder own]
    batches := by simp only [Session.called, List.map_set, along.batches, like] }

section Lookups

variable {α : Type} {l : Lookup α}
  (alike : Alike (sideBySide S (only learner)) l l)
  (among : s.Among S) (among' : s'.Among S)
include alike among among'

/-- A lookup in one context goes alike. -/
theorem look {c : Context} (content : c.Among S) :
    (s'.world.look l c).1 = (s.world.look l c).1 ∧
      SameFor (only learner) (s.world.look l c).2 (s'.world.look l c).2 := by
  have beside : Beside S (only learner) s.world s'.world :=
    ⟨along.world, among.source, among.cache, among'.cache⟩
  obtain ⟨outcome, still, filled, -⟩ := alike _ c _ c ⟨beside, rfl, content⟩
  exact ⟨Prod.ext outcome filled, still.toSameFor⟩

/-- An operation on the context of inputs goes alike. -/
theorem within (who : Learner) {i : CourseInputs} (content : ∀ x, i.content = some x → S x) :
    (s'.carryOut (GradeEngine.within who i l)).1 = (s.carryOut (GradeEngine.within who i l)).1 ∧
      Alongside learner foreign (s.carryOut (GradeEngine.within who i l)).2
        (s'.carryOut (GradeEngine.within who i l)).2 := by
  cases opened : Context.ofInputs (some who.id) i with
  | error x =>
    have refused (w : World) := run_within_error w who i l opened
    refine along.carried ?_ ?_
    · rw [refused, refused]
    · rw [refused, refused]
      exact along.world
  | ok c =>
    have content' : c.Among S := by
      rw [Context.Among, content?_ofInputs opened]
      exact content
    have looked (w : World) := run_within w who i l opened
    obtain ⟨same, world⟩ := along.look alike among among' content'
    refine along.carried ?_ ?_
    · rw [looked, looked, same]
    · rw [looked, looked]
      exact world

/-- A lookup on a context kept before goes alike. -/
theorem lookUp {holder : Holder} {c : Context} (held : s.contextAt? holder = some c) :
    (s'.lookUp holder c l).1 = (s.lookUp holder c l).1 ∧
      Alongside learner foreign (s.lookUp holder c l).2 (s'.lookUp holder c l).2 := by
  have content : c.Among S := fun x => among.contexts holder c x held
  obtain ⟨same, world⟩ := along.look alike among among' content
  rw [lookUp_eq, lookUp_eq, same]
  exact ⟨rfl, (along.moved world).put holder _⟩

end Lookups

/-- Starting a batch goes alike. -/
theorem start (alike : Alike (sideBySide S (only learner)) Batch.prepare Batch.prepare)
    (among : s.Among S) (among' : s'.Among S) (supply : Supply) (σ : Strategy) {i : CourseInputs}
    (content : ∀ x, i.content = some x → S x) :
    (s'.world.run (Batch.start supply i σ)).1 = (s.world.run (Batch.start supply i σ)).1 ∧
      SameFor (only learner) (s.world.run (Batch.start supply i σ)).2
        (s'.world.run (Batch.start supply i σ)).2 := by
  cases opened : Context.ofInputs none i with
  | error x =>
    rw [Batch.start, opened]
    exact ⟨rfl, along.world⟩
  | ok c =>
    have content' : c.Among S := by
      rw [Context.Among, content?_ofInputs opened]
      exact content
    obtain ⟨same, world⟩ := along.look alike among among' content'
    rw [run_start _ _ _ _ opened, run_start _ _ _ _ opened]
    generalize s.world.look Batch.prepare c = r at same world
    generalize s'.world.look Batch.prepare c = r' at same world
    obtain ⟨found, w⟩ := r
    obtain ⟨found', w'⟩ := r'
    cases same
    obtain ⟨f | u, c₁⟩ := found <;> exact ⟨rfl, world⟩

/-- Closing a batch goes alike. -/
theorem closed {n : Nat} {b : Batch} {c : Context} (held : s.batches[n]? = some b)
    (held' : s'.batches[n]? = some { b.only learner with context := c }) (later : Supply) :
    Alongside learner foreign
      (s.called n (closing s.world b) { b.closed with supply := later })
      (s'.called n (closing s'.world { b.only learner with context := c })
        { b.closed with supply := later.only learner, context := c }) :=
  along.called (along.world.along (sameFor_closing _ b) (sameFor_closing _ _)) held held'
    rfl rfl rfl

end Alongside

/-! ## Steps that are left -/

/-- Grades are the weighted ones, scores are in memory, and every content is one of `S`. -/
structure Orderly (S : ContentStructure → Prop) (s : Session) : Prop extends s.Among S where
  weighted : s.engine.calculator = .weighted
  memory : s.world.scores.InMemory

theorem Orderly.step {s : Session} (orderly : s.Orderly S) {step : Step} (within : step.Within S) :
    (s.step step).2.Orderly S where
  toAmong := orderly.toAmong.step within orderly.weighted
  weighted := by rw [step_engine, orderly.weighted]
  memory := by
    cases resolving : s.resolving? step with
    | some graded =>
      obtain ⟨who, σ, c⟩ := graded
      rw [(step_resolving resolving).1.scores, World.look, World.scores_run]
      exact orderly.memory
    | none =>
      cases (step_passed resolving).1 with
      | quiet h => exact h.scores ▸ orderly.memory
      | scored who key block score h =>
        exact h ▸ ScoreStore.inMemory_record orderly.memory who key block score
      | cleared | defined | published | disturbed | clocked =>
        next h => exact h ▸ orderly.memory

section Steps

variable {learner : LearnerId} {foreign : List Holder} {s s' : Session}

/-- A call of a batch goes alike unless somebody else comes, or the batch grades in a foreign
context. -/
theorem Alongside.next (along : Alongside learner foreign s s') (among : s.Among S)
    (among' : s'.Among S)
    (resolves : ∀ (who : Learner) σ, who.id = learner →
      Alike (sideBySide S (only learner)) (s.engine.resolveHere who σ)
        (s.engine.resolveHere who σ))
    {n : Nat} {b : Batch} (held : s.batches[n]? = some b)
    (left : ∀ who rest, b.supply = some who :: rest → who.id = learner ∧ .batch n ∉ foreign) :
    (s'.step (.nextResult n)).1 = (s.step (.nextResult n)).1 ∧
      Alongside learner foreign (s.step (.nextResult n)).2 (s'.step (.nextResult n)).2 := by
  obtain ⟨c, held', same⟩ := along.batch_held held
  have still (later : Supply) (supply : b.supply = later) :
      (b.only learner).supply = later.only learner := congrArg (Supply.only learner) supply
  cases supply : b.supply with
  | nil =>
    rw [step_nextResult_nil held supply, step_nextResult_nil held' (still [] supply)]
    exact ⟨rfl, along.closed held held' b.supply⟩
  | cons comes rest =>
    cases comes with
    | none =>
      rw [step_nextResult_gap held supply, step_nextResult_gap held' (still _ supply)]
      exact ⟨rfl, along.closed held held' rest⟩
    | some who =>
      obtain ⟨own, here⟩ := left who rest supply
      obtain rfl := same here
      have stays : Supply.only learner (some who :: rest) = some who :: Supply.only learner rest :=
        List.filter_cons_of_pos (only_iff.2 own)
      have content : (b.context.forLearner who.id).Among S :=
        fun x => among.contexts (.batch n) b.context x (contextAt?_batch held)
      obtain ⟨same, world⟩ := along.look (resolves who b.strategy own) among among' content
      obtain ⟨element, later⟩ := gradeOne_alike (congrArg (·.1) same) world
      rw [step_nextResult_some held supply,
        step_nextResult_some held' ((still _ supply).trans stays), along.engine]
      -- Grading looks at the batch's context and strategy, not at who comes after.
      refine ⟨congrArg (fun r => Answer.result (some r)) element, ?_⟩
      exact along.called later held held' rfl rfl rfl

/-- **A step that is left goes alike.** -/
theorem Alongside.step (blocks : BlocksByVersion S) (orderly : s.Orderly S)
    (orderly' : s'.Orderly S) (along : Alongside learner foreign s s') {step : Step}
    (within : step.Within S)
    (apart : ∀ holder ∈ foreign, s.resolvedIn? step ≠ some (holder, learner))
    (left : s.spares learner foreign step) :
    (s'.step (step.only learner)).1 = (s.step step).1 ∧
      Alongside learner (s.foreignAfter learner foreign step) (s.step step).2
        (s'.step (step.only learner)).2 := by
  have among := orderly.toAmong
  have among' := orderly'.toAmong
  have resolves (who : Learner) (σ : Strategy) (own : who.id = learner) :=
    World.alike_resolveHere_beside blocks orderly.weighted (only_iff.2 own) σ
  have looks {α : Type} {l : Lookup α} (looks : Lookup.Within Request.looks l) :
      Alike (sideBySide S (only learner)) l l :=
    Lookup.alike_within looks (fun _ => Request.ofOwn_of_looks) (Context.lasting_among _)
      fun _ _ _ beside asks => beside.answer asks
  cases step with
  | create who i =>
    have own : who.id = learner := only_iff.1 left
    obtain ⟨outcome, later⟩ := along.within (resolves who .createIfStale own) among among' who
      fun x => within.inputs i x rfl
    simp only [Step.only, Session.step, GradeEngine.create, along.engine]
    exact ⟨congrArg Answer.grade outcome, later⟩
  | update who i =>
    have own : who.id = learner := only_iff.1 left
    obtain ⟨outcome, later⟩ := along.within (resolves who .forceUpdate own) among among' who
      fun x => within.inputs i x rfl
    simp only [Step.only, Session.step, GradeEngine.update, along.engine]
    exact ⟨congrArg Answer.grade outcome, later⟩
  | read who i =>
    have own : who.id = learner := only_iff.1 left
    have reads := (World.coupling_beside (S := S) (only_iff.2 own)).readHere s.engine
    obtain ⟨outcome, later⟩ := along.within reads among among' who
      fun x => within.inputs i x rfl
    simp only [Step.only, Session.step, GradeEngine.read, along.engine]
    exact ⟨congrArg Answer.found outcome, later⟩
  | openContext who i =>
    simp only [Step.only, Session.step, openContext, along.many]
    split
    · exact ⟨rfl, along⟩
    · exact ⟨rfl, along.opened fun _ => rfl⟩
  | resolve n who σ =>
    have own : who.id = learner := only_iff.1 left
    have here : .context n ∉ foreign := fun inside => apart _ inside (own ▸ rfl)
    have context : s'.contexts[n]? = s.contexts[n]? := along.contexts (.context n) here
    simp only [Step.only, Session.step, resolve, context, along.engine]
    split
    · exact ⟨rfl, along⟩
    · next c held =>
      obtain ⟨same, world⟩ := along.look (resolves who σ own) among among'
        fun x => among.contexts (.context n) c x held
      obtain ⟨outcome, later⟩ := along.carried (d := s.engine.resolve who c σ)
        (by rw [run_resolve, run_resolve, same]) (by rw [run_resolve, run_resolve]; exact world)
      exact ⟨congrArg Answer.grade outcome, later⟩
  | resolveIn holder who σ =>
    have own : who.id = learner := only_iff.1 left
    have here : holder ∉ foreign := fun inside => apart _ inside (own ▸ rfl)
    have nothingNew : s.foreignAfter learner foreign (.resolveIn holder who σ) = foreign :=
      if_neg fun other => other.2 own
    rw [nothingNew]
    simp only [Step.only, Session.step, resolveIn, along.contexts holder here, along.engine]
    split
    · exact ⟨rfl, along⟩
    · next c held =>
      obtain ⟨outcome, later⟩ := along.lookUp (resolves who σ own) among among' held
      exact ⟨congrArg Answer.grade outcome, later⟩
  | fork holder who => exact along.forked holder who
  | consult holder q =>
    have here : holder ∉ foreign := of_decide_eq_true left
    simp only [Step.only, Session.step, consult, along.contexts holder here]
    split
    · exact ⟨rfl, along⟩
    · next c held =>
      obtain ⟨outcome, later⟩ := along.lookUp (looks (Context.within_consult q)) among among' held
      exact ⟨congrArg Answer.learned outcome, later⟩
  | startBatch supply i σ =>
    -- Who comes does not matter yet.
    obtain ⟨same, world⟩ := along.start (looks Batch.within_prepare) among among' [] σ
      fun x => within.inputs i x rfl
    have many : s'.batches.length = s.batches.length := along.many_batches
    simp only [Step.only, Session.step, startBatch, carryOut, run_start_supply _ [] supply,
      run_start_supply _ [] (supply.only learner), many]
    generalize s.world.run (Batch.start [] i σ) = r at same world
    generalize s'.world.run (Batch.start [] i σ) = r' at same world
    obtain ⟨o, w⟩ := r
    obtain ⟨o', w'⟩ := r'
    cases same
    cases o with
    | error f => exact ⟨rfl, along.moved world⟩
    | ok b => exact ⟨rfl, (along.moved world).begun { b with supply }⟩
  | nextResult n =>
    cases held : s.batches[n]? with
    | none =>
      have absent := along.batch_absent held
      simp only [Step.only, step_nextResult_unknown held, step_nextResult_unknown absent]
      exact ⟨trivial, along⟩
    | some b =>
      refine along.next among among' resolves held fun who rest supply => ?_
      have comes := subject?_nextResult held supply
      have own : who.id = learner := by simpa [spares, comes] using left
      refine ⟨own, fun inside => apart _ inside ?_⟩
      rw [resolvedIn?, comes, own, Option.map_some]
  | closeBatch n =>
    cases held : s.batches[n]? with
    | none =>
      have absent := along.batch_absent held
      simp only [Step.only, step_closeBatch_unknown held, step_closeBatch_unknown absent]
      exact ⟨trivial, along⟩
    | some b =>
      obtain ⟨c, held', -⟩ := along.batch_held held
      simp only [Step.only, step_closeBatch held, step_closeBatch held']
      exact ⟨trivial, along.closed held held' b.supply⟩
  | beginTransaction key =>
    refine ⟨?_, { along with transactions := ?_ }⟩
    · simp only [Step.only, Session.step, beginTransaction, along.transactions]
    · simp only [Step.only, Session.step, beginTransaction, along.transactions]
  | release n =>
    simp only [Step.only, Session.step, release, along.transactions]
    split
    · exact ⟨rfl, along⟩
    · next t held =>
      exact ⟨rfl, { along with
        world := along.world.along (sameFor_release t _) (sameFor_release t _)
        transactions := rfl }⟩
  | record who key block score =>
    have owned : only learner who := left
    exact ⟨rfl, along.moved
      (along.world.record orderly.memory orderly'.memory who owned key block score)⟩
  | define d =>
    have source := congrArg (·.define d) along.world.source
    exact ⟨rfl, along.moved { along.world with source }⟩
  | publish source => exact ⟨rfl, along.moved { along.world with source := rfl }⟩
  | disturb faults => exact ⟨rfl, along.moved { along.world with faults := rfl }⟩
  | clear key =>
    have unseen (w : World) : SameFor (only learner) w (w.clear key) :=
      World.sameFor_answer (r := .clear key) trivial w
    exact ⟨rfl, along.moved (along.world.along (unseen _) (unseen _))⟩
  | clock now => exact ⟨rfl, along.moved { along.world with now := rfl }⟩

/-! ## Steps that are deleted -/

/-- One world has moved on, and the learner has seen nothing of it. -/
theorem Alongside.aside (along : Alongside learner foreign s s') {w : World}
    (unseen : SameFor (only learner) s.world w) :
    Alongside learner foreign { s with world := w } s' :=
  { along with world := unseen.symm.trans along.world }

/-- A foreign context may be any other from now on. -/
theorem Alongside.putForeign (along : Alongside learner foreign s s') {holder : Holder}
    (other : holder ∈ foreign) (c : Context) :
    Alongside learner foreign (s.putContext holder c) s' where
  engine := by rw [putContext_engine, along.engine]
  world := by
    rw [putContext_world]
    exact along.world
  many := by rw [length_contexts_putContext, along.many]
  contexts here own := by
    have differs : here ≠ holder := fun same => own (same ▸ other)
    rw [contextAt?_put, if_neg differs, along.contexts here own]
  batches := by rw [map_batches_putContext (fun _ _ => rfl), along.batches]
  transactions := by rw [putContext_transactions, along.transactions]

/-- A batch may have graded somebody else. -/
theorem Alongside.calledForOther (along : Alongside learner foreign s s') {w : World}
    (unseen : SameFor (only learner) s.world w) {n : Nat} {b : Batch}
    (held : s.batches[n]? = some b) {who : Learner} {rest : Supply}
    (supply : b.supply = some who :: rest) (other : ¬only learner who.id) :
    Alongside learner foreign (s.called n w { b with supply := rest }) s' := by
  have dropped : Supply.only learner b.supply = Supply.only learner rest := by
    rw [supply]
    exact List.filter_cons_of_neg other
  refine { along with
    world := unseen.symm.trans along.world
    contexts := fun holder own => ?_
    batches := along.batches.trans (map_set_same held ?_).symm }
  · exact (along.contexts holder own).trans (contextAt?_called held (by rfl) w holder).symm
  · rw [Batch.schedule, Batch.schedule, Batch.only, Batch.only, dropped]

theorem sameFor_within {α : Type} {own : LearnerId → Bool} {w : World} {l : Lookup α}
    (unseen : ∀ c, SameFor own w (w.look l c).2) (who : Learner) (i : CourseInputs) :
    SameFor own w (w.run (GradeEngine.within who i l)).2 := by
  cases opened : Context.ofInputs (some who.id) i with
  | error x =>
    rw [run_within_error _ _ _ _ opened]
    exact .refl w
  | ok c =>
    rw [run_within _ _ _ _ opened]
    exact unseen c

/-- **A step for somebody else is not seen.** -/
theorem Alongside.skip (orderly : s.Orderly S) (along : Alongside learner foreign s s')
    {step : Step} (deleted : ¬s.spares learner foreign step) :
    Alongside learner (s.foreignAfter learner foreign step) (s.step step).2 s' := by
  have resolves {who : Learner} (other : ¬only learner who.id) (σ : Strategy) (c : Context) :=
    World.sameFor_resolveHere s.engine other σ s.world c
  cases step with
  | create who i => exact along.aside (sameFor_within (resolves deleted .createIfStale) who i)
  | update who i => exact along.aside (sameFor_within (resolves deleted .forceUpdate) who i)
  | read who i =>
    exact along.aside (sameFor_within (fun c => (quiet_readHere _ _ who c).sameFor) who i)
  | resolve n who σ =>
    simp only [Session.step, resolve]
    split
    · exact along
    · next c held =>
      have unseen : SameFor (only learner) s.world (s.world.run (s.engine.resolve who c σ)).2 := by
        rw [run_resolve]
        exact resolves deleted σ c
      exact along.aside unseen
  | resolveIn holder who σ =>
    have other : who.id ≠ learner := fun own => deleted (only_iff.2 own)
    simp only [Session.step, resolveIn, foreignAfter]
    cases held : s.contextAt? holder with
    | none =>
      rw [if_neg fun known => Bool.false_ne_true known.1]
      exact along
    | some c =>
      rw [if_pos ⟨rfl, other⟩]
      have grown := along.mono (List.subset_cons_self holder foreign)
      exact (grown.aside (resolves deleted σ c)).putForeign List.mem_cons_self _
  | consult holder q =>
    have other : holder ∈ foreign := by
      by_contra own
      exact deleted (decide_eq_true own)
    have unseen (c : Context) : SameFor (only learner) s.world
        (s.world.look (Context.consult q) c).2 :=
      (World.look_quiet (Context.within_consult q) s.world c).sameFor
    simp only [Session.step, consult]
    split
    · exact along
    · next c held => exact (along.aside (unseen c)).putForeign other _
  | record who key block score =>
    exact along.aside (World.sameFor_record orderly.memory deleted key block score)
  | nextResult n =>
    cases held : s.batches[n]? with
    | none =>
      rw [step_nextResult_unknown held]
      exact along
    | some b =>
      cases supply : b.supply with
      | nil => simp [spares, subject?, held, supply] at deleted
      | cons comes rest =>
        cases comes with
        | none => simp [spares, subject?, held, supply] at deleted
        | some who =>
          have other : ¬only learner who.id := by
            simpa [spares, subject?_nextResult held supply] using deleted
          rw [step_nextResult_some held supply]
          exact along.calledForOther (sameFor_gradeOne s.engine s.world b other) held supply other
  | openContext | fork | startBatch | closeBatch | beginTransaction | release | define
  | publish | disturb | clear | clock => exact absurd rfl deleted

end Steps

/-! ## Runs -/

theorem within_only {step : Step} (within : step.Within S) (learner : LearnerId) :
    (step.only learner).Within S := by
  cases step with
  | startBatch supply i σ => exact ⟨within.inputs, by rintro _ ⟨⟩, by rintro _ ⟨⟩⟩
  | _ => exact within

theorem Alongside.run (blocks : BlocksByVersion S) {learner : LearnerId} {foreign : List Holder}
    {s s' : Session} (orderly : s.Orderly S) (orderly' : s'.Orderly S)
    (along : Alongside learner foreign s s') {steps : List Step}
    (within : ∀ step ∈ steps, step.Within S) (apart : s.KeepsApart learner foreign steps) :
    let left := s.withoutOthers learner foreign steps
    (s'.run (left.map (·.1))).1 = left.map (·.2) ∧
      ∃ foreign', Alongside learner foreign' (s.run steps).2 (s'.run (left.map (·.1))).2 := by
  induction steps generalizing s s' foreign with
  | nil => exact ⟨rfl, foreign, along⟩
  | cons step rest ih =>
    obtain ⟨here, apart'⟩ := apart
    have inside := within step List.mem_cons_self
    have within' := fun later there => within later (List.mem_cons_of_mem step there)
    have next := orderly.step inside
    rw [run_cons, withoutOthers]
    by_cases left : s.spares learner foreign step
    · obtain ⟨answer, later⟩ := along.step blocks orderly orderly' inside here left
      have next' := orderly'.step (within_only inside learner)
      obtain ⟨answers, ended⟩ := ih next next' later within' apart'
      simp only [if_pos left, List.map_cons, run_cons, answer, answers]
      exact ⟨trivial, ended⟩
    · simp only [if_neg left]
      exact ih next orderly' (along.skip orderly left) within' apart'

/-- **Learners do not interfere.** With the weighted calculator, scores in memory and contents of
one course and version that have the same blocks, delete from any run the steps that concern
others, calls of batches that yield others included. What is left has the answers it had, errors
included. The learner's rows are the same, and the same was announced about the learner, in the
same order. The learner may be resolved in any context but those that somebody else was resolved in
before and their copies. Changes of the clock, of content and of what fails are nobody's, so they
are left where they were. -/
theorem learners_do_not_interfere (blocks : BlocksByVersion S) {s : Session}
    (weighted : s.engine.calculator = .weighted) (memory : s.world.scores.InMemory)
    (idle : s.Idle) (offers : s.world.source.Offers S) (cache : s.world.cache.From S)
    (learner : LearnerId) {steps : List Step} (within : ∀ step ∈ steps, step.Within S)
    (apart : s.KeepsApart learner [] steps) :
    let left := s.withoutOthers learner [] steps
    let alone := s.run (left.map (·.1))
    alone.1 = left.map (·.2) ∧
      (∀ key, alone.2.world.rows.find? learner key =
        (s.run steps).2.world.rows.find? learner key) ∧
      alone.2.world.announcedTo (only learner) =
        (s.run steps).2.world.announcedTo (only learner) := by
  intro left alone
  have orderly : s.Orderly S :=
    { source := offers
      cache
      contexts := fun holder _ _ held => by cases (idle.contextAt? holder).symm.trans held
      batches := fun n _ held => by cases (idle.contextAt? (.batch n)).symm.trans held
      weighted
      memory }
  have start : Alongside learner [] s s :=
    { engine := rfl
      world := .refl s.world
      many := rfl
      contexts := fun _ _ => rfl
      batches := by rw [idle.batches, List.map_nil, List.map_nil]
      transactions := rfl }
  obtain ⟨answers, foreign, ended⟩ := start.run blocks orderly orderly within apart
  exact ⟨answers, fun key => ended.world.rows.find? learner key (only_iff.2 rfl),
    ended.world.announced⟩

/-- Two learners with scores, one after the other in one context, then both in a batch. -/
def interleaved : List Step :=
  [.record ⟨1⟩ Sample.key "hw1" Sample.score, .record ⟨2⟩ Sample.key "hw1" Sample.score,
    .openContext none (.ofKey Sample.key), .resolveIn (.context 0) Sample.learner .createIfStale,
    .resolveIn (.context 0) (.ofId ⟨2⟩) .forceUpdate, .fork (.context 0) ⟨2⟩,
    .startBatch (.ofLearners [.ofId ⟨2⟩, Sample.learner]) (.ofKey Sample.key) .forceUpdate,
    .nextResult 0, .nextResult 0, .nextResult 0, .create Sample.learner (.ofKey Sample.key)]

/-- Without three steps the run is left with the learner's three grades, and goes as before. -/
theorem learners_do_not_interfere_interleaved :
    let s := sample (Sample.course none ["hw1"])
    (s.withoutOthers ⟨1⟩ [] interleaved).map (fun l => l.2.grade?.bind (·.letterGrade)) =
        [none, none, some "Pass", none, none, some "Pass", none, some "Pass"] ∧
      let left := s.withoutOthers ⟨1⟩ [] interleaved
      let alone := s.run (left.map (·.1))
      alone.1 = left.map (·.2) ∧
        (∀ key, alone.2.world.rows.find? ⟨1⟩ key =
          (s.run interleaved).2.world.rows.find? ⟨1⟩ key) ∧
        alone.2.world.announcedTo (only ⟨1⟩) =
          (s.run interleaved).2.world.announcedTo (only ⟨1⟩) := by
  intro s
  let Only (x : ContentStructure) : Prop := x = (Sample.course none ["hw1"]).content
  have blocks : BlocksByVersion Only := by
    rintro x y rfl rfl - -
    rfl
  have offers : s.world.source.Offers Only := ContentSource.offers_empty.define rfl
  have cache : s.world.cache.From Only := fun _ _ found => by cases found
  have memory : s.world.scores.InMemory := trivial
  have within : ∀ step ∈ interleaved, step.Within Only := by
    intro step inside
    simp only [interleaved, List.mem_cons, List.not_mem_nil, or_false] at inside
    rcases inside with rfl | rfl | rfl | rfl | rfl | rfl | rfl | rfl | rfl | rfl | rfl <;>
      exact ⟨by rintro _ _ ⟨⟩ ⟨⟩, by rintro _ ⟨⟩, by rintro _ ⟨⟩⟩
  have apart : s.KeepsApart ⟨1⟩ [] interleaved := by decide +kernel
  exact ⟨by decide +kernel, learners_do_not_interfere (s := s) blocks rfl memory
    (idle_sample _) offers cache ⟨1⟩ within apart⟩

/-- The small course after an edit of its cutoffs. -/
def credited : CourseDefinition :=
  let cutoffs := (∅ : Dictionary Double).insert "Credit" (.ofFloat 0.5)
  { Sample.course none ["hw1"] with gradingPolicy := { Sample.homework with cutoffs } }

/-- A context is used for somebody else, and after an edit of the course for the learner, as is a
copy of it. -/
def sharedContext : List Step :=
  [.record ⟨1⟩ Sample.key "hw1" Sample.score, .openContext none (.ofKey Sample.key),
    .resolveIn (.context 0) (.ofId ⟨2⟩) .forceUpdate, .define credited, .fork (.context 0) ⟨1⟩,
    .resolveIn (.context 0) Sample.learner .forceUpdate,
    .resolveIn (.context 1) Sample.learner .forceUpdate]

/-- A batch is called once, and so for the first of its two learners. -/
def calledOnce : List Step :=
  [.record ⟨1⟩ Sample.key "hw1" Sample.score,
    .startBatch (.ofLearners [.ofId ⟨2⟩, Sample.learner]) (.ofKey Sample.key) .forceUpdate,
    .nextResult 0]

/-- **Others are seen in a shared context, and where the calls for them are left.** In all else the
runs are as above. In a context used for the other before, and in a copy of it, the learner is
graded by the policy that was loaded for the other, and without the other by the edited one. And
when the other leaves the list of a batch but the call of it stays, the call is for the learner,
who gets a row that was not there. -/
theorem others_seen_in_shared_context :
    let s := sample (Sample.course none ["hw1"])
    let Edits (x : ContentStructure) : Prop :=
      x = (Sample.course none ["hw1"]).content ∨ x = credited.content
    let left := s.withoutOthers ⟨1⟩ [] sharedContext
    let letters (answers : List Answer) := answers.map fun a => a.grade?.bind (·.letterGrade)
    let row (steps : List Step) := (s.run steps).2.world.rows.find? ⟨1⟩ Sample.key
    BlocksByVersion Edits ∧ s.world.source.Offers Edits ∧
      (∀ step ∈ sharedContext ++ calledOnce, step.Within Edits) ∧
      letters (left.map (·.2)) = [none, none, none, none, some "Pass", some "Pass"] ∧
      letters (s.run (left.map (·.1))).1 = [none, none, none, none, some "Credit", some "Credit"] ∧
      (row calledOnce).map (fun r => r.isSome) = .ok false ∧
      (row (calledOnce.map (·.only ⟨1⟩))).map (fun r => r.isSome) = .ok true := by
  intro s Edits left letters row
  have blocks : BlocksByVersion Edits := by
    rintro x y (rfl | rfl) (rfl | rfl) - - <;> rfl
  have offers : s.world.source.Offers Edits := ContentSource.offers_empty.define (.inl rfl)
  have within : ∀ step ∈ sharedContext ++ calledOnce, step.Within Edits := by
    intro step inside
    simp only [sharedContext, calledOnce, List.cons_append, List.nil_append, List.mem_cons,
      List.not_mem_nil, or_false] at inside
    rcases inside with rfl | rfl | rfl | rfl | rfl | rfl | rfl | rfl | rfl | rfl <;>
      exact ⟨by rintro _ _ ⟨⟩ ⟨⟩, by rintro _ ⟨⟩ <;> exact .inr rfl, by rintro _ ⟨⟩⟩
  exact ⟨blocks, offers, within, by decide +kernel, by decide +kernel, by decide +kernel,
    by decide +kernel⟩

end Session

end Gradebook
