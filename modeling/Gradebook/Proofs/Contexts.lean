/-
# Gradebook.Proofs.Contexts — where the contexts of a session come from

The contexts a user keeps, and those of batches, are opened on inputs, copied, or filled
with what a step finds in the world (`step_stems`); nothing else becomes of them. A step that
grades somebody does so in a context opened for it, or in one kept before
(`context_of_resolving`).
-/
import Gradebook.Proofs.History

namespace Gradebook

set_option autoImplicit false

namespace Session

theorem contextAt?_batch {s : Session} {n : Nat} {b : Batch} (held : s.batches[n]? = some b) :
    s.contextAt? (.batch n) = some b.context := by
  rw [contextAt?, held]
  rfl

/-- No context and no batch is kept yet. -/
structure Idle (s : Session) : Prop where
  contexts : s.contexts = []
  batches : s.batches = []

theorem Idle.contextAt? {s : Session} (idle : s.Idle) (holder : Holder) :
    s.contextAt? holder = none := by
  cases holder with
  | context n => rw [Session.contextAt?, idle.contexts, List.getElem?_nil]
  | batch n => rw [Session.contextAt?, idle.batches, List.getElem?_nil, Option.map_none]

/-- Nothing has been done on the small course. -/
def sample (d : CourseDefinition) : Session := { engine := Sample.engine, world := Sample.world d }

theorem idle_sample (d : CourseDefinition) : (sample d).Idle := ⟨rfl, rfl⟩

/-- The context somebody is graded in is opened on inputs or one kept before, perhaps for
another learner. -/
theorem context_of_resolving {s : Session} {step : Step} {learner : Learner} {strategy : Strategy}
    {c : Context} (h : s.resolving? step = some (learner, strategy, c)) :
    (∃ i, step.inputs? = some i ∧ Context.ofInputs (some learner.id) i = .ok c) ∨
      ∃ holder held, s.contextAt? holder = some held ∧
        (c = held ∨ c = held.forLearner learner.id) := by
  cases step with
  | create learner' i =>
    obtain ⟨rfl, -, opened⟩ := opened_of_map h
    exact .inl ⟨i, rfl, opened⟩
  | update learner' i =>
    obtain ⟨rfl, -, opened⟩ := opened_of_map h
    exact .inl ⟨i, rfl, opened⟩
  | resolve n learner' strategy' => exact .inr ⟨.context n, c, (held_of_map h).2.2, .inl rfl⟩
  | resolveIn holder learner' strategy' => exact .inr ⟨holder, c, (held_of_map h).2.2, .inl rfl⟩
  | nextResult n =>
    obtain ⟨b, rest, held, supply, rfl, rfl⟩ := batch_of_resolving h
    exact .inr ⟨.batch n, b.context, contextAt?_batch held, .inr rfl⟩
  | read | openContext | fork | consult | startBatch | closeBatch | beginTransaction | release
  | record | define | publish | disturb | clear | clock => cases h

/-! ## What a step does to them -/

/-- Where the context of a holder comes from, after a step. -/
inductive Stems (s : Session) (step : Step) : Holder → Context → Prop where
  | kept {holder : Holder} {c c' : Context} (held : s.contextAt? holder = some c)
      (follows : s.world.Follows c c') : Stems s step holder c'
  | forked {holder : Holder} {n : Nat} {c : Context} (learner : LearnerId)
      (held : s.contextAt? holder = some c) : Stems s step (.context n) (c.forLearner learner)
  | opened {n : Nat} {learner : Option LearnerId} {i : CourseInputs} {c : Context}
      (inputs : step.inputs? = some i) (opened : Context.ofInputs learner i = .ok c) :
      Stems s step (.context n) c
  | started {n : Nat} {i : CourseInputs} {c c' : Context} (inputs : step.inputs? = some i)
      (opened : Context.ofInputs none i = .ok c) (follows : s.world.Follows c c')
      (content : ∃ x, c'.content? = some x) : Stems s step (.batch n) c'

theorem contextAt?_eq {s s' : Session} (contexts : s'.contexts = s.contexts)
    (batches : s'.batches.map (·.context) = s.batches.map (·.context)) (holder : Holder) :
    s'.contextAt? holder = s.contextAt? holder := by
  cases holder with
  | context n => simp only [contextAt?, contexts]
  | batch n =>
    have same := congrArg (·[n]?) batches
    simpa only [contextAt?, List.getElem?_map] using same

/-- What is held at a place after a context has been put somewhere. -/
theorem contextAt?_put (s : Session) (holder holder' : Holder) (c : Context) :
    (s.putContext holder c).contextAt? holder' =
      if holder' = holder then (s.contextAt? holder).map fun _ => c else s.contextAt? holder' := by
  cases holder with
  | context n =>
    cases holder' with
    | batch m => rfl
    | context m =>
      simp only [putContext, contextAt?, List.getElem?_set', Holder.context.injEq, eq_comm (a := m)]
      split
      · next same =>
        subst same
        rfl
      · rfl
  | batch n =>
    cases holder' with
    | context m => rfl
    | batch m =>
      simp only [putContext, contextAt?, List.getElem?_modify, Holder.batch.injEq,
        Option.map_eq_map, Option.map_map, eq_comm (a := m)]
      split
      · next same =>
        subst same
        rfl
      · rfl

theorem contextAt?_putContext {s : Session} {holder holder' : Holder} {c c' : Context}
    (h : (s.putContext holder c).contextAt? holder' = some c') :
    holder' = holder ∧ c' = c ∨ s.contextAt? holder' = some c' := by
  rw [contextAt?_put] at h
  split at h
  · next same =>
    obtain ⟨_, _, rfl⟩ := Option.map_eq_some_iff.1 h
    exact .inl ⟨same, rfl⟩
  · exact .inr h

theorem length_contexts_putContext (s : Session) (holder : Holder) (c : Context) :
    (s.putContext holder c).contexts.length = s.contexts.length := by
  cases holder with
  | context n => exact List.length_set
  | batch n => rfl

/-- What does not look at their contexts finds the batches as they were. -/
theorem map_batches_putContext {α : Type} {f : Batch → α}
    (blind : ∀ (b : Batch) (c : Context), f { b with context := c } = f b) (s : Session)
    (holder : Holder) (c : Context) :
    (s.putContext holder c).batches.map f = s.batches.map f := by
  cases holder with
  | context n => rfl
  | batch n =>
    apply List.ext_getElem?
    intro m
    simp only [putContext, List.getElem?_map, List.getElem?_modify, Option.map_eq_map,
      Option.map_map]
    congr 1
    funext b
    simp only [Function.comp_apply]
    split
    · exact blind b c
    · rfl

theorem contextAt?_contexts_append {s : Session} {holder : Holder} {c₀ c : Context}
    (h : ({ s with contexts := s.contexts ++ [c₀] } : Session).contextAt? holder = some c) :
    s.contextAt? holder = some c ∨ ∃ n, holder = .context n ∧ c = c₀ := by
  cases holder with
  | batch n => exact .inl h
  | context n =>
    simp only [contextAt?, List.getElem?_append] at h ⊢
    split at h
    · exact .inl h
    · have last := List.mem_of_getElem? h
      exact .inr ⟨n, rfl, List.mem_singleton.1 last⟩

theorem contextAt?_batches_append {s : Session} {holder : Holder} {b : Batch} {c : Context}
    (h : ({ s with batches := s.batches ++ [b] } : Session).contextAt? holder = some c) :
    s.contextAt? holder = some c ∨ ∃ n, holder = .batch n ∧ c = b.context := by
  cases holder with
  | context n => exact .inl h
  | batch n =>
    simp only [contextAt?, List.getElem?_append] at h ⊢
    split at h
    · exact .inl h
    · obtain ⟨b', last, rfl⟩ := Option.map_eq_some_iff.1 h
      rw [List.mem_singleton.1 (List.mem_of_getElem? last)]
      exact .inr ⟨n, rfl, rfl⟩

/-- An item put in the place of one that shows the same does not show in the list. -/
theorem map_set_same {α β : Type} {f : α → β} {items : List α} {n : Nat} {a b : α}
    (held : items[n]? = some a) (same : f b = f a) : (items.set n b).map f = items.map f := by
  obtain ⟨inside, rfl⟩ := List.getElem?_eq_some_iff.1 held
  have inside' : n < (items.map f).length := by simpa using inside
  have shown : (items.map f)[n] = f items[n] := List.getElem_map f
  rw [List.map_set, same, ← shown, List.set_getElem_self]

theorem context_close (w : World) (b : Batch) : (w.run b.close).1.context = b.context := by
  unfold Batch.close
  split <;> rfl

theorem context_next (w : World) (e : GradeEngine) (b : Batch) :
    (w.run (b.next e)).1.2.context = b.context := by
  unfold Batch.next
  split
  · rw [World.run_bind]
    rfl
  · rw [World.run_bind]
    exact context_close w _
  · rw [World.run_bind]
    exact context_close w b

/-- The batch prepared holds its content. -/
theorem content_prepare {w w' : World} {c c' : Context}
    (h : w.look Batch.prepare c = ((.ok (), c'), w')) : ∃ x, c'.content? = some x := by
  have found := World.look_content w c
  rw [Batch.prepare, World.look_bind] at h
  generalize w.look Context.content c = r at found h
  obtain ⟨⟨o, c₁⟩, w₁⟩ := r
  cases o with
  | error f => cases h
  | ok x =>
    obtain ⟨loaded, filled⟩ := Prod.mk.inj found
    rw [← loaded] at filled
    have within : Lookup.Within Request.looks (do let _ ← GradeEngine.availableCourse) :=
      Lookup.within_bind GradeEngine.within_availableCourse fun _ => Lookup.within_pure _
    have follows := World.look_follows (w := w₁) within (fun _ => Request.mild_of_looks) c₁
    simp only at h
    rw [h] at follows
    exact ⟨x, follows.grows.content x (by rw [filled, World.held])⟩

/-- A batch that started has filled the context of its inputs, the content included. -/
theorem context_start {w w' : World} {supply : Supply} {i : CourseInputs} {strategy : Strategy}
    {b : Batch} (h : w.run (Batch.start supply i strategy) = (.ok b, w')) :
    ∃ c, Context.ofInputs none i = .ok c ∧ w.Follows c b.context ∧
      ∃ x, b.context.content? = some x := by
  cases opened : Context.ofInputs none i with
  | error x =>
    rw [Batch.start, opened] at h
    cases h
  | ok c =>
    have follows := World.look_follows (w := w) Batch.within_prepare
      (fun _ => Request.mild_of_looks) c
    rw [run_start _ _ _ _ opened] at h
    generalize prepared : w.look Batch.prepare c = r at follows h
    obtain ⟨⟨f | u, c'⟩, w₁⟩ := r
    · cases h
    · cases h
      exact ⟨c, rfl, follows, content_prepare prepared⟩

/-- **Contexts are only ever filled** from what a step finds, copied, or opened on inputs. -/
theorem step_stems {s : Session} {step : Step} {holder : Holder} {c : Context}
    (h : (s.step step).2.contextAt? holder = some c) : Stems s step holder c := by
  have same {s' : Session} (contexts : s'.contexts = s.contexts)
      (batches : s'.batches.map (·.context) = s.batches.map (·.context))
      (h : s'.contextAt? holder = some c) : Stems s step holder c :=
    .kept ((contextAt?_eq contexts batches holder).symm.trans h) (.refl _ _)
  have looked {α : Type} {l : Lookup α} {holder' : Holder} {c₀ : Context}
      (held : s.contextAt? holder' = some c₀) (follows : s.world.Follows c₀ (s.world.look l c₀).1.2)
      (h : (s.lookUp holder' c₀ l).2.contextAt? holder = some c) : Stems s step holder c := by
    rw [lookUp_eq] at h
    rcases contextAt?_putContext h with ⟨rfl, rfl⟩ | before
    · exact .kept held follows
    · exact same rfl rfl before
  cases step with
  | openContext learner i =>
    simp only [Session.step, openContext] at h
    split at h
    · exact same rfl rfl h
    · next c₀ opened =>
      rcases contextAt?_contexts_append h with before | ⟨n, rfl, rfl⟩
      · exact same rfl rfl before
      · exact .opened rfl opened
  | resolve n learner strategy =>
    simp only [Session.step, resolve] at h
    split at h <;> exact same rfl rfl h
  | resolveIn holder' learner strategy =>
    simp only [Session.step, resolveIn] at h
    split at h
    · exact same rfl rfl h
    · next c₀ held =>
      exact looked held (GradeEngine.follows_resolveHere _ _ _ _ _).1 h
  | fork holder' learner =>
    simp only [Session.step, fork] at h
    split at h
    · exact same rfl rfl h
    · next c₀ held =>
      rcases contextAt?_contexts_append h with before | ⟨n, rfl, rfl⟩
      · exact same rfl rfl before
      · exact .forked learner held
  | consult holder' q =>
    simp only [Session.step, consult] at h
    split at h
    · exact same rfl rfl h
    · next c₀ held =>
      exact looked held
        (World.look_follows (Context.within_consult q) (fun _ => Request.mild_of_looks) c₀) h
  | startBatch supply i strategy =>
    simp only [Session.step, startBatch, carryOut] at h
    generalize started : s.world.run (Batch.start supply i strategy) = r at h
    obtain ⟨f | b, w'⟩ := r
    · exact same rfl rfl h
    · obtain ⟨c₀, opened, follows, content⟩ := context_start started
      rcases contextAt?_batches_append (s := { s with world := w' }) h with before | ⟨n, rfl, rfl⟩
      · exact same rfl rfl before
      · exact .started rfl opened follows content
  | nextResult n =>
    simp only [Session.step, nextResult] at h
    split at h
    · exact same rfl rfl h
    · next b held =>
      exact same (by rfl) (map_set_same held (context_next s.world s.engine b)) h
  | closeBatch n =>
    simp only [Session.step, closeBatch] at h
    split at h
    · exact same rfl rfl h
    · next b held => exact same (by rfl) (map_set_same held (context_close s.world b)) h
  | release n =>
    simp only [Session.step, release] at h
    split at h <;> exact same rfl rfl h
  | create | read | update | beginTransaction | record | define | publish | disturb | clear
  | clock => exact same rfl rfl h

end Session

end Gradebook
