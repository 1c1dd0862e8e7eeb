/-
# Gradebook.Proofs.Snapshots — one context, one snapshot

A context is opened once and then forked and consulted, in any order and number, with a
loader that replies as it likes (`Context.Grown`). Each of the contexts there are is followed
with all it was asked (`Context.Branch`), and `Branch.Kept` is what forking and consulting
keep of it: its cells were filled by one load each, and all that was answered is of what they
hold. What comes of the next query is said by `Context.Consulted`.

`one_snapshot` puts this together for the contexts of given inputs, and for a batch: its
results are resolved in forks of a context that has its structure.
-/
import Gradebook.Proofs.Loading

namespace Gradebook

set_option autoImplicit false

open Lookup

namespace Context

variable {c c' : Context} {xs : List Exchange}

/-! ## Contexts that are forked and consulted -/

/-- A query with what was exchanged for it and what it ended in. -/
structure Consultation where
  query : Query
  exchanges : List Exchange
  outcome : Except Failure Finding

/-- One of the contexts: as it was opened or forked, what it was asked since, and as it is. -/
structure Branch where
  born : Context
  past : List Consultation
  now : Context

/-- A context just opened or forked. -/
def Branch.new (c : Context) : Branch := ⟨c, [], c⟩

/-- All that was exchanged for it. -/
def Branch.exchanges (b : Branch) : List Exchange := b.past.flatMap (·.exchanges)

/-- The contexts there are after opening one, forking and consulting. Nothing is said about
the loader. -/
inductive Grown (c : Context) : List Branch → Prop where
  | opened : Grown c [.new c]
  | forked {branches : List Branch} {n : Nat} {b : Branch} (grown : Grown c branches)
      (there : branches[n]? = some b) (learner : LearnerId) :
      Grown c (branches ++ [.new (b.now.forLearner learner)])
  | consulted {branches : List Branch} {n : Nat} {b : Branch} {q : Query} {xs : List Exchange}
      {o : Except Failure Finding} {c' : Context} (grown : Grown c branches)
      (there : branches[n]? = some b) (went : (consult q).Goes b.now xs o c') :
      Grown c (branches.set n ⟨b.born, b.past ++ [⟨q, xs, o⟩], c'⟩)

/-- What was found is of the structure, or is the descriptor, at hand. -/
def Finding.Agrees (c : Context) : Finding → Prop
  | .content x => c.content? = some x
  | .gradingPolicy p => ∃ x, c.content? = some x ∧ p = x.gradingPolicy
  | .policyHash h => ∃ x, c.content? = some x ∧ h = x.gradingPolicy.hash
  | .course x => c.course? = some x
  | _ => True

theorem Finding.Agrees.extend {f : Finding} (h : f.Agrees c) (extends_ : c.Extends c') :
    f.Agrees c' := by
  cases f with
  | content x => exact extends_.content x h
  | gradingPolicy p =>
    obtain ⟨x, held, same⟩ := h
    exact ⟨x, extends_.content x held, same⟩
  | policyHash hash =>
    obtain ⟨x, held, same⟩ := h
    exact ⟨x, extends_.content x held, same⟩
  | course x => exact extends_.course x h
  | version | instant | text => trivial

theorem agrees_of_goes (sound : c.Sound) {q : Query} {f : Finding}
    (h : (consult q).Goes c xs (.ok f) c') : f.Agrees c' := by
  have filled := ((within_consult q).goes h).2
  cases q with
  | content =>
    obtain ⟨x, rfl, went⟩ := goes_map_ok h
    exact goes_content went
  | gradingPolicy =>
    obtain ⟨p, rfl, looked⟩ := goes_map_ok h
    obtain ⟨x, rfl, went⟩ := goes_map_ok looked
    exact ⟨x, goes_content went, rfl⟩
  | policyHash =>
    obtain ⟨hash, rfl, went⟩ := goes_map_ok h
    exact filled.sound sound hash (goes_policyHash went)
  | course =>
    obtain ⟨x, rfl, went⟩ := goes_map_ok h
    exact goes_course went
  | contentVersion | contentEditedAt | deadline | fullText =>
    obtain ⟨x, rfl, -⟩ := goes_map_ok h
    trivial

/-- What holds of every context that grew from the first one. -/
structure Branch.Kept (c : Context) (b : Branch) : Prop where
  sound : b.now.Sound
  content : ∀ x, c.content? = some x → b.born.content? = some x
  course : ∀ x, c.course? = some x → b.born.course? = some x
  once : b.born.FilledOnce b.exchanges b.now
  agrees : ∀ v ∈ b.past, ∀ f, v.outcome = .ok f → f.Agrees b.now

/-- What was at hand when it was opened or forked still is. -/
theorem Branch.Kept.inherited {b : Branch} (h : b.Kept c) :
    (∀ x, c.content? = some x → b.now.content? = some x) ∧
      ∀ x, c.course? = some x → b.now.course? = some x := by
  refine ⟨fun x held => ?_, fun x held => ?_⟩
  · have once := h.once.content
    rw [h.content x held] at once
    exact once.of_held.2
  · have once := h.once.course
    rw [h.course x held] at once
    exact once.of_held.2

theorem Branch.Kept.fork {b : Branch} (h : b.Kept c) (learner : LearnerId) :
    (Branch.new (b.now.forLearner learner)).Kept c where
  sound := h.sound
  content := h.inherited.1
  course := h.inherited.2
  once := .refl _
  agrees _ member := nomatch member

theorem Branch.Kept.consult {b : Branch} (h : b.Kept c) {q : Query} {o : Except Failure Finding}
    (went : (consult q).Goes b.now xs o c') :
    (⟨b.born, b.past ++ [⟨q, xs, o⟩], c'⟩ : Branch).Kept c := by
  have filled := ((within_consult q).goes went).2
  have exchanged : (⟨b.born, b.past ++ [⟨q, xs, o⟩], c'⟩ : Branch).exchanges = b.exchanges ++ xs := by
    simp [exchanges]
  refine ⟨filled.sound h.sound, h.content, h.course, ?_, fun v member f answered => ?_⟩
  · rw [exchanged]
    exact h.once.trans (frugal_consult q went)
  · rcases List.mem_append.1 member with earlier | last
    · exact (h.agrees v earlier f answered).extend filled.toExtends
    · obtain rfl := List.mem_singleton.1 last
      cases answered
      exact agrees_of_goes h.sound went

theorem Grown.kept {branches : List Branch} (sound : c.Sound) (h : Grown c branches) :
    ∀ b ∈ branches, b.Kept c := by
  induction h with
  | opened =>
    rintro b member
    rw [List.mem_singleton.1 member]
    exact ⟨sound, fun _ held => held, fun _ held => held, .refl c, fun _ member => nomatch member⟩
  | forked grown there learner ih =>
    intro b' member
    rcases List.mem_append.1 member with before | last
    · exact ih b' before
    · rw [List.mem_singleton.1 last]
      exact (ih _ (List.mem_of_getElem? there)).fork learner
  | consulted grown there went ih =>
    intro b' member
    rcases List.mem_or_eq_of_mem_set member with before | rfl
    · exact ih b' before
    · exact (ih _ (List.mem_of_getElem? there)).consult went

/-! ## One consultation -/

/-- What comes of a query, whatever the loader replies. -/
structure Consulted (c : Context) (q : Query) (xs : List Exchange) (o : Except Failure Finding)
    (c' : Context) : Prop where
  /-- The structure at hand is the one it is answered from. -/
  content : ∀ x, c.content? = some x → contentLoads xs = [] ∧ c'.content? = some x ∧
    (q = .content → o = .ok (.content x)) ∧
    (q = .gradingPolicy → o = .ok (.gradingPolicy x.gradingPolicy)) ∧
    (q = .policyHash → o = .ok (.policyHash x.gradingPolicy.hash))
  /-- And so is the descriptor. -/
  course : ∀ x, c.course? = some x → courseLoads xs = [] ∧ c'.course? = some x ∧
    (q = .course → o = .ok (.course x)) ∧ (q = .deadline → o = .ok (.instant x.ends))
  /-- Loads that fail leave everything as it was. -/
  missed : (∀ r ∈ contentLoads xs, ∃ f, r = .error f) → (∀ r ∈ courseLoads xs, ∃ f, r = .error f) →
    contentLoads xs ≠ [] ∨ courseLoads xs ≠ [] → c' = c
  /-- Whoever needs a structure that is missing asks for it. -/
  seeks : c.content? = none → Insists (q.seeks c) (contentLoads xs)
  /-- And whoever needs the descriptor. -/
  describes : c.course? = none → Insists (if q.describes then 1 else 0) (courseLoads xs)

theorem courseLoads_structural {α : Type} {l : Lookup α} (h : Within Request.structural l)
    {o : Except Failure α} (went : l.Goes c xs o c') : courseLoads xs = [] := by
  refine List.filterMap_eq_nil_iff.2 fun x member => ?_
  have kind := (h.goes went).1 x member
  obtain ⟨r, reply⟩ := x
  cases r with
  | loadCourse => exact kind.elim
  | _ => rfl

/-- A query for the descriptor is one load, unless it is at hand. -/
theorem goes_describes {q : Query} (describes : q.describes = true) {o : Except Failure Finding}
    (h : (consult q).Goes c xs o c') : ∃ (o' : Except Failure Course) (f : Course → Finding),
      o = o'.map f ∧ course.Goes c xs o' c' ∧ (q = .course → f = .course) ∧
        (q = .deadline → f = fun x => .instant x.ends) := by
  cases q with
  | course =>
    obtain ⟨o', rfl, went⟩ := goes_map h
    exact ⟨o', _, rfl, went, fun _ => rfl, nofun⟩
  | deadline =>
    obtain ⟨o₁, rfl, ended⟩ := goes_map h
    obtain ⟨o₂, rfl, went⟩ := goes_map ended
    exact ⟨o₂, fun x => .instant x.ends, by cases o₂ <;> rfl, went, nofun, fun _ => rfl⟩
  | _ => cases describes

theorem Sound.unhashed (sound : c.Sound) (missing : c.content? = none) : c.hash? = none := by
  cases hashed : c.hash? with
  | none => rfl
  | some h =>
    obtain ⟨x, held, -⟩ := sound h hashed
    cases missing.symm.trans held

/-- The fingerprint is that of the structure at hand. -/
theorem policyHash_held (sound : c.Sound) {x : ContentStructure} (held : c.content? = some x)
    {o : Except Failure PolicyHash} (h : policyHash.Goes c xs o c') :
    o = .ok x.gradingPolicy.hash := by
  rw [Lookup.Goes, dialogue_policyHash] at h
  cases hashed : c.hash? with
  | some hash =>
    rw [hashed] at h
    cases (Dialogue.goes_done.1 h).2
    obtain ⟨y, held', rfl⟩ := sound hash hashed
    cases held.symm.trans held'
    rfl
  | none =>
    rw [hashed, dialogue_content, held] at h
    cases (Dialogue.goes_done.1 h).2
    rfl

/-- Where every load failed, and there was one, nothing was found. -/
theorem unchanged_of_missed (sound : c.Sound) {q : Query} {o : Except Failure Finding}
    (h : (consult q).Goes c xs o c') (contents : ∀ r ∈ contentLoads xs, ∃ f, r = .error f)
    (courses : ∀ r ∈ courseLoads xs, ∃ f, r = .error f)
    (some : contentLoads xs ≠ [] ∨ courseLoads xs ≠ []) : c' = c := by
  cases describes : q.describes with
  | true =>
    obtain ⟨o', f, -, went, -⟩ := goes_describes describes h
    rcases course_cases went with
      ⟨x, -, rfl, -⟩ | ⟨-, ⟨entry, rfl⟩, ⟨x, rfl, -⟩ | ⟨f, -, same⟩⟩
    · exact (some.elim (· rfl) (· rfl)).elim
    · obtain ⟨f, impossible⟩ := courses (.ok x) List.mem_cons_self
      cases impossible
    · exact same
  | false =>
    have structural := structural_consult describes
    have filled := (structural.goes h).2
    have once := (frugal_consult q h).content
    have loaded : contentLoads xs ≠ [] :=
      some.resolve_right (not_not_intro (courseLoads_structural structural h))
    have missing : c.content? = none := by
      cases held : c.content? with
      | none => rfl
      | some x =>
        rw [held] at once
        exact absurd once.of_held.1 loaded
    have content : c'.content? = none := (once.eq_of_missed contents).trans missing
    have course := (spares_structural structural).course?_eq h
    have hash := (filled.sound sound).unhashed content
    rw [← missing] at content
    rw [← sound.unhashed missing] at hash
    obtain ⟨learner, key, course?, content?, hash?⟩ := c
    obtain ⟨learner', key', course?', content?', hash?'⟩ := c'
    cases filled.learner
    cases filled.key
    cases course
    cases content
    cases hash
    rfl

/-- **One consultation** answers from what is at hand, and asks for what is missing. -/
theorem consulted_of_goes (sound : c.Sound) {q : Query} {o : Except Failure Finding}
    (h : (consult q).Goes c xs o c') : Consulted c q xs o c' where
  content x held := by
    have once := (frugal_consult q h).content
    rw [held] at once
    refine ⟨once.of_held.1, once.of_held.2, ?_, ?_, ?_⟩
    · rintro rfl
      obtain ⟨o', rfl, went⟩ := goes_map h
      rcases content_cases went with ⟨y, held', -, rfl, -⟩ | ⟨missing, -⟩
      · cases held.symm.trans held'
        rfl
      · cases held.symm.trans missing
    · rintro rfl
      obtain ⟨o₁, rfl, looked⟩ := goes_map h
      obtain ⟨o₂, rfl, went⟩ := goes_map looked
      rcases content_cases went with ⟨y, held', -, rfl, -⟩ | ⟨missing, -⟩
      · cases held.symm.trans held'
        rfl
      · cases held.symm.trans missing
    · rintro rfl
      obtain ⟨o', rfl, went⟩ := goes_map h
      rw [policyHash_held sound held went]
      rfl
  course x held := by
    have once := (frugal_consult q h).course
    rw [held] at once
    have answer (describes : q.describes = true) : ∃ f : Course → Finding, o = .ok (f x) ∧
        (q = .course → f = .course) ∧ (q = .deadline → f = fun x => .instant x.ends) := by
      obtain ⟨o', f, rfl, went, course, deadline⟩ := goes_describes describes h
      rcases course_cases went with ⟨y, held', -, rfl, -⟩ | ⟨missing, -⟩
      · cases held.symm.trans held'
        exact ⟨f, rfl, course, deadline⟩
      · cases held.symm.trans missing
    refine ⟨once.of_held.1, once.of_held.2, ?_, ?_⟩
    · rintro rfl
      obtain ⟨f, rfl, same, -⟩ := answer rfl
      rw [same rfl]
    · rintro rfl
      obtain ⟨f, rfl, -, same⟩ := answer rfl
      rw [same rfl]
  missed := unchanged_of_missed sound h
  seeks missing := insists_consult missing (sound.unhashed missing) q h
  describes missing := by
    cases describes : q.describes with
    | true =>
      obtain ⟨o', f, -, went, -⟩ := goes_describes describes h
      rcases course_cases went with ⟨x, held, -⟩ | ⟨-, ⟨entry, rfl⟩, -⟩
      · cases missing.symm.trans held
      · exact .one o'
    | false =>
      rw [courseLoads_structural (structural_consult describes) h]
      exact .done

end Context

/-! ## Batches -/

namespace Batch

variable {e : GradeEngine} {b b' : Batch} {xs : List Exchange}

/-- What is exchanged for a batch after its start: its results, its end, and what it is asked
about the course, in any order. -/
inductive Continues (e : GradeEngine) (b : Batch) : List Exchange → Batch → Prop where
  | started : Continues e b [] b
  | next {xs ys : List Exchange} {b₁ b₂ : Batch} {r : Option GradeResult}
      (before : Continues e b xs b₁) (went : (b₁.next e).Goes ys (.done (r, b₂))) :
      Continues e b (xs ++ ys) b₂
  | closed {xs ys : List Exchange} {b₁ b₂ : Batch} (before : Continues e b xs b₁)
      (went : b₁.close.Goes ys (.done b₂)) : Continues e b (xs ++ ys) b₂
  | consulted {xs ys : List Exchange} {b₁ : Batch} {q : Context.Query}
      {o : Except Failure Context.Finding} {c : Context} (before : Continues e b xs b₁)
      (went : (Context.consult q).Goes b₁.context ys o c) :
      Continues e b (xs ++ ys) { b₁ with context := c }

theorem loads_close (h : b.close.Goes xs (.done b')) :
    contentLoads xs = [] ∧ b'.context = b.context := by
  obtain ⟨rfl | rfl, same⟩ := close_cases h <;> exact ⟨rfl, same⟩

section Calculating

variable (calculates : ∀ learner, Lookup.Frugal (e.calculator learner))
include calculates

/-- Every result is one resolution in a fork of the context, and loads what that needs. -/
theorem loads_next {r : Option GradeResult} (h : (b.next e).Goes xs (.done (r, b'))) :
    b'.context = b.context ∧ ∃ c', b.context.FilledOnce xs c' := by
  obtain ⟨same, ⟨learner, rest, ys, zs, o, c', -, rfl, resolved, logs, -⟩ | ⟨-, -, cleared⟩⟩ :=
    goes_next h
  · -- A fork has the cells of the context it comes from.
    have once : b.context.FilledOnce ys c' :=
      ⟨(GradeEngine.frugal_resolveHere calculates _ _ resolved).content,
        (GradeEngine.frugal_resolveHere calculates _ _ resolved).course⟩
    obtain ⟨none, none'⟩ := loads_logs logs
    refine ⟨same, c', ?_, ?_⟩
    · rw [contentLoads_append, none, List.append_nil]
      exact once.content
    · rw [courseLoads_append, none', List.append_nil]
      exact once.course
  · refine ⟨same, b.context, ?_⟩
    rcases cleared with rfl | rfl <;> exact ⟨.refl _, .refl _⟩

theorem Continues.loads {x : ContentStructure} (held : b.context.content? = some x)
    (h : Continues e b xs b') : contentLoads xs = [] ∧ b'.context.content? = some x := by
  induction h with
  | started => exact ⟨rfl, held⟩
  | next before went ih =>
    obtain ⟨same, c', once⟩ := loads_next calculates went
    have filled := once.content
    rw [ih.2] at filled
    rw [contentLoads_append, ih.1, filled.of_held.1, same]
    exact ⟨rfl, ih.2⟩
  | closed before went ih =>
    obtain ⟨none, same⟩ := loads_close went
    rw [contentLoads_append, ih.1, none, same]
    exact ⟨rfl, ih.2⟩
  | consulted before went ih =>
    have once := (Context.frugal_consult _ went).content
    rw [ih.2] at once
    rw [contentLoads_append, ih.1, once.of_held.1]
    exact ⟨rfl, once.of_held.2⟩

end Calculating

/-- A batch that could not have its structure did not start. -/
theorem loads_prepare {c c' : Context} {o : Except Failure Unit} (h : prepare.Goes c xs o c') :
    (contentLoads xs).length = (if c.content?.isSome then 0 else 1) ∧
      (o = .ok () → ∃ x, c'.content? = some x) := by
  rcases Lookup.goes_bind h with ⟨ys, zs, x, c₁, rfl, looked, rest⟩ | ⟨f, rfl, looked⟩
  · have held := Context.goes_content looked
    have later := (Lookup.frugal_bind GradeEngine.frugal_availableCourse
      fun _ => Lookup.frugal_pure ()) rest
    have none := later.content
    rw [held] at none
    refine ⟨?_, fun _ => ⟨x, none.of_held.2⟩⟩
    rw [contentLoads_append, none.of_held.1, List.append_nil]
    rcases Context.content_cases looked with ⟨y, held, rfl, -⟩ | ⟨missing, ⟨entry, rfl⟩, -⟩
    · rw [held]
      rfl
    · rw [missing]
      rfl
  · refine ⟨?_, nofun⟩
    rcases Context.content_cases looked with ⟨y, -, -, same, -⟩ | ⟨missing, ⟨entry, rfl⟩, -⟩
    · cases same
    · rw [missing]
      rfl

end Batch

/-! ## The whole -/

open Context (Grown Consulted)

/-- **A context is one snapshot.** For all inputs, all contexts forked from theirs and all
that is looked up on them, and whatever the loader replies:

* what the inputs supply is at hand in every context, and on each of them a structure is
  loaded at most once with success, and never when it was supplied, loaded or inherited; and
  so is the descriptor;
* what was answered so far is of the structure at hand;
* what is looked up next is answered from it, a load that fails leaves the context as it was,
  and whoever needs what is missing asks for it again.

A batch therefore loads one structure at its start if none is supplied, and never after that,
with every calculator that loads through its context only. -/
theorem one_snapshot {learner : Option LearnerId} {i : CourseInputs} {c : Context}
    (opened : Context.ofInputs learner i = .ok c) :
    (∀ branches, Grown c branches → ∀ b ∈ branches,
      ((∀ x, i.content = some x → b.born.content? = some x) ∧
        ∀ x, i.course = some x → b.born.course? = some x) ∧
      OneLoad b.born.content? (contentLoads b.exchanges) b.now.content? ∧
      OneLoad b.born.course? (courseLoads b.exchanges) b.now.course? ∧
      (∀ v ∈ b.past, ∀ f, v.outcome = .ok f → f.Agrees b.now) ∧
      ∀ q xs o c', (Context.consult q).Goes b.now xs o c' → Consulted b.now q xs o c') ∧
    ∀ (e : GradeEngine) (supply : Supply) (s : Strategy) (xs : List Exchange)
      (o : Except Failure Batch), (∀ learner, Lookup.Frugal (e.calculator learner)) →
      (Batch.start supply i s).Goes xs (.done o) →
      (contentLoads xs).length = (if i.content.isSome then 0 else 1) ∧
      ∀ b, o = .ok b → ∀ ys b', Batch.Continues e b ys b' → contentLoads ys = [] := by
  have root := Context.ofInputs_eq opened
  have content : c.content? = i.content := by rw [root]
  have course : c.course? = i.course := by rw [root]
  refine ⟨fun branches grown b member => ?_, fun e supply s xs o calculates went => ?_⟩
  · have kept := grown.kept (Context.sound_ofInputs opened) b member
    refine ⟨⟨fun x supplied => ?_, fun x supplied => ?_⟩, kept.once.content, kept.once.course,
      kept.agrees, fun q xs o c' went => Context.consulted_of_goes kept.sound went⟩
    · exact kept.content x (content.trans supplied)
    · exact kept.course x (course.trans supplied)
  · rcases Batch.goes_start went with ⟨x, refused, -⟩ | ⟨c₁, c', r, opened', prepared, rfl⟩
    · have agreed : ∃ key, i.agreedKey = .ok key := by
        cases agreed : i.agreedKey with
        | ok key => exact ⟨key, rfl⟩
        | error x => simp [Context.ofInputs, agreed] at opened
      obtain ⟨key, agreed⟩ := agreed
      simp [Context.ofInputs, agreed] at refused
    · have same : c₁.content? = i.content := by rw [Context.ofInputs_eq opened']
      obtain ⟨loads, found⟩ := Batch.loads_prepare prepared
      rw [same] at loads
      refine ⟨loads, fun b started ys b' continued => ?_⟩
      rcases r with f | u
      · cases started
      · cases started
        obtain ⟨x, held⟩ := found rfl
        exact (continued.loads calculates held).1

namespace Sample

/-- A loader that fails at first and then finds one version after the other. Everything else
is answered from an empty world. -/
def faltering : Dialogue.Answering Nat
  | .loadContent key, n => (match n with
    | 0 => .error (.error (.content (.unknownCourse key)))
    | 1 => .ok (course (some "v1") []).content
    | _ => .ok (course (some "v2") []).content, n + 1)
  | .loadCourse key, n => (.error (.error (.content (.unknownCourse key))), n)
  | r, n => ((World.answer r {}).1, n)

/-- A context that was asked once and then forked. -/
theorem asked_then_forked {σ : Type} (answer : Dialogue.Answering σ) (c : Context)
    (q : Context.Query) (s : σ) (learner : LearnerId) :
    let d := (Context.consult q).dialogue c
    Grown c [⟨c, [⟨q, d.exchanges answer s, (d.run answer s).1.1⟩], (d.run answer s).1.2⟩,
      .new ((d.run answer s).1.2.forLearner learner)] :=
  Grown.forked (n := 0) (Grown.consulted (n := 0) Grown.opened rfl
    (Dialogue.goes_run answer _ s)) rfl learner

end Sample

/-- The full text of a course takes two loads, since the first one fails. A fork has what the
second one found, and a batch what it loads itself. -/
theorem one_snapshot_faltering :
    let c : Context := ⟨none, Sample.key, none, none, none⟩
    let asked := ((Context.consult .fullText).dialogue c).exchanges Sample.faltering 0
    let ended := (((Context.consult .fullText).dialogue c).run Sample.faltering 0).1
    let fork := Context.Branch.new (ended.2.forLearner ⟨1⟩)
    let start := Batch.start [some Sample.learner] (.ofKey Sample.key) .forceUpdate
    (Grown c [⟨c, [⟨.fullText, asked, ended.1⟩], ended.2⟩, fork] ∧ (contentLoads asked).length = 2 ∧
      ∃ x, x.version = some "v1" ∧ ∀ xs o c', (Context.consult .content).Goes fork.now xs o c' →
        contentLoads xs = [] ∧ o = .ok (.content x)) ∧
    (contentLoads (start.exchanges Sample.faltering 2)).length = 1 ∧
      ∃ b, (start.run Sample.faltering 2).1 = .ok b ∧
        (b.context.content?.bind (·.version)) = some "v2" ∧
        ∀ ys b', Batch.Continues Sample.engine b ys b' → contentLoads ys = [] := by
  intro c asked ended fork start
  have opened : Context.ofInputs none (.ofKey Sample.key) = .ok c := rfl
  have grown : Grown c [⟨c, [⟨.fullText, asked, ended.1⟩], ended.2⟩, fork] :=
    Sample.asked_then_forked Sample.faltering c .fullText 0 ⟨1⟩
  obtain ⟨branches, batches⟩ := one_snapshot opened
  obtain ⟨-, -, -, -, next⟩ := branches _ grown fork (.tail _ (.head _))
  obtain ⟨one, later⟩ := batches Sample.engine _ _ _ _ Calculator.frugal_weighted
    (Dialogue.goes_run Sample.faltering start 2)
  refine ⟨⟨grown, by decide +kernel, ?_⟩, one.trans (if_neg (by decide)), ?_⟩
  · have version : (fork.now.content?.bind (·.version)) = some "v1" := by decide +kernel
    obtain ⟨x, held, version⟩ := Option.bind_eq_some_iff.1 version
    refine ⟨x, version, fun xs o c' went => ?_⟩
    obtain ⟨none, -, answered, -⟩ := (next .content xs o c' went).content x held
    exact ⟨none, answered rfl⟩
  · have begun : ((start.run Sample.faltering 2).1.toOption.bind
        (·.context.content?.bind (·.version))) = some "v2" := by decide +kernel
    obtain ⟨b, started, version⟩ := Option.bind_eq_some_iff.1 begun
    cases ended : (start.run Sample.faltering 2).1 with
    | error f =>
      rw [ended] at started
      cases started
    | ok b' =>
      rw [ended] at started later
      cases started
      exact ⟨b, rfl, version, later b rfl⟩

end Gradebook
