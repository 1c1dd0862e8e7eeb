/-
# Gradebook.Proofs.Stamping — which edition a row is stamped with

Inputs determine an edition: of the course they supply, else of the structure that grades
are computed from (`Loader.determined`). A context takes the edition of the descriptor at
hand, and one is at hand as well once it has been looked for (`Loader.stamp`). Where the
loader's descriptor is of another edition, what was accessed before decides:

  before an update    nothing was looked for: its row has the edition determined
  before an element   the batch has looked for it: its row has the descriptor's edition

A context is `Filled` if all in it is the inputs' or the loader's, and the descriptor too if
it has been looked for. Each access keeps this (`Filled.consult`, `Filled.looked`,
`Filled.prepare`), and so do all of them in any order (`Accessed.filled`). The loader is any
two functions of the key, which may fail or crash, and which nobody edits meanwhile.
-/
import Gradebook.Proofs.History
import Gradebook.Proofs.LearnerView
import Gradebook.Proofs.Performances

namespace Gradebook

set_option autoImplicit false

open Lookup (Within within_bind within_pure)

/-- Version and time of edit. -/
abbrev Edition : Type := Option String × Option Instant

def Course.edition (x : Course) : Edition := (x.version, x.editedOn)

def ContentStructure.edition (x : ContentStructure) : Edition := (x.version, x.editedOn)

def StoredGrade.edition (row : StoredGrade) : Edition := (row.contentVersion, row.contentEditedAt)

/-- What is loaded for a key. -/
structure Loader where
  course : CourseKey → Except Failure Course
  content : CourseKey → Except Failure ContentStructure

namespace Loader

/-- What was loaded in an exchange was loaded by this loader. -/
def Serves (L : Loader) : Exchange → Prop
  | ⟨.loadCourse key, reply⟩ => reply = L.course key
  | ⟨.loadContent key, reply⟩ => reply = L.content key
  | _ => True

section Stamps

variable (L : Loader) (i : CourseInputs) (key : CourseKey)

/-- The structure that grades are computed from: the one supplied, else the one loaded. -/
def contentFor : Except Failure ContentStructure :=
  match i.content with
  | some x => .ok x
  | none => L.content key

/-- The edition that inputs determine: of the course supplied, else of the structure. -/
def determined : Except Failure Edition :=
  match i.course with
  | some x => .ok x.edition
  | none => (L.contentFor i key).map (·.edition)

/-- The descriptor at hand: the one supplied or, if it has been looked for, the one loaded. -/
def descriptor? (described : Bool) : Option Course :=
  i.course.or (if described then (L.course key).toOption else none)

/-- The edition found: of the descriptor at hand, else of the structure. -/
def stamp (described : Bool) : Except Failure Edition :=
  match L.descriptor? i key described with
  | some x => .ok x.edition
  | none => (L.contentFor i key).map (·.edition)

/-- Before the descriptor is looked for, the edition found is the one determined. -/
theorem stamp_false : L.stamp i key false = L.determined i key := by
  rw [stamp, determined, descriptor?, if_neg Bool.false_ne_true, Option.or_none]

/-- Once the descriptor is looked for, the edition found is the one determined exactly if a
course was supplied, or no descriptor can be loaded, or it is of this edition. -/
theorem stamp_true_iff : L.stamp i key true = L.determined i key ↔
    (i.course = none → ∀ x, L.course key = .ok x → L.determined i key = .ok x.edition) := by
  rw [stamp, determined, descriptor?, if_pos rfl]
  cases i.course with
  | some x => simp
  | none =>
    rw [Option.none_or]
    cases L.course key with
    | error f => simp [Except.toOption]
    | ok x => simp [Except.toOption, eq_comm]

variable {L i key}

/-- A descriptor at hand stays the one at hand. -/
theorem descriptor?_mono {described described' : Bool} (h : described = true → described' = true)
    {x : Course} (held : L.descriptor? i key described = some x) :
    L.descriptor? i key described' = some x := by
  cases described with
  | true => rwa [h rfl]
  | false =>
    rw [descriptor?, if_neg Bool.false_ne_true, Option.or_none] at held
    rw [descriptor?, held, Option.some_or]

/-- Without a descriptor at hand none was supplied. -/
theorem descriptor?_loaded {described : Bool} (empty : L.descriptor? i key described = none) :
    L.descriptor? i key true = (L.course key).toOption := by
  rw [descriptor?, (Option.or_eq_none_iff.1 empty).1, if_pos rfl, Option.none_or]

end Stamps

/-- All in the context is the inputs' or the loader's, and the descriptor is there if it was
supplied or can be loaded and has been looked for. -/
structure Filled (L : Loader) (i : CourseInputs) (described : Bool) (c : Context) : Prop where
  course : c.course? = L.descriptor? i c.key described
  content : ∀ x, c.content? = some x → L.contentFor i c.key = .ok x
  supplied : ∀ x, i.content = some x → c.content? = some x

variable {L : Loader} {i : CourseInputs} {described : Bool} {c c' : Context}
  {xs : List Exchange}

theorem filled_opened {learner : Option LearnerId} (opened : Context.ofInputs learner i = .ok c) :
    L.Filled i false c := by
  rw [Context.ofInputs_eq opened]
  refine ⟨?_, fun x held => ?_, fun _ held => held⟩
  · rw [descriptor?, if_neg Bool.false_ne_true, Option.or_none]
  · dsimp only at held
    rw [contentFor, held]

theorem Filled.forLearner (h : L.Filled i described c) (learner : LearnerId) :
    L.Filled i described (c.forLearner learner) := ⟨h.course, h.content, h.supplied⟩

/-- Content that was filled in is the one that grades are computed from. -/
theorem Filled.contentFor_of_filledBy (h : L.Filled i described c) (filled : c.FilledBy xs c')
    (served : ∀ x ∈ xs, L.Serves x) {x : ContentStructure} (held : c'.content? = some x) :
    L.contentFor i c'.key = .ok x := by
  rw [filled.key]
  rcases filled.contentFrom x held with here | loaded
  · exact h.content x here
  · have reply : .ok x = L.content c.key := served _ loaded
    rw [contentFor]
    cases supplied : i.content with
    | some y =>
      cases held.symm.trans (filled.content y (h.supplied y supplied))
      rfl
    | none => exact reply.symm

/-- Looking anything up looks for the descriptor if that was filled in. -/
theorem Filled.looked (h : L.Filled i described c) (filled : c.FilledBy xs c')
    (served : ∀ x ∈ xs, L.Serves x) :
    L.Filled i (described || (c.course?.isNone && c'.course?.isSome)) c' where
  content _ held := h.contentFor_of_filledBy filled served held
  supplied x held := filled.content x (h.supplied x held)
  course := by
    rw [filled.key]
    cases here : c.course? with
    | some x =>
      rw [filled.course x here]
      exact (descriptor?_mono (fun described => by rw [described]; rfl)
        (h.course.symm.trans here)).symm
    | none =>
      have empty := h.course.symm.trans here
      cases held : c'.course? with
      | none => rw [Option.isSome_none, Bool.and_false, Bool.or_false, empty]
      | some x =>
        rcases filled.courseFrom x held with same | loaded
        · cases here.symm.trans same
        · have reply : .ok x = L.course c.key := served _ loaded
          rw [Option.isNone_none, Option.isSome_some, Bool.and_true, Bool.or_true,
            descriptor?_loaded empty, ← reply]
          rfl

theorem Filled.spared (h : L.Filled i described c) (filled : c.FilledBy xs c')
    (served : ∀ x ∈ xs, L.Serves x) (same : c'.course? = c.course?) :
    L.Filled i described c' := by
  have looked := h.looked filled served
  rw [same] at looked
  cases here : c.course? with
  | none => simpa [here] using looked
  | some x => simpa [here] using looked

theorem Filled.structural {α : Type} {l : Lookup α} (h : L.Filled i described c)
    (within : Within Request.structural l) {o : Except Failure α} (went : l.Goes c xs o c')
    (served : ∀ x ∈ xs, L.Serves x) : L.Filled i described c' :=
  h.spared (within.goes went).2 served ((Context.spares_structural within).course?_eq went)

/-- The descriptor is looked for. -/
theorem Filled.describe (h : L.Filled i described c) {o : Except Failure Course}
    (went : Context.course.Goes c xs o c') (served : ∀ x ∈ xs, L.Serves x) :
    L.Filled i true c' := by
  have filled := (Context.within_course.goes went).2
  have looked := h.looked filled served
  refine ⟨?_, looked.content, looked.supplied⟩
  rw [filled.key]
  rcases Context.course_cases went with ⟨x, here, -, -, rfl⟩ | ⟨here, ⟨entry, rfl⟩, ended⟩
  · rw [filled.course x here]
    exact (descriptor?_mono (fun _ => rfl) (h.course.symm.trans here)).symm
  · have own : o = L.course c.key := served _ (List.mem_cons_of_mem _ List.mem_cons_self)
    rw [descriptor?_loaded (h.course.symm.trans here), ← own]
    rcases ended with ⟨x, rfl, rfl⟩ | ⟨f, rfl, rfl⟩
    · rfl
    · exact here

theorem Filled.consult (h : L.Filled i described c) {q : Context.Query}
    {o : Except Failure Context.Finding} (went : (Context.consult q).Goes c xs o c')
    (served : ∀ x ∈ xs, L.Serves x) : L.Filled i (described || q.describes) c' := by
  cases describes : q.describes with
  | false =>
    rw [Bool.or_false]
    exact h.structural (Context.structural_consult describes) went served
  | true =>
    rw [Bool.or_true]
    cases q with
    | course =>
      obtain ⟨_, -, looked⟩ := Lookup.goes_map went
      exact h.describe looked served
    | deadline =>
      obtain ⟨_, -, ends⟩ := Lookup.goes_map went
      obtain ⟨_, -, looked⟩ := Lookup.goes_map ends
      exact h.describe looked served
    | _ => cases describes

theorem Filled.availableCourse (h : L.Filled i described c) {found : Option Course}
    (went : GradeEngine.availableCourse.Goes c xs (.ok found) c')
    (served : ∀ x ∈ xs, L.Serves x) : L.Filled i true c' := by
  obtain ⟨ys, zs, tried, c₁, rfl, attempted, rest⟩ := Lookup.goes_bind_ok went
  obtain ⟨early, late⟩ := List.forall_mem_append.1 served
  obtain ⟨o, -, looked⟩ := Lookup.goes_attempt attempted
  have described := h.describe looked early
  cases tried with
  | ok x =>
    obtain ⟨rfl, -, rfl⟩ := Lookup.goes_pure rest
    exact described
  | error e =>
    refine described.structural ?_ rest late
    exact within_bind Lookup.within_get fun _ =>
      Lookup.within_map _ (Lookup.within_log _ _ _ _ fun _ => trivial)

/-- The snapshot of a batch has looked for the descriptor. -/
theorem Filled.prepare (h : L.Filled i described c) (went : Batch.prepare.Goes c xs (.ok ()) c')
    (served : ∀ x ∈ xs, L.Serves x) : L.Filled i true c' := by
  obtain ⟨ys, zs, _, c₁, rfl, content, rest⟩ := Lookup.goes_bind_ok went
  obtain ⟨early, late⟩ := List.forall_mem_append.1 served
  obtain ⟨_, -, available⟩ := Lookup.goes_map_ok rest
  exact (h.structural Context.structural_content content early).availableCourse available late

/-! ## What is found -/

theorem Filled.goes_content (h : L.Filled i described c) {o : Except Failure ContentStructure}
    (went : Context.content.Goes c xs o c') (served : ∀ x ∈ xs, L.Serves x) :
    o = L.contentFor i c.key := by
  rcases Context.content_cases went with ⟨x, here, -, rfl, -⟩ | ⟨here, ⟨entry, rfl⟩, -⟩
  · exact (h.content x here).symm
  · have own : o = L.content c.key := served _ (List.mem_cons_of_mem _ List.mem_cons_self)
    rw [own, contentFor]
    cases supplied : i.content with
    | some y => cases here.symm.trans (h.supplied y supplied)
    | none => rfl

/-- What is read off the edition is that of the stamp, or fails as the content does. -/
theorem Filled.goes_stamp {α : Type} {ofCourse : Course → α} {ofContent : ContentStructure → α}
    {ofEdition : Edition → α} (course : ∀ x : Course, ofEdition x.edition = ofCourse x)
    (structured : ∀ x : ContentStructure, ofEdition x.edition = ofContent x)
    (h : L.Filled i described c) {o : Except Failure α}
    (went : Lookup.Goes (do
      match (← get).course? with
      | some x => pure (ofCourse x)
      | none => ofContent <$> Context.content) c xs o c') (served : ∀ x ∈ xs, L.Serves x) :
    o = (L.stamp i c.key described).map ofEdition := by
  rw [stamp, ← h.course]
  rcases Context.goes_byDescriptor went with ⟨x, held, rfl, -⟩ | ⟨held, o, rfl, looked⟩
  · rw [held]
    exact congrArg Except.ok (course x).symm
  · rw [held, h.goes_content looked served]
    cases L.contentFor i c.key with
    | error f => rfl
    | ok x => exact congrArg Except.ok (structured x).symm

theorem Filled.stamp_of_edition? (h : L.Filled i described c) {edition : Edition}
    (found : c.edition? = some edition) : L.stamp i c.key described = .ok edition := by
  rw [stamp, ← h.course]
  rw [Context.edition?] at found
  cases here : c.course? with
  | some x =>
    rw [here] at found
    exact congrArg Except.ok (Option.some.inj found)
  | none =>
    rw [here] at found
    obtain ⟨x, held, rfl⟩ := Option.map_eq_some_iff.1 found
    dsimp only
    rw [h.content x held]
    rfl

end Loader

/-! ## Rows -/

/-- To compute a grade, the descriptor is not loaded. -/
def Calculator.Spares (k : Calculator) : Prop := ∀ learner, Within Request.spares (k learner)

theorem Calculator.spares_weighted : Calculator.weighted.Spares :=
  within_computeWeighted (fun _ => Request.spares_of_structural) (fun _ _ => trivial)
    fun _ _ _ => trivial

namespace Performance

variable (p : Performance) (L : Loader) (i : CourseInputs)

/-- Every row written has this stamp, or the one with the descriptor if the calculator is one that
may look for it. -/
def Stamps (described : Bool) : Prop :=
  ∀ row ∈ written p.exchanges, L.stamp i row.courseKey described = .ok row.edition ∨
    (¬p.engine.calculator.Spares ∧ L.stamp i row.courseKey true = .ok row.edition)

/-- A create or an update on these inputs, served by this loader. -/
structure Single : Prop where
  single : ∃ learner, p.operation = .create learner i ∨ p.operation = .update learner i
  served : ∀ x ∈ p.exchanges, L.Serves x

/-- An element of a batch of these inputs, served by this loader from its start. -/
structure Continues : Prop where
  next : ∃ supply s xs b₀ b, (Batch.start supply i s).Goes xs (.done (.ok b₀)) ∧
    (∀ x ∈ xs, L.Serves x) ∧ b.context = b₀.context ∧ p.operation = .next b
  served : ∀ x ∈ p.exchanges, L.Serves x

end Performance

namespace Loader

variable {L : Loader} {i : CourseInputs} {described : Bool} {c c' : Context}
  {xs : List Exchange}

/-- **The stamp of a row**: that of the context of its resolution, or that of the descriptor if
the calculator looked for one. -/
theorem stamps_of_filled {p : Performance}
    (filled : ∀ learner s c, p.operation.resolving? = some (learner, s, c) → L.Filled i described c)
    (served : ∀ x ∈ p.exchanges, L.Serves x) : p.Stamps L i described := by
  intro row member
  rcases p.upsert with silent | ⟨learner, s, c, ys, zs, b, previous, now, row', c', named, same,
    prepared, announces⟩
  · rw [silent] at member
    cases member
  · have h := filled learner s c named
    rw [(Performance.seen_of_prepared same prepared announces).1] at member
    cases List.mem_singleton.1 member
    have early : ∀ x ∈ ys, L.Serves x := fun x member =>
      served x (same ▸ List.mem_append_left _ member)
    rw [prepared.records.courseKey]
    by_cases spares : p.engine.calculator.Spares
    · obtain ⟨us, vs, readOnly, known, c₁, -, reached, -, kept⟩ := prepared.reached
      have within : Within Request.spares (p.engine.reach learner s) :=
        GradeEngine.within_reach (fun _ => Request.spares_of_structural) (fun _ _ => trivial)
          (fun _ => trivial) (spares learner.id) s
      have filled := h.spared prepared.filled early (kept.trans (within.course?_eq reached))
      exact .inl (filled.stamp_of_edition? prepared.records.edition)
    · have found := (h.looked prepared.filled early).stamp_of_edition? prepared.records.edition
      cases loaded : c.course?.isNone && c'.course?.isSome with
      | false =>
        rw [loaded, Bool.or_false] at found
        exact .inl found
      | true =>
        rw [loaded, Bool.or_true] at found
        exact .inr ⟨spares, found⟩

/-- A context of these inputs after accesses in any order, with this loader, and whether the
descriptor has been looked for. -/
inductive Accessed (L : Loader) (i : CourseInputs) : Bool → Context → Prop where
  | opened {learner : Option LearnerId} {c : Context}
    (opened : Context.ofInputs learner i = .ok c) : Accessed L i false c
  | consulted {described : Bool} {c c' : Context} {q : Context.Query} {xs : List Exchange}
    {o : Except Failure Context.Finding} (before : Accessed L i described c)
    (went : (Context.consult q).Goes c xs o c') (served : ∀ x ∈ xs, L.Serves x) :
    Accessed L i (described || q.describes) c'
  | forked {described : Bool} {c : Context} (before : Accessed L i described c)
    (learner : LearnerId) : Accessed L i described (c.forLearner learner)
  /-- A resolution in the context itself has looked for the descriptor if it filled that in. -/
  | resolved {described : Bool} {c c' : Context} {e : GradeEngine} {learner : Learner}
    {s : Strategy} {xs : List Exchange} {o : Except Failure ResolvedGrade}
    (before : Accessed L i described c) (went : (e.resolveHere learner s).Goes c xs o c')
    (served : ∀ x ∈ xs, L.Serves x) :
    Accessed L i (described || (c.course?.isNone && c'.course?.isSome)) c'
  | prepared {described : Bool} {c c' : Context} {xs : List Exchange}
    (before : Accessed L i described c) (went : Batch.prepare.Goes c xs (.ok ()) c')
    (served : ∀ x ∈ xs, L.Serves x) : Accessed L i true c'

theorem filledBy_resolveHere {e : GradeEngine} {learner : Learner} {s : Strategy}
    {o : Except Failure ResolvedGrade} (went : (e.resolveHere learner s).Goes c xs o c') :
    c.FilledBy xs c' := by
  have asks : Within (fun _ => True) (e.resolveHere learner s) :=
    GradeEngine.within_resolveHere (fun _ _ => trivial) (fun _ _ => trivial) e learner s
  exact (asks.goes went).2

/-- **Accesses in any order** fill a context with what is the inputs' and the loader's. -/
theorem Accessed.filled (h : L.Accessed i described c) : L.Filled i described c := by
  induction h with
  | opened opened => exact filled_opened opened
  | consulted _ went served before => exact before.consult went served
  | forked _ learner before => exact before.forLearner learner
  | resolved _ went served before => exact before.looked (filledBy_resolveHere went) served
  | prepared _ went served before => exact before.prepare went served

/-- A batch of these inputs begins with a context that has looked for the descriptor. -/
theorem accessed_start {supply : Supply} {s : Strategy} {b : Batch}
    (started : (Batch.start supply i s).Goes xs (.done (.ok b)))
    (served : ∀ x ∈ xs, L.Serves x) : L.Accessed i true b.context := by
  rcases Batch.goes_start started with ⟨x, -, -, refused⟩ | ⟨c, c', r, opened, prepared, begun⟩
  · cases refused
  · cases r with
    | error f => cases begun
    | ok u =>
      cases begun
      exact .prepared (.opened opened) prepared served

theorem stamps_single {p : Performance} (single : p.Single L i) : p.Stamps L i false := by
  obtain ⟨⟨learner, one⟩, served⟩ := single
  refine stamps_of_filled (fun learner' s c named => ?_) served
  rcases one with one | one
  all_goals
    rw [one] at named
    obtain ⟨-, -, opened⟩ := Session.opened_of_map named
    exact filled_opened opened

theorem stamps_continue {p : Performance} (continues : p.Continues L i) : p.Stamps L i true := by
  obtain ⟨⟨supply, s, xs, b₀, b, started, loaded, same, next⟩, served⟩ := continues
  have begun := accessed_start started loaded
  refine stamps_of_filled (fun learner s c named => ?_) served
  simp only [next, GradeEngine.Operation.resolving?] at named
  split at named
  · cases named
    rw [same]
    exact (begun.forked learner.id).filled
  · cases named

/-- What a world loads. -/
def ofWorld (w : World) : Loader where
  course key := (w.loadCourse key).1
  content key := (w.loadContent key).1

/-- As long as nobody edits it, a world is served by one loader. -/
theorem serves_exchanges {α : Type} {w w' : World} (same : w.SameSource w') (d : Dialogue α) :
    ∀ x ∈ d.exchanges World.answer w', (ofWorld w).Serves x := by
  induction d generalizing w' with
  | done a => exact fun x member => (nomatch member)
  | ask r next ih =>
    refine List.forall_mem_cons.2 ⟨?_, ih _ (same.trans (World.sameSource_answer r w'))⟩
    cases r with
    | loadCourse key => exact same.loadCourse_eq key
    | loadContent key => exact same.loadContent_eq key
    | _ => trivial

end Loader

namespace Sample

/-- An operation on the small course, in a world. -/
def performance (w : World) (op : GradeEngine.Operation) : Performance :=
  ⟨engine, op, (op.outcome engine).exchanges World.answer w, _,
    Dialogue.goes_run World.answer (op.outcome engine) w⟩

/-- A batch of one learner on a snapshot. -/
def batch (course : Course) (content : ContentStructure) : Batch :=
  ⟨[some learner], ⟨none, key, some course, some content, none⟩, .forceUpdate, { key }⟩

theorem single (w : World) (i : CourseInputs) :
    (performance w (.update learner i)).Single (.ofWorld w) i :=
  ⟨⟨learner, .inr rfl⟩, Loader.serves_exchanges ⟨rfl, rfl⟩ _⟩

theorem continues {w : World} {i : CourseInputs} {course : Course} {content : ContentStructure}
    (started : ((Batch.start [some learner] i .forceUpdate).run World.answer w).1 =
      .ok (batch course content)) :
    (performance w (.next (batch course content))).Continues (.ofWorld w) i := by
  let start := Batch.start [some learner] i .forceUpdate
  have went := Dialogue.goes_run World.answer start w
  rw [started] at went
  exact ⟨⟨_, _, _, _, _, went, Loader.serves_exchanges ⟨rfl, rfl⟩ start, rfl, rfl⟩,
    Loader.serves_exchanges ⟨rfl, rfl⟩ _⟩

end Sample

namespace Loader

/-- **What is stamped.** The version and the time of edit found in a context are those of the
descriptor at hand, else those of the structure: whatever was accessed before, all that counts
is whether the descriptor has been looked for. So a row has the edition the inputs determine
if a create or an update writes it, and that of the descriptor the batch looked for if an
element of a batch does; and these are one and the same exactly if a course was supplied, or
no descriptor can be loaded, or it is of the edition determined. -/
theorem stamps_exact (L : Loader) (i : CourseInputs) :
    (∀ described c, L.Accessed i described c →
      (∀ xs o c', Context.contentVersion.Goes c xs o c' → (∀ x ∈ xs, L.Serves x) →
        o = (L.stamp i c.key described).map (·.1)) ∧
      (∀ xs o c', Context.contentEditedAt.Goes c xs o c' → (∀ x ∈ xs, L.Serves x) →
        o = (L.stamp i c.key described).map (·.2)) ∧
      ∀ p : Performance, ∀ learner s, p.operation = .resolve learner c s →
        (∀ x ∈ p.exchanges, L.Serves x) → p.Stamps L i described) ∧
    (∀ p : Performance, p.Single L i → p.Stamps L i false) ∧
    (∀ p : Performance, p.Continues L i → p.Stamps L i true) ∧
    ∀ key, L.stamp i key false = L.determined i key ∧
      (L.stamp i key true = L.determined i key ↔
        (i.course = none → ∀ x, L.course key = .ok x → L.determined i key = .ok x.edition)) := by
  refine ⟨fun described c accessed => ⟨?_, ?_, ?_⟩, fun p => stamps_single,
    fun p => stamps_continue, fun key => ⟨L.stamp_false i key, L.stamp_true_iff i key⟩⟩
  · exact fun xs o c' went served =>
      accessed.filled.goes_stamp (fun _ => rfl) (fun _ => rfl) went served
  · exact fun xs o c' went served =>
      accessed.filled.goes_stamp (fun _ => rfl) (fun _ => rfl) went served
  · intro p learner s resolve served
    refine stamps_of_filled (fun learner' s' c' named => ?_) served
    rw [resolve] at named
    cases named
    exact accessed.filled

/-- A course is supplied, an older version than the one loaded: the rows of an update and of a
batch have the older version. -/
theorem stamps_exact_course_supplied :
    let supplied := (Sample.course (some "v1") []).course
    let i : CourseInputs := { course := some supplied }
    let d := Sample.course (some "v2") ["hw1"]
    let L := ofWorld (Sample.world d)
    let p := Sample.performance (Sample.world d) (.update Sample.learner i)
    let q := Sample.performance (Sample.world d) (.next (Sample.batch supplied d.content))
    (p.Single L i ∧ q.Continues L i) ∧
      (written p.exchanges ++ written q.exchanges).map (·.contentVersion) =
        [some "v1", some "v1"] ∧
      ∀ row ∈ written p.exchanges ++ written q.exchanges,
        L.determined i row.courseKey = .ok row.edition := by
  intro supplied i d L p q
  have single : p.Single L i := Sample.single _ i
  have continues : q.Continues L i := Sample.continues rfl
  refine ⟨⟨single, continues⟩, by decide +kernel, fun row member => ?_⟩
  obtain ⟨-, singles, batches, exact⟩ := stamps_exact L i
  obtain ⟨before, after⟩ := exact row.courseKey
  rcases List.mem_append.1 member with own | own
  · rw [← before]
    exact (singles p single row own).resolve_right fun looked => looked.1 Calculator.spares_weighted
  · rw [← after.2 fun none => by cases none]
    exact (batches q continues row own).resolve_right fun looked =>
      looked.1 Calculator.spares_weighted

/-- A structure is supplied, an older version than the descriptor loaded: the row of an update
has the older version, which the inputs determine, and the row of a batch the other one. So
does a context, once the deadline has been asked for. -/
theorem batch_stamps_loaded_version :
    let supplied := (Sample.course (some "v1") ["hw1"]).content
    let i : CourseInputs := { content := some supplied }
    let d := Sample.course (some "v2") ["hw1"]
    let L := ofWorld (Sample.world d)
    let p := Sample.performance (Sample.world d) (.update Sample.learner i)
    let q := Sample.performance (Sample.world d) (.next (Sample.batch d.course supplied))
    (p.Single L i ∧ q.Continues L i) ∧ L.determined i Sample.key = .ok supplied.edition ∧
      (written p.exchanges).map StoredGrade.edition = [supplied.edition] ∧
      (written q.exchanges).map StoredGrade.edition = [d.course.edition] ∧
      supplied.edition ≠ d.course.edition ∧
      ∃ c, L.Accessed i true c ∧ Context.contentVersion.Goes c [] (.ok (some "v2")) c := by
  intro supplied i d L p q
  refine ⟨⟨Sample.single _ i, Sample.continues rfl⟩, rfl, by decide +kernel, by decide +kernel,
    by decide, ⟨none, Sample.key, some d.course, some supplied, none⟩, ?_, .here _⟩
  let before : Context := ⟨none, Sample.key, none, some supplied, none⟩
  let deadline := (Context.consult .deadline).dialogue before
  have opened : L.Accessed i false before := .opened rfl
  have went := Dialogue.goes_run World.answer deadline (Sample.world d)
  exact opened.consulted (q := .deadline) went (serves_exchanges ⟨rfl, rfl⟩ deadline)

end Loader

end Gradebook
