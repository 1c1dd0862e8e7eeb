/-
# Gradebook.Proofs.Loading — what a lookup loads, and how often

A cell of a context is filled by at most one load that succeeds, and once it is filled no
load is made (`OneLoad`). A lookup that keeps to this for both cells is `Frugal`: every
accessor is (`Context.frugal_consult`), so are the calculators at hand, and so is every part
of a resolution with a calculator that is.

The other way round, a structure that is missing is asked for by each accessor that needs it,
until it is found (`Insists`). The full text has three of them, and goes on after an error.
-/
import Gradebook.Proofs.Performances

namespace Gradebook

set_option autoImplicit false

/-! ## Cells and loads -/

/-- A cell, the replies of the loads made for it, and what it holds then. -/
inductive OneLoad {α : Type} : Option α → List (Except Failure α) → Option α → Prop where
  /-- What is at hand is not loaded. -/
  | held (x : α) : OneLoad (some x) [] (some x)
  /-- Loads that fail fill nothing. -/
  | missed (failures : List Failure) : OneLoad none (failures.map .error) none
  /-- The first load that succeeds is the last. -/
  | found (failures : List Failure) (x : α) :
    OneLoad none (failures.map .error ++ [.ok x]) (some x)

namespace OneLoad

variable {α : Type} {cell cell' cell'' : Option α} {rs rs' : List (Except Failure α)}

theorem refl (cell : Option α) : OneLoad cell [] cell := by
  cases cell with
  | none => exact .missed []
  | some x => exact .held x

theorem trans (h : OneLoad cell rs cell') (k : OneLoad cell' rs' cell'') :
    OneLoad cell (rs ++ rs') cell'' := by
  cases h with
  | held x => exact k
  | missed failures =>
    cases k with
    | missed more =>
      rw [← List.map_append]
      exact .missed (failures ++ more)
    | found more x =>
      rw [← List.append_assoc, ← List.map_append]
      exact .found (failures ++ more) x
  | found failures x =>
    cases k with
    | held => simpa using .found failures x

theorem once (reply : Except Failure α) : OneLoad none [reply] reply.toOption := by
  cases reply with
  | error f => exact .missed [f]
  | ok x => exact .found [] x

theorem of_held {x : α} (h : OneLoad (some x) rs cell') : rs = [] ∧ cell' = some x := by
  cases h
  exact ⟨rfl, rfl⟩

/-- Where no load succeeded, the cell holds what it did. -/
theorem eq_of_missed (h : OneLoad cell rs cell') (missed : ∀ r ∈ rs, ∃ f, r = .error f) :
    cell' = cell := by
  cases h with
  | held x => rfl
  | missed failures => rfl
  | found failures x =>
    obtain ⟨f, same⟩ := missed (.ok x) (List.mem_append_right _ List.mem_cons_self)
    cases same

end OneLoad

namespace Exchange

/-- How the loading of a structure ended, if it is that. -/
def contentLoad? : Exchange → Option (Except Failure ContentStructure)
  | ⟨.loadContent _, reply⟩ => some reply
  | _ => none

/-- How the loading of a descriptor ended, if it is that. -/
def courseLoad? : Exchange → Option (Except Failure Course)
  | ⟨.loadCourse _, reply⟩ => some reply
  | _ => none

end Exchange

/-- The replies to the loads of structures, in order. -/
def contentLoads (xs : List Exchange) : List (Except Failure ContentStructure) :=
  xs.filterMap Exchange.contentLoad?

/-- The replies to the loads of descriptors, in order. -/
def courseLoads (xs : List Exchange) : List (Except Failure Course) :=
  xs.filterMap Exchange.courseLoad?

@[simp] theorem contentLoads_append (xs ys : List Exchange) :
    contentLoads (xs ++ ys) = contentLoads xs ++ contentLoads ys := List.filterMap_append

@[simp] theorem courseLoads_append (xs ys : List Exchange) :
    courseLoads (xs ++ ys) = courseLoads xs ++ courseLoads ys := List.filterMap_append

/-- Nothing is loaded by it. -/
def Request.Loadless : Request → Prop
  | .loadCourse _ | .loadContent _ => False
  | _ => True

theorem Request.Loadless.loads {r : Request} (h : r.Loadless) (reply : r.Reply) :
    contentLoads [⟨r, reply⟩] = [] ∧ courseLoads [⟨r, reply⟩] = [] := by
  cases r with
  | loadCourse | loadContent => exact h.elim
  | _ => exact ⟨rfl, rfl⟩

/-- Entries in the log load nothing. -/
theorem loads_logs {xs : List Exchange} (logs : ∀ x ∈ xs, ∃ entry, x.1 = .log entry) :
    contentLoads xs = [] ∧ courseLoads xs = [] := by
  refine ⟨List.filterMap_eq_nil_iff.2 fun x member => ?_,
    List.filterMap_eq_nil_iff.2 fun x member => ?_⟩
  all_goals
    obtain ⟨entry, logged⟩ := logs x member
    obtain ⟨r, reply⟩ := x
    cases logged
    rfl

/-- Both cells of a context were filled by these exchanges. -/
structure Context.FilledOnce (c : Context) (xs : List Exchange) (c' : Context) : Prop where
  content : OneLoad c.content? (contentLoads xs) c'.content?
  course : OneLoad c.course? (courseLoads xs) c'.course?

namespace Context.FilledOnce

variable {c c' c'' : Context} {xs ys : List Exchange}

theorem refl (c : Context) : c.FilledOnce [] c := ⟨.refl _, .refl _⟩

theorem trans (h : c.FilledOnce xs c') (k : c'.FilledOnce ys c'') : c.FilledOnce (xs ++ ys) c'' :=
  ⟨by simpa using h.content.trans k.content, by simpa using h.course.trans k.course⟩

end Context.FilledOnce

/-! ## Frugal lookups -/

namespace Lookup

variable {α β : Type}

/-- It loads only for a cell that is empty, and fills it if it can. -/
def Frugal (l : Lookup α) : Prop :=
  ∀ ⦃c : Context⦄ ⦃xs : List Exchange⦄ ⦃o : Except Failure α⦄ ⦃c' : Context⦄,
    l.Goes c xs o c' → c.FilledOnce xs c'

theorem frugal_pure (a : α) : Frugal (pure a) := by
  intro c xs o c' h
  obtain ⟨rfl, -, rfl⟩ := goes_pure h
  exact .refl c'

theorem frugal_get : Frugal (get : Lookup Context) := by
  intro c xs o c' h
  obtain ⟨rfl, -, rfl⟩ := goes_get h
  exact .refl c'

theorem frugal_throw (f : Failure) : Frugal (throw f : Lookup α) := by
  intro c xs o c' h
  obtain ⟨rfl, same⟩ := Dialogue.goes_done.1 h
  cases same
  exact .refl c

theorem frugal_ask {r : Request} (loadless : r.Loadless) : Frugal (ask r) := by
  intro c xs o c' h
  obtain ⟨reply, rfl, -, rfl⟩ := goes_ask h
  obtain ⟨content, course⟩ := loadless.loads reply
  refine ⟨?_, ?_⟩
  · rw [content]
    exact .refl _
  · rw [course]
    exact .refl _

theorem frugal_log (level : LogLevel) (origin : LogOrigin) (message : String)
    (fields : List (String × String)) : Frugal (log level origin message fields) :=
  frugal_ask trivial

theorem frugal_bind {l : Lookup α} {f : α → Lookup β} (first : Frugal l)
    (next : ∀ a, Frugal (f a)) : Frugal (l >>= f) := by
  intro c xs o c' h
  rcases goes_bind h with ⟨ys, zs, a, c₁, rfl, before, after⟩ | ⟨f, -, failed⟩
  · exact (first before).trans (next a after)
  · exact first failed

theorem frugal_map {l : Lookup α} (f : α → β) (h : Frugal l) : Frugal (f <$> l) := by
  intro c xs o c' mapped
  obtain ⟨o', -, went⟩ := goes_map mapped
  exact h went

theorem frugal_attempt {l : Lookup α} (h : Frugal l) : Frugal (attempt l) := by
  intro c xs o c' tried
  obtain ⟨o', -, went⟩ := goes_attempt tried
  exact h went

theorem frugal_attempt? {l : Lookup α} (h : Frugal l) : Frugal (attempt? l) :=
  frugal_map _ (frugal_attempt h)

end Lookup

open Lookup

namespace Context

variable {c c' : Context} {xs : List Exchange}

theorem frugal_content : Frugal content := by
  intro c xs o c' h
  rcases content_cases h with
    ⟨x, -, rfl, -, rfl⟩ | ⟨empty, ⟨entry, rfl⟩, ⟨x, rfl, rfl⟩ | ⟨f, rfl, rfl⟩⟩
  · exact .refl c'
  · refine ⟨?_, .refl c.course?⟩
    rw [empty]
    exact .once (.ok x)
  · refine ⟨?_, .refl c'.course?⟩
    rw [empty]
    exact .once (.error f)

theorem frugal_course : Frugal course := by
  intro c xs o c' h
  rcases course_cases h with
    ⟨x, -, rfl, -, rfl⟩ | ⟨empty, ⟨entry, rfl⟩, ⟨x, rfl, rfl⟩ | ⟨f, rfl, rfl⟩⟩
  · exact .refl c'
  · refine ⟨.refl c.content?, ?_⟩
    rw [empty]
    exact .once (.ok x)
  · refine ⟨.refl c'.content?, ?_⟩
    rw [empty]
    exact .once (.error f)

theorem frugal_policyHash : Frugal policyHash := by
  refine frugal_bind frugal_get fun c => ?_
  cases c.hash? with
  | some hash => exact frugal_pure hash
  | none =>
    refine frugal_bind (frugal_map _ frugal_content) fun p => frugal_bind ?_ fun _ => frugal_pure _
    intro c xs o c' h
    obtain ⟨rfl, same⟩ := Dialogue.goes_done.1 h
    cases same
    exact ⟨.refl _, .refl _⟩

theorem frugal_contentVersion : Frugal contentVersion := by
  refine frugal_bind frugal_get fun c => ?_
  cases c.course? with
  | some x => exact frugal_pure _
  | none => exact frugal_map _ frugal_content

theorem frugal_contentEditedAt : Frugal contentEditedAt := by
  refine frugal_bind frugal_get fun c => ?_
  cases c.course? with
  | some x => exact frugal_pure _
  | none => exact frugal_map _ frugal_content

theorem frugal_fullText : Frugal fullText :=
  frugal_bind (frugal_attempt? frugal_contentVersion) fun _ =>
    frugal_bind (frugal_attempt? frugal_contentEditedAt) fun _ =>
      frugal_bind (frugal_attempt? frugal_policyHash) fun _ =>
        frugal_bind frugal_get fun _ => frugal_pure _

/-- **Every accessor** loads at most what is missing. -/
theorem frugal_consult (q : Query) : Frugal (consult q) := by
  cases q with
  | course => exact frugal_map _ frugal_course
  | content => exact frugal_map _ frugal_content
  | gradingPolicy => exact frugal_map _ (frugal_map _ frugal_content)
  | policyHash => exact frugal_map _ frugal_policyHash
  | contentVersion => exact frugal_map _ frugal_contentVersion
  | contentEditedAt => exact frugal_map _ frugal_contentEditedAt
  | deadline => exact frugal_map _ (frugal_map _ frugal_course)
  | fullText => exact frugal_map _ frugal_fullText

end Context

/-! ## Resolutions -/

theorem StoredGrade.frugal_record (learner : LearnerId) (b : GradeBreakdown)
    (previous : Option StoredGrade) (now : Instant) : Frugal (record learner b previous now) :=
  frugal_bind Context.frugal_contentVersion fun _ =>
    frugal_bind Context.frugal_contentEditedAt fun _ =>
      frugal_bind Context.frugal_policyHash fun _ =>
        frugal_bind frugal_get fun _ => frugal_pure _

namespace GradeEngine

theorem frugal_stored {α : Type} (o : Except StorageError α) : Frugal (stored o) := by
  cases o with
  | ok a => exact frugal_pure a
  | error x => exact frugal_throw _

theorem frugal_rowOf (learner : LearnerId) (key : CourseKey) : Frugal (rowOf learner key) :=
  frugal_bind (frugal_ask trivial) fun _ => frugal_stored _

theorem frugal_tell (notice : Notice) (report : DispatchReport) (listener : Listener) :
    Frugal (tell notice report listener) := by
  refine frugal_bind (frugal_ask trivial) fun delivery => ?_
  cases Delivery.failure? delivery with
  | none => exact frugal_pure _
  | some text => exact frugal_bind (frugal_log _ _ _ _) fun _ => frugal_pure _

theorem frugal_dispatch (e : GradeEngine) (notice : Notice) : Frugal (e.dispatch notice) := by
  unfold dispatch
  generalize ({} : DispatchReport) = report
  induction e.listeners generalizing report with
  | nil => exact frugal_pure _
  | cons listener rest ih =>
    rw [List.foldlM_cons]
    exact frugal_bind (frugal_tell notice report listener) ih

theorem frugal_readStored (e : GradeEngine) (learner : Learner) :
    Frugal (e.readStored learner) := by
  refine frugal_bind frugal_get fun c => ?_
  split
  · exact frugal_pure _
  · refine frugal_bind (frugal_rowOf _ _) fun found => ?_
    cases found with
    | none => exact frugal_pure _
    | some row => exact frugal_bind (frugal_log _ _ _ _) fun _ => frugal_pure _

theorem frugal_createZero (learner : Learner) : Frugal (createZero learner) :=
  frugal_bind frugal_get fun _ => frugal_bind (frugal_log _ _ _ _) fun _ => frugal_pure _

theorem frugal_keep (learner : Learner) (known : Option StoredGrade) (b : GradeBreakdown) :
    Frugal (keep learner known b) := by
  refine frugal_bind frugal_get fun c => ?_
  have rest (previous : Option StoredGrade) : Frugal (do
      let now ← ask .clock
      let row ← StoredGrade.record learner.id b previous now
      write row) :=
    frugal_bind (frugal_ask trivial) fun now =>
      frugal_bind (StoredGrade.frugal_record _ _ _ _) fun _ =>
        frugal_bind (frugal_ask trivial) fun _ => frugal_stored _
  cases known with
  | some row => exact rest (some row)
  | none => exact frugal_bind (frugal_rowOf _ _) rest

theorem frugal_availableCourse : Frugal availableCourse := by
  refine frugal_bind (frugal_attempt Context.frugal_course) fun o => ?_
  cases o with
  | ok course => exact frugal_pure _
  | error x =>
    exact frugal_bind frugal_get fun _ => frugal_bind (frugal_log _ _ _ _) fun _ => frugal_pure _

theorem frugal_announce (e : GradeEngine) (learner : Learner) (key : CourseKey)
    (b : GradeBreakdown) (kept : Bool) : Frugal (e.announce learner key b kept) := by
  refine frugal_bind frugal_availableCourse fun course => ?_
  refine frugal_bind (frugal_dispatch e _) fun _ => ?_
  have rest (grade : ResolvedGrade) : Frugal (do
      let full ← Context.fullText
      log .info .engine ("Grades: Update, " ++ full ++ ", User: " ++ learner.id.text ++ ", " ++
        grade.text ++ ", persisted: " ++ boolText kept)
      pure grade) :=
    frugal_bind Context.frugal_fullText fun _ =>
      frugal_bind (frugal_log _ _ _ _) fun _ => frugal_pure _
  dsimp only
  split
  · exact frugal_bind (frugal_dispatch e _) fun _ => rest _
  · exact rest _

theorem frugal_conclude (e : GradeEngine) (learner : Learner) (readOnly : Bool)
    (known : Option StoredGrade) (b : GradeBreakdown) :
    Frugal (e.conclude learner readOnly known b) := by
  refine frugal_bind frugal_get fun c => ?_
  dsimp only
  split
  · exact frugal_bind (frugal_keep learner known b) fun _ => frugal_announce e _ _ _ _
  · exact frugal_announce e _ _ _ _

section Calculating

variable {e : GradeEngine} (calculates : ∀ learner, Frugal (e.calculator learner))
include calculates

theorem frugal_recompute (learner : Learner) (readOnly : Bool) (known : Option StoredGrade) :
    Frugal (e.recompute learner readOnly known) :=
  frugal_bind (frugal_ask trivial) fun _ =>
    frugal_bind (calculates learner.id) fun _ => frugal_conclude e _ _ _ _

/-- **A resolution** loads at most what is missing, if its calculator does. -/
theorem frugal_resolveHere (learner : Learner) (s : Strategy) :
    Frugal (e.resolveHere learner s) := by
  have recompute := frugal_recompute calculates learner
  cases s with
  | forceUpdate => exact recompute false none
  | createIfStale =>
    refine frugal_bind (frugal_readStored e learner) fun found => ?_
    cases found with
    | some row =>
      refine frugal_bind Context.frugal_policyHash fun hash => ?_
      split
      · exact frugal_pure _
      · exact recompute false (some row)
    | none =>
      refine frugal_bind frugal_get fun c => ?_
      split
      · exact frugal_createZero learner
      · exact recompute true none

end Calculating

end GradeEngine

namespace Calculator

theorem frugal_weighted (learner : LearnerId) : Frugal (weighted learner) := by
  refine frugal_bind Context.frugal_content fun content => ?_
  cases content.gradingPolicy.validate with
  | error cause => exact frugal_throw _
  | ok _ =>
    refine frugal_bind (frugal_ask trivial) fun groups => ?_
    refine frugal_bind (frugal_ask trivial) fun scores => ?_
    cases scores with
    | error cause => exact frugal_throw _
    | ok scores => exact frugal_bind (frugal_log _ _ _ _) fun _ => frugal_pure _

theorem frugal_guard (t : Trouble) (learner : LearnerId) : Frugal (t.guard learner) := by
  unfold Trouble.guard
  split
  · exact frugal_throw _
  · split
    · exact frugal_throw _
    · exact frugal_pure _

theorem frugal_troubled (t : Trouble) (learner : LearnerId) : Frugal (troubled t learner) :=
  frugal_bind (frugal_guard t learner) fun _ => frugal_weighted learner

theorem frugal_scripted (b : GradeBreakdown) (looks : Bool) (t : Trouble) (learner : LearnerId) :
    Frugal (scripted b looks t learner) := by
  have rest : Frugal (do t.guard learner; pure b) :=
    frugal_bind (frugal_guard t learner) fun _ => frugal_pure b
  cases looks with
  | false => exact rest
  | true => exact frugal_bind Context.frugal_content fun _ => rest

end Calculator

/-! ## Asking again -/

/-- So many accessors need a structure, and each asks for it until there is one, or a crash
ends them. -/
inductive Insists {α : Type} : Nat → List (Except Failure α) → Prop where
  | done : Insists 0 []
  | again {n : Nat} {rs : List (Except Failure α)} (x : GradeError) (rest : Insists n rs) :
    Insists (n + 1) (.error (.error x) :: rs)
  | found {n : Nat} (x : α) : Insists (n + 1) [.ok x]
  | crashed {n : Nat} (k : Crash) : Insists (n + 1) [.error (.crash k)]

theorem Insists.one {α : Type} (reply : Except Failure α) : Insists 1 [reply] := by
  rcases reply with (x | k) | a
  · exact .again x .done
  · exact .crashed k
  · exact .found a

namespace Context

variable {α β : Type} {c c' : Context} {xs : List Exchange}

/-- From here it loads the structure once. What it ends in depends on the reply, and nothing
changes unless the load succeeded. -/
def Seeks (c : Context) (l : Lookup α) : Prop :=
  ∀ ⦃xs : List Exchange⦄ ⦃o : Except Failure α⦄ ⦃c' : Context⦄, l.Goes c xs o c' →
    ∃ (reply : Except Failure ContentStructure) (f : ContentStructure → α),
      contentLoads xs = [reply] ∧ o = reply.map f ∧
        ((∃ x, reply = .ok x ∧ c'.content? = some x) ∨ ∃ failure, reply = .error failure ∧ c' = c)

section Missing

variable (missing : c.content? = none)
include missing

theorem seeks_content : c.Seeks content := by
  intro xs o c' h
  rcases content_cases h with ⟨x, held, -⟩ | ⟨-, ⟨entry, rfl⟩, ended⟩
  · cases missing.symm.trans held
  · refine ⟨o, id, rfl, by cases o <;> rfl, ?_⟩
    rcases ended with ⟨x, rfl, rfl⟩ | failed
    · exact .inl ⟨x, rfl, rfl⟩
    · exact .inr failed

theorem seeks_policyHash (unhashed : c.hash? = none) : c.Seeks policyHash := by
  intro xs o c' h
  rw [Lookup.Goes, dialogue_policyHash, unhashed] at h
  obtain ⟨ys, zs, ⟨o', c₁⟩, rfl, looked, rest⟩ := Dialogue.goes_bind.1 h
  rcases content_cases looked with
    ⟨x, held, -⟩ | ⟨-, ⟨entry, rfl⟩, ⟨x, rfl, rfl⟩ | ⟨f, rfl, rfl⟩⟩
  · cases missing.symm.trans held
  all_goals
    obtain ⟨rfl, same⟩ := Dialogue.goes_done.1 rest
    cases same
  · exact ⟨_, fun x => x.gradingPolicy.hash, rfl, rfl, .inl ⟨x, rfl, rfl⟩⟩
  · exact ⟨_, fun x => x.gradingPolicy.hash, rfl, rfl, .inr ⟨f, rfl, rfl⟩⟩

end Missing

theorem Seeks.map {l : Lookup α} (h : c.Seeks l) (g : α → β) : c.Seeks (g <$> l) := by
  intro xs o c' mapped
  obtain ⟨o', rfl, went⟩ := goes_map mapped
  obtain ⟨reply, f, loads, rfl, ended⟩ := h went
  exact ⟨reply, g ∘ f, loads, by cases reply <;> rfl, ended⟩

/-- Trying once more, whether or not the first time succeeded. -/
theorem Seeks.again {l : Lookup α} (h : c.Seeks l) {f : Option α → Lookup β} {n : Nat}
    (frugal : ∀ a, Frugal (f a))
    (rest : ∀ a xs o c', (f a).Goes c xs o c' → Insists n (contentLoads xs))
    {o : Except Failure β} (went : (attempt? l >>= f).Goes c xs o c') :
    Insists (n + 1) (contentLoads xs) := by
  rcases goes_attempt? went with ⟨ys, zs, o₁, c₁, rfl, tried, calm, after⟩ | ⟨k, -, crashed⟩
  · obtain ⟨reply, g, loads, rfl, ended⟩ := h tried
    rw [contentLoads_append, loads]
    rcases ended with ⟨x, rfl, held⟩ | ⟨x | k, rfl, rfl⟩
    · have none := (frugal _ after).content
      rw [held] at none
      rw [none.of_held.1]
      exact .found x
    · exact .again x (rest _ _ _ _ after)
    · exact (calm k rfl).elim
  · obtain ⟨reply, g, loads, failed, -⟩ := h crashed
    rw [loads]
    cases reply with
    | ok x => cases failed
    | error f =>
      cases failed
      exact .crashed k

/-- The accessors of a query that need the structure, where it is missing. -/
def Query.seeks (q : Query) (c : Context) : Nat :=
  match q with
  | .content | .gradingPolicy | .policyHash => 1
  | .contentVersion | .contentEditedAt => if c.course?.isNone then 1 else 0
  | .fullText => if c.course?.isNone then 3 else 1
  | .course | .deadline => 0

theorem insists_of_seeks {l : Lookup α} (h : c.Seeks l) {o : Except Failure α}
    (went : l.Goes c xs o c') : Insists 1 (contentLoads xs) := by
  obtain ⟨reply, -, loads, -⟩ := h went
  rw [loads]
  exact .one reply

/-- What the descriptor at hand says is not looked for in the structure. -/
theorem seeks_byDescriptor {ofCourse : Course → α} {ofContent : ContentStructure → α}
    (missing : c.content? = none) (absent : c.course? = none) : c.Seeks (do
      match (← get).course? with
      | some x => pure (ofCourse x)
      | none => ofContent <$> content) := by
  intro xs o c' h
  rcases goes_byDescriptor h with ⟨x, held, -⟩ | ⟨-, o', rfl, went⟩
  · cases absent.symm.trans held
  · obtain ⟨reply, f, loads, rfl, ended⟩ := seeks_content missing went
    exact ⟨reply, ofContent ∘ f, loads, by cases reply <;> rfl, ended⟩

section Described

variable {ofCourse : Course → α} {ofContent : ContentStructure → α} {x : Course}
  (held : c.course? = some x)
include held

theorem goes_described {o : Except Failure α} (h : Lookup.Goes (do
      match (← get).course? with
      | some x => pure (ofCourse x)
      | none => ofContent <$> content) c xs o c') : xs = [] ∧ o = .ok (ofCourse x) ∧ c' = c := by
  rcases goes_bind h with ⟨ys, zs, here, c₁, rfl, got, rest⟩ | ⟨f, -, failed⟩
  · obtain ⟨rfl, same, same'⟩ := Lookup.goes_get got
    cases same
    cases same'
    rw [held] at rest
    obtain ⟨rfl, rfl, rfl⟩ := Lookup.goes_pure rest
    exact ⟨rfl, rfl, rfl⟩
  · cases (Lookup.goes_get failed).2.1

theorem goes_described_then {f : Option α → Lookup β} {o : Except Failure β}
    (h : Lookup.Goes (attempt? (do
        match (← get).course? with
        | some x => pure (ofCourse x)
        | none => ofContent <$> content) >>= f) c xs o c') :
    (f (some (ofCourse x))).Goes c xs o c' := by
  rcases goes_attempt? h with ⟨ys, zs, o₁, c₁, rfl, tried, -, after⟩ | ⟨k, -, crashed⟩
  · obtain ⟨rfl, rfl, rfl⟩ := goes_described held tried
    exact after
  · cases (goes_described held crashed).2.1

end Described

/-- The rest of the full text, when it has been tried to find version and time of edit. -/
def fullTextOf (version : Option (Option String)) (editedAt : Option (Option Instant)) :
    Lookup String := do
  let hash ← attempt? policyHash
  let c ← get
  pure (c.text ++ ", version: " ++ (version.join.getD "none") ++
    ", edited_on: " ++ ((editedAt.join.map (·.textWithOffset)).getD "none") ++
    ", grading_policy: " ++ ((hash.map (·.text)).getD "unknown"))

theorem fullText_eq : fullText = attempt? contentVersion >>= fun version =>
    attempt? contentEditedAt >>= fullTextOf version := rfl

theorem frugal_fullTextOf (version : Option (Option String)) (editedAt : Option (Option Instant)) :
    Frugal (fullTextOf version editedAt) :=
  frugal_bind (frugal_attempt? frugal_policyHash) fun _ =>
    frugal_bind frugal_get fun _ => frugal_pure _

section Missing

variable (missing : c.content? = none) (unhashed : c.hash? = none)
include missing unhashed

theorem insists_fullTextOf {version : Option (Option String)} {editedAt : Option (Option Instant)}
    {o : Except Failure String} (h : (fullTextOf version editedAt).Goes c xs o c') :
    Insists 1 (contentLoads xs) := by
  refine (seeks_policyHash missing unhashed).again
    (fun _ => frugal_bind frugal_get fun _ => frugal_pure _) (fun _ xs o c' h => ?_) h
  rcases goes_bind h with ⟨ys, zs, here, c₁, rfl, got, rest⟩ | ⟨f, -, failed⟩
  · obtain ⟨rfl, -, -⟩ := goes_get got
    obtain ⟨rfl, -, -⟩ := goes_pure rest
    exact .done
  · obtain ⟨rfl, -, -⟩ := goes_get failed
    exact .done

/-- The full text needs the structure for its fingerprint, and for version and time of edit
as well if there is no descriptor. -/
theorem insists_fullText {o : Except Failure String} (h : fullText.Goes c xs o c') :
    Insists (Query.fullText.seeks c) (contentLoads xs) := by
  rw [fullText_eq] at h
  cases held : c.course? with
  | some x =>
    have one := insists_fullTextOf missing unhashed
      (goes_described_then held (goes_described_then held h))
    simpa [Query.seeks, held] using one
  | none =>
    have three : Insists 3 (contentLoads xs) := by
      refine (seeks_byDescriptor missing held).again (fun version => ?_)
        (fun version ys o₁ c₁ rest => ?_) h
      · exact frugal_bind (frugal_attempt? frugal_contentEditedAt) (frugal_fullTextOf version)
      · exact (seeks_byDescriptor missing held).again (frugal_fullTextOf version)
          (fun _ _ _ _ last => insists_fullTextOf missing unhashed last) rest
    simpa [Query.seeks, held] using three

/-- **A structure that is missing is asked for** by every accessor that needs it. -/
theorem insists_consult (q : Query) {o : Except Failure Finding}
    (h : (consult q).Goes c xs o c') : Insists (q.seeks c) (contentLoads xs) := by
  have described {o : Except Failure Course} {c' : Context} (h : course.Goes c xs o c') :
      Insists 0 (contentLoads xs) := by
    rcases course_cases h with ⟨x, -, rfl, -⟩ | ⟨-, ⟨entry, rfl⟩, -⟩ <;> exact .done
  cases q with
  | course =>
    obtain ⟨o', rfl, went⟩ := goes_map h
    exact described went
  | deadline =>
    obtain ⟨o₁, rfl, ended⟩ := goes_map h
    obtain ⟨o₂, rfl, went⟩ := goes_map ended
    exact described went
  | content => exact insists_of_seeks ((seeks_content missing).map _) h
  | gradingPolicy => exact insists_of_seeks (((seeks_content missing).map _).map _) h
  | policyHash => exact insists_of_seeks ((seeks_policyHash missing unhashed).map _) h
  | contentVersion | contentEditedAt =>
    obtain ⟨o', rfl, went⟩ := goes_map h
    cases held : c.course? with
    | some x =>
      obtain ⟨rfl, -⟩ := goes_described held went
      simp only [Query.seeks, held]
      exact .done
    | none =>
      have one := insists_of_seeks (seeks_byDescriptor missing held) went
      simpa [Query.seeks, held] using one
  | fullText =>
    obtain ⟨o', rfl, went⟩ := goes_map h
    exact insists_fullText missing unhashed went

end Missing

end Context

end Gradebook
