/-
# Gradebook.Proofs.Committing — what can fail comes before what shows

Of all that an operation asks for, others see three things: a row written, a listener told,
derived data cleared (`Request.shows`). `Dialogue.Commits t early late d` says of the whole
tree, within the terms `t`, that a branch on which nothing has shown ends in `early`, and one
on which something has shown ends in `late`.

`settles_resolveHere` is the result for a resolution. Before its row is written it may fail
with whatever the loader, the store or the calculator fail with; after that nothing but a
crash of the loader can end it. Since it is about every branch, it holds in surroundings that
fail at will, and `Commits.run` brings it back to one run in them.
-/
import Gradebook.Proofs.Resolving

namespace Gradebook

set_option autoImplicit false

open Dialogue (Honors KeptBy)
open Lookup (Meets meets_pure meets_bind meets_ask meets_get meets_throw meets_attempt)

namespace Notice

/-- Whose grade a notice is about. -/
def learner : Notice → LearnerId
  | .changed learner .. => learner.id
  | .nowPassed learner _ => learner.id

end Notice

namespace Request

/-- Others see it: a row that is written, a listener that is told, derived data that is
cleared. A row that is refused is not seen. -/
def shows : (r : Request) → r.Reply → Prop
  | .putRow _, reply => Except.isOk reply
  | .deliver _ _, _ | .clear _, _ => True
  | _, _ => False

/-- Nobody sees it, whatever the reply. -/
def discreet : Request → Prop
  | .putRow _ | .deliver _ _ | .clear _ => False
  | _ => True

theorem not_shows {r : Request} (h : r.discreet) (reply : r.Reply) : ¬r.shows reply := by
  cases r <;> first | exact h.elim | exact id

theorem discreet_of_consults {r : Request} (h : r.consults) : r.discreet := by
  cases r <;> first | exact h.elim | trivial

theorem discreet_of_looks {r : Request} (h : r.looks) : r.discreet :=
  discreet_of_consults (consults_of_looks h)

/-- What a resolution asks for a learner, apart from loading the course and computing. -/
def concerns (learner : LearnerId) : Request → Prop
  | .findRow other _ | .computing other => other = learner
  | .putRow row => row.learner = learner
  | .deliver _ notice => notice.learner = learner
  | .clock | .log _ => True
  | _ => False

end Request

/-- The same terms, but nothing that shows may be asked. -/
def Terms.discreet (t : Terms) : Terms where
  asks r := t.asks r ∧ r.discreet
  given := t.given

/-! ## Dialogues -/

namespace Dialogue

variable {α β σ τ : Type} {t : Terms}

/-- An end in `early` where nothing has shown, and in `late` where something has. -/
def Commits (t : Terms) (early late : α → Prop) : Dialogue α → Prop
  | .done a => early a
  | .ask r next => t.asks r ∧ ∀ reply, t.given r reply →
      (¬r.shows reply → Commits t early late (next reply)) ∧
      (r.shows reply → Honors t late (next reply))

theorem Honors.weaken {t' : Terms} {ends : α → Prop} {d : Dialogue α} (h : Honors t ends d)
    (asks : ∀ r, t.asks r → t'.asks r) (given : ∀ r reply, t'.given r reply → t.given r reply) :
    Honors t' ends d := by
  induction d with
  | done a => exact h
  | ask r next ih =>
    exact ⟨asks r h.1, fun reply inside => ih reply (h.2 reply (given r reply inside))⟩

theorem commits_bind {early late : α → Prop} {early' late' : β → Prop} {d : Dialogue α}
    {f : α → Dialogue β} (h : Commits t early late d)
    (ahead : ∀ a, early a → Commits t early' late' (f a))
    (behind : ∀ a, late a → Honors t late' (f a)) : Commits t early' late' (d >>= f) := by
  induction d with
  | done a => exact ahead a h
  | ask r next ih =>
    refine ⟨h.1, fun reply given => ⟨fun hidden => ?_, fun shown => ?_⟩⟩
    · exact ih reply ((h.2 reply given).1 hidden)
    · have rest := (h.2 reply given).2 shown
      exact (honors_bind late' (next reply) f).2 (rest.imp behind)

theorem Commits.imp {early late early' late' : α → Prop} {d : Dialogue α}
    (h : Commits t early late d) (ahead : ∀ a, early a → early' a)
    (behind : ∀ a, late a → late' a) : Commits t early' late' d := by
  induction d with
  | done a => exact ahead a h
  | ask r next ih =>
    refine ⟨h.1, fun reply given => ⟨fun hidden => ?_, fun shown => ?_⟩⟩
    · exact ih reply ((h.2 reply given).1 hidden)
    · exact ((h.2 reply given).2 shown).imp behind

theorem commits_map {early late : β → Prop} {d : Dialogue α} {f : α → β}
    (h : Commits t (fun a => early (f a)) (fun a => late (f a)) d) :
    Commits t early late (f <$> d) := by
  rw [← bind_pure_comp]
  exact commits_bind h (fun _ ended => ended) fun _ ended => ended

/-- What ends well after something has shown ends well anyhow. -/
theorem Honors.commits {early late : α → Prop} {d : Dialogue α} (h : Honors t late d)
    (le : ∀ a, late a → early a) : Commits t early late d := by
  induction d with
  | done a => exact le a h
  | ask r next ih =>
    exact ⟨h.1, fun reply given => ⟨fun _ => ih reply (h.2 reply given), fun _ => h.2 reply given⟩⟩

/-- A dialogue of discreet requests is before anything that shows. -/
theorem commits_of_discreet {early late : α → Prop} {d : Dialogue α}
    (h : Honors t.discreet early d) : Commits t early late d := by
  induction d with
  | done a => exact h
  | ask r next ih =>
    obtain ⟨⟨asks, discreet⟩, rest⟩ := h
    refine ⟨asks, fun reply given => ⟨fun _ => ih reply (rest reply given), fun shown => ?_⟩⟩
    exact absurd shown (Request.not_shows discreet reply)

/-- Discreet requests go ahead of what commits. -/
theorem commits_discreet_bind {early late : β → Prop} {mid : α → Prop} {d : Dialogue α}
    {f : α → Dialogue β} (h : Honors t.discreet mid d)
    (next : ∀ a, mid a → Commits t early late (f a)) : Commits t early late (d >>= f) := by
  have first : Commits t mid (fun _ => False) d := commits_of_discreet h
  exact commits_bind first next fun _ => False.elim

theorem Commits.honors {early late : α → Prop} {d : Dialogue α} (h : Commits t early late d) :
    Honors t (fun a => early a ∨ late a) d := by
  induction d with
  | done a => exact .inl h
  | ask r next ih =>
    refine ⟨h.1, fun reply given => ?_⟩
    by_cases shown : r.shows reply
    · exact ((h.2 reply given).2 shown).imp fun _ => Or.inr
    · exact ih reply ((h.2 reply given).1 shown)

/-- **A run shows nothing before it commits**: it ends in `early`, and all that only visible
requests change is as it was, or it ends in `late`. -/
theorem Commits.run {early late : α → Prop} {d : Dialogue α} (h : Commits t early late d)
    {answer : Answering σ} {I : σ → Prop} (kept : KeptBy t answer I) (seen : σ → τ)
    (hides : ∀ r s, I s → ¬r.shows (answer r s).1 → seen (answer r s).2 = seen s) {s : σ}
    (start : I s) :
    (early (run answer d s).1 ∧ seen (run answer d s).2 = seen s) ∨ late (run answer d s).1 := by
  induction d generalizing s with
  | done a => exact .inl ⟨h, rfl⟩
  | ask r next ih =>
    have ⟨given, still⟩ := kept r s start h.1
    have rest := h.2 _ given
    by_cases shown : r.shows (answer r s).1
    · exact .inr ((rest.2 shown).run kept still).1
    · rcases ih _ (rest.1 shown) still with ⟨ended, same⟩ | ended
      · exact .inl ⟨ended, same.trans (hides r s start shown)⟩
      · exact .inr ended

end Dialogue

open Dialogue (Commits commits_bind commits_of_discreet commits_discreet_bind)

/-! ## Lookups -/

namespace Lookup

variable {α β : Type} {t : Terms} {I : Context → Prop} {F G : Failure → Prop}

theorem Meets.weaken {t' : Terms} {P : Context → Prop} {l : Lookup α} {Q : α → Context → Prop}
    {E : Failure → Context → Prop} (h : Meets t P l Q E) (asks : ∀ r, t.asks r → t'.asks r)
    (given : ∀ r reply, t'.given r reply → t.given r reply) : Meets t' P l Q E :=
  fun c start => (h c start).weaken asks given

/-- From a context with `I` to a value or a failure of `F`, and the context still has `I`. -/
def Tries (t : Terms) (I : Context → Prop) (F : Failure → Prop) (l : Lookup α) : Prop :=
  Meets t I l (fun _ => I) fun f c => F f ∧ I c

theorem tries_pure (a : α) : Tries t I F (pure a) := meets_pure fun _ h => h

theorem tries_bind {l : Lookup α} {f : α → Lookup β} (first : Tries t I F l)
    (next : ∀ a, Tries t I F (f a)) : Tries t I F (l >>= f) := meets_bind first next

theorem tries_map {l : Lookup α} (f : α → β) (h : Tries t I F l) : Tries t I F (f <$> l) := by
  rw [← bind_pure_comp]
  exact tries_bind h fun a => tries_pure (f a)

theorem tries_ask {r : Request} (asks : t.asks r) : Tries t I F (ask r) :=
  meets_ask (fun _ _ => asks) fun _ _ _ h => h

theorem tries_get : Tries t I F (get : Lookup Context) := meets_get fun _ h => h

theorem tries_throw {f : Failure} (h : F f) : Tries t I F (throw f : Lookup α) :=
  meets_throw fun _ start => ⟨h, start⟩

theorem Tries.imp {l : Lookup α} (h : Tries t I F l) (le : ∀ f, F f → G f) : Tries t I G l :=
  Meets.imp h (fun _ start => start) (fun _ _ ended => ended)
    fun f _ ⟨failed, still⟩ => ⟨le f failed, still⟩

/-- The crashes among some failures. -/
def crashes (F : Failure → Prop) (f : Failure) : Prop := F f ∧ ∃ k, f = .crash k

/-- Only a crash gets past an attempt. -/
theorem tries_attempt {l : Lookup α} (h : Tries t I F l) : Tries t I (crashes F) (attempt l) := by
  apply meets_attempt
  refine Meets.imp h (fun _ start => start) (fun _ _ ended => ended) fun f c ⟨failed, still⟩ => ?_
  cases f with
  | error e => exact still
  | crash k => exact ⟨⟨failed, k, rfl⟩, still⟩

theorem tries_attempt? {l : Lookup α} (h : Tries t I F l) :
    Tries t I (crashes F) (attempt? l) := tries_map _ (tries_attempt h)

/-- A failure of `F` before anything shows, and of `G` after. -/
def Settles (t : Terms) (I : Context → Prop) (F G : Failure → Prop) (l : Lookup α) : Prop :=
  ∀ c, I c → Commits t
    (fun r => match r with
      | (.ok _, c) => I c
      | (.error f, c) => F f ∧ I c)
    (fun r => match r with
      | (.ok _, c) => I c
      | (.error f, c) => G f ∧ I c)
    (l.dialogue c)

theorem settles_of_discreet {l : Lookup α} (h : Tries t.discreet I F l) : Settles t I F G l :=
  fun c start => commits_of_discreet (h c start)

theorem settles_of_tries {l : Lookup α} (h : Tries t I G l) (le : ∀ f, G f → F f) :
    Settles t I F G l := by
  refine fun c start => (h c start).commits fun r ended => ?_
  obtain ⟨(f | a), c⟩ := r
  · exact ⟨le f ended.1, ended.2⟩
  · exact ended

/-- Discreet requests go ahead of what settles. -/
theorem settles_bind {l : Lookup α} {f : α → Lookup β} {Q : α → Prop}
    (first : Meets t.discreet I l (fun a c => Q a ∧ I c) fun f c => F f ∧ I c)
    (next : ∀ a, Q a → Settles t I F G (f a)) : Settles t I F G (l >>= f) := by
  intro c start
  rw [dialogue_bind]
  refine commits_discreet_bind (first c start) fun r ended => ?_
  obtain ⟨(f | a), c⟩ := r
  · exact ended
  · exact next a ended.1 c ended.2

theorem settles_tries {l : Lookup α} {f : α → Lookup β} (first : Tries t.discreet I F l)
    (next : ∀ a, Settles t I F G (f a)) : Settles t I F G (l >>= f) :=
  settles_bind (Q := fun _ => True)
    (Meets.imp first (fun _ start => start) (fun _ _ ended => ⟨trivial, ended⟩)
      fun _ _ ended => ended)
    fun a _ => next a

/-- Behind what settles comes only what fails in `G`. -/
theorem Settles.bind {l : Lookup α} {f : α → Lookup β} (first : Settles t I F G l)
    (le : ∀ f, G f → F f) (next : ∀ a, Tries t I G (f a)) : Settles t I F G (l >>= f) := by
  intro c start
  rw [dialogue_bind]
  refine commits_bind (first c start) (fun r ended => ?_) fun r ended => ?_
  · obtain ⟨(f | a), c⟩ := r
    · exact ended
    · exact settles_of_tries (next a) le c ended
  · obtain ⟨(f | a), c⟩ := r
    · exact ended
    · exact next a c ended

/-- A lookup that settles, carried out in a world that keeps the terms. -/
theorem Settles.look {l : Lookup α} (h : Settles t I F G l) (le : ∀ f, G f → F f)
    {J : World → Prop} (kept : KeptBy t World.answer J) {w : World} (world : J w) {c : Context}
    (start : I c) : (∀ f, (w.look l c).1.1 = .error f → F f) ∧ J (w.look l c).2 := by
  obtain ⟨ended, still⟩ := (h c start).honors.run kept world
  refine ⟨fun f failed => ?_, still⟩
  change (w.look l c).1.1 = .error f at failed
  have same : (Dialogue.run World.answer (l.dialogue c) w).1 = (w.look l c).1 := rfl
  rw [same] at ended
  generalize (w.look l c).1 = r at ended failed
  obtain ⟨o, c₁⟩ := r
  subst failed
  exact ended.elim (·.1) fun late => le f late.1

end Lookup

open Lookup (Tries Settles crashes tries_pure tries_bind tries_map tries_ask tries_get tries_throw
  tries_attempt tries_attempt? settles_of_discreet settles_of_tries settles_bind settles_tries)

/-! ## Looking the course up -/

namespace Context

theorem lasting_true {t : Terms} : Lasting t fun _ => True :=
  ⟨fun _ _ _ _ _ => trivial, fun _ _ _ _ _ => trivial, fun _ _ _ _ _ => trivial⟩

/-- Looking the course up is within the terms, keeps `I` and fails in `L` only. -/
structure Loadable (t : Terms) (I : Context → Prop) (L : Failure → Prop) : Prop where
  asks : ∀ r, r.looks → t.asks r
  lasting : Lasting t I
  course : ∀ c f, I c → t.given (.loadCourse c.key) (.error f) → L f
  content : ∀ c f, I c → t.given (.loadContent c.key) (.error f) → L f

variable {t : Terms} {I : Context → Prop} {L : Failure → Prop}

theorem Loadable.discreet (h : Loadable t I L) : Loadable t.discreet I L where
  asks r looks := ⟨h.asks r looks, Request.discreet_of_looks looks⟩
  lasting := ⟨h.lasting.course, h.lasting.content, h.lasting.hash⟩
  course := h.course
  content := h.content

variable (h : Loadable t I L)
include h

theorem tries_course : Tries t I L course := by
  intro c start
  rw [dialogue_course]
  cases held : c.course? with
  | some x => exact start
  | none =>
    refine ⟨h.asks _ trivial, fun _ _ => ⟨h.asks _ trivial, fun reply given => ?_⟩⟩
    cases reply with
    | error f => exact ⟨h.course c f start given, start⟩
    | ok x => exact h.lasting.course c x start held given

/-- The content found is at hand from then on. -/
theorem finds_content :
    Meets t I content (fun x c => I c ∧ c.content? = some x) fun f c => L f ∧ I c := by
  intro c start
  rw [dialogue_content]
  cases held : c.content? with
  | some x => exact ⟨start, held⟩
  | none =>
    refine ⟨h.asks _ trivial, fun _ _ => ⟨h.asks _ trivial, fun reply given => ?_⟩⟩
    cases reply with
    | error f => exact ⟨h.content c f start given, start⟩
    | ok x => exact ⟨h.lasting.content c x start held given, rfl⟩

theorem tries_content : Tries t I L content :=
  (finds_content h).imp (fun _ start => start) (fun _ _ ended => ended.1) fun _ _ ended => ended

theorem tries_policyHash : Tries t I L policyHash := by
  intro c start
  rw [dialogue_policyHash]
  cases hashed : c.hash? with
  | some hash => exact start
  | none =>
    rw [dialogue_content]
    cases held : c.content? with
    | some x => exact h.lasting.hash c x start hashed held
    | none =>
      refine ⟨h.asks _ trivial, fun _ _ => ⟨h.asks _ trivial, fun reply given => ?_⟩⟩
      cases reply with
      | error f => exact ⟨h.content c f start given, start⟩
      | ok x => exact h.lasting.hash _ x (h.lasting.content c x start held given) hashed rfl

theorem tries_contentVersion : Tries t I L contentVersion := by
  refine tries_bind tries_get fun c => ?_
  cases c.course? with
  | some x => exact tries_pure _
  | none => exact tries_map _ (tries_content h)

theorem tries_contentEditedAt : Tries t I L contentEditedAt := by
  refine tries_bind tries_get fun c => ?_
  cases c.course? with
  | some x => exact tries_pure _
  | none => exact tries_map _ (tries_content h)

theorem tries_fullText : Tries t I (crashes L) fullText :=
  tries_bind (tries_attempt? (tries_contentVersion h)) fun _ =>
    tries_bind (tries_attempt? (tries_contentEditedAt h)) fun _ =>
      tries_bind (tries_attempt? (tries_policyHash h)) fun _ =>
        tries_bind tries_get fun _ => tries_pure _

end Context

open Context (Loadable)

/-- What the weighted calculator fails with are the loader's failures, a policy that is refused
and scores that are not given for the content at hand. -/
theorem Calculator.tries_weighted_reading {t : Terms} {I : Context → Prop} {L F : Failure → Prop}
    (loads : Loadable t I L) (asks : ∀ r, r.consults → t.asks r) (loading : ∀ f, L f → F f)
    (refusing : ∀ cause, F (.error (.calculation (.invalidPolicy cause)))) (learner : LearnerId)
    (reading : ∀ c x cause, I c → c.content? = some x →
      t.given (.scoresOf learner x.courseKey) (.error cause) →
      F (.error (.calculation (.scoresUnavailable cause)))) :
    Tries t I F (weighted learner) := by
  have found : Meets t I Context.content (fun x c => I c ∧ c.content? = some x)
      fun f c => F f ∧ I c :=
    (Context.finds_content loads).imp (fun _ start => start) (fun _ _ ended => ended)
      fun f _ ended => ⟨loading f ended.1, ended.2⟩
  refine meets_bind found fun content => ?_
  cases content.gradingPolicy.validate with
  | error cause => exact meets_throw fun _ start => ⟨refusing cause, start.1⟩
  | ok u =>
    refine meets_bind (meets_ask (fun _ _ => asks _ trivial) fun _ _ _ start => start) fun _ => ?_
    have replied : Meets t (fun c => I c ∧ c.content? = some content)
        (Lookup.ask (.scoresOf learner content.courseKey))
        (fun reply c => I c ∧ ∀ cause, reply = .error cause →
          F (.error (.calculation (.scoresUnavailable cause))))
        fun f c => F f ∧ I c :=
      meets_ask (fun _ _ => asks _ trivial) fun reply c given start =>
        ⟨start.1, fun cause failed => reading c content cause start.1 start.2 (failed ▸ given)⟩
    refine meets_bind replied fun scores => ?_
    cases scores with
    | error cause => exact meets_throw fun _ start => ⟨start.2 cause rfl, start.1⟩
    | ok scores =>
      refine meets_bind (meets_ask (fun _ _ => asks _ trivial) fun _ _ _ start => start) fun _ => ?_
      exact meets_pure fun _ start => start.1

/-- All of its own errors are errors of calculation. -/
theorem Calculator.tries_weighted {t : Terms} {I : Context → Prop} {L F : Failure → Prop}
    (loads : Loadable t I L) (asks : ∀ r, r.consults → t.asks r) (loading : ∀ f, L f → F f)
    (own : ∀ cause, F (.error (.calculation cause))) (learner : LearnerId) :
    Tries t I F (weighted learner) :=
  tries_weighted_reading loads asks loading (fun _ => own _) learner fun _ _ _ _ _ _ => own _

/-! ## Resolutions -/

namespace GradeEngine

variable {t : Terms} {I : Context → Prop} {L F : Failure → Prop} {learner : Learner}

theorem tries_availableCourse (loads : Loadable t I L) : Tries t I (crashes L) availableCourse := by
  refine tries_bind (tries_attempt (Context.tries_course loads)) fun o => ?_
  cases o with
  | ok course => exact tries_pure _
  | error e =>
    exact tries_bind tries_get fun _ =>
      tries_bind (tries_ask (loads.asks _ trivial)) fun _ => tries_pure _

section Announcing

variable
  (tells : ∀ listener notice, notice.learner = learner.id → t.asks (.deliver listener notice))
  (logs : ∀ entry, t.asks (.log entry))
include tells logs

/-- A listener that fails, or crashes, ends nothing. -/
theorem tries_tell {notice : Notice} (about : notice.learner = learner.id)
    (report : DispatchReport) (listener : Listener) :
    Tries t I F (tell notice report listener) := by
  refine tries_bind (tries_ask (tells _ _ about)) fun delivery => ?_
  cases Delivery.failure? delivery with
  | none => exact tries_pure _
  | some text => exact tries_bind (tries_ask (logs _)) fun _ => tries_pure _

theorem tries_dispatch (e : GradeEngine) {notice : Notice} (about : notice.learner = learner.id) :
    Tries t I F (e.dispatch notice) := by
  unfold dispatch
  generalize ({} : DispatchReport) = report
  induction e.listeners generalizing report with
  | nil => exact tries_pure _
  | cons listener rest ih =>
    rw [List.foldlM_cons]
    exact tries_bind (tries_tell tells logs about report listener) ih

omit logs in
/-- Only a crash of the loader keeps a grade from being announced. -/
theorem tries_announce (e : GradeEngine) (loads : Loadable t I L) (key : CourseKey)
    (b : GradeBreakdown) (kept : Bool) : Tries t I (crashes L) (e.announce learner key b kept) := by
  have logs (entry : LogEntry) : t.asks (.log entry) := loads.asks _ trivial
  refine tries_bind (tries_availableCourse loads) fun course => ?_
  refine tries_bind (tries_dispatch tells logs e rfl) fun _ => ?_
  have rest (grade : ResolvedGrade) : Tries t I (crashes L) (do
      let full ← Context.fullText
      Lookup.log .info .engine ("Grades: Update, " ++ full ++ ", User: " ++ learner.id.text ++
        ", " ++ grade.text ++ ", persisted: " ++ boolText kept)
      pure grade) :=
    tries_bind (Context.tries_fullText loads) fun _ =>
      tries_bind (tries_ask (logs _)) fun _ => tries_pure _
  split
  · exact tries_bind (tries_dispatch tells logs e rfl) fun _ => rest _
  · exact rest _

end Announcing

/-- What a resolution for a learner needs of terms: it may ask what it asks, and what fails is
in `F`, a failure of the loader in `L`. -/
structure Resolvable (t : Terms) (I : Context → Prop) (L F : Failure → Prop) (learner : LearnerId) :
    Prop where
  loads : Loadable t I L
  asks : ∀ r, r.concerns learner → t.asks r
  loading : ∀ f, L f → F f
  storing : ∀ x, F (.error (.storage x))

section Resolving

variable (h : Resolvable t I L F learner.id)
include h

theorem Resolvable.discreet_asks {r : Request} (concerns : r.concerns learner.id)
    (discreet : r.discreet) : t.discreet.asks r := ⟨h.asks r concerns, discreet⟩

theorem Resolvable.late (f : Failure) (crashed : crashes L f) : F f := h.loading f crashed.1

theorem tries_stored {α : Type} (o : Except StorageError α) : Tries t.discreet I F (stored o) := by
  cases o with
  | ok a => exact tries_pure a
  | error x => exact tries_throw (h.storing x)

theorem tries_rowOf (key : CourseKey) : Tries t.discreet I F (rowOf learner.id key) :=
  tries_bind (tries_ask (h.discreet_asks rfl trivial)) fun _ => tries_stored h _

theorem tries_readStored (e : GradeEngine) : Tries t.discreet I F (e.readStored learner) := by
  refine tries_bind tries_get fun c => ?_
  split
  · exact tries_pure _
  · refine tries_bind (tries_rowOf h c.key) fun found => ?_
    cases found with
    | none => exact tries_pure _
    | some row =>
      exact tries_bind (tries_ask (h.discreet_asks trivial trivial)) fun _ => tries_pure _

theorem tries_createZero : Tries t.discreet I F (createZero learner) :=
  tries_bind tries_get fun _ =>
    tries_bind (tries_ask (h.discreet_asks trivial trivial)) fun _ => tries_pure _

theorem tries_readHere (e : GradeEngine) : Tries t.discreet I F (e.readHere learner) := by
  refine tries_bind (tries_readStored h e) fun found => ?_
  cases found with
  | some row => exact tries_pure _
  | none =>
    refine tries_bind tries_get fun c => ?_
    split
    · exact tries_map _ (tries_createZero h)
    · exact tries_pure _

/-- The row of a record is the learner's. -/
theorem meets_record (b : GradeBreakdown) (previous : Option StoredGrade) (now : Instant) :
    Meets t.discreet I (StoredGrade.record learner.id b previous now)
      (fun row c => row.learner = learner.id ∧ I c) fun f c => F f ∧ I c := by
  have loads := h.loads.discreet
  have fails {α : Type} {l : Lookup α} (tries : Tries t.discreet I L l) : Tries t.discreet I F l :=
    tries.imp h.loading
  refine meets_bind (fails (Context.tries_contentVersion loads)) fun version => ?_
  refine meets_bind (fails (Context.tries_contentEditedAt loads)) fun editedAt => ?_
  refine meets_bind (fails (Context.tries_policyHash loads)) fun hash => ?_
  refine meets_bind (meets_get fun _ start => start) fun c => ?_
  exact meets_pure fun _ start => ⟨rfl, start⟩

/-- Writing a row fails before it shows, or does not fail. -/
theorem settles_write {row : StoredGrade} (own : row.learner = learner.id) :
    Settles t I F (crashes L) (write row) := by
  intro c start
  simp only [write, Lookup.dialogue_bind, Lookup.dialogue_ask, Dialogue.ask_bind,
    Dialogue.done_bind]
  refine ⟨h.asks _ own, fun reply _ => ?_⟩
  cases reply with
  | error x => exact ⟨fun _ => ⟨h.storing x, start⟩, fun shown => by cases shown⟩
  | ok u => exact ⟨fun hidden => absurd rfl hidden, fun _ => start⟩

theorem settles_keep (known : Option StoredGrade) (b : GradeBreakdown) :
    Settles t I F (crashes L) (keep learner known b) := by
  refine settles_tries tries_get fun c => ?_
  have rest (previous : Option StoredGrade) : Settles t I F (crashes L) (do
      let now ← Lookup.ask .clock
      let row ← StoredGrade.record learner.id b previous now
      write row) :=
    settles_tries (tries_ask (h.discreet_asks trivial trivial)) fun now =>
      settles_bind (meets_record h b previous now) fun _ => settles_write h
  cases known with
  | some row => exact rest (some row)
  | none => exact settles_tries (tries_rowOf h c.key) rest

/-- Keeping comes before announcing. -/
theorem settles_conclude (e : GradeEngine) (readOnly : Bool) (known : Option StoredGrade)
    (b : GradeBreakdown) : Settles t I F (crashes L) (e.conclude learner readOnly known b) := by
  refine settles_tries tries_get fun c => ?_
  have announces (kept : Bool) : Tries t I (crashes L) (e.announce learner c.key b kept) :=
    tries_announce (fun _ _ => h.asks (.deliver _ _)) e h.loads c.key b kept
  dsimp only
  split
  · exact (settles_keep h known b).bind h.late fun _ => announces _
  · exact settles_of_tries (announces _) h.late

variable {e : GradeEngine} (computes : Tries t.discreet I F (e.calculator learner.id))
include computes

theorem settles_recompute (readOnly : Bool) (known : Option StoredGrade) :
    Settles t I F (crashes L) (e.recompute learner readOnly known) :=
  settles_tries (tries_ask (h.discreet_asks rfl trivial)) fun _ =>
    settles_tries computes fun b => settles_conclude h e readOnly known b

theorem settles_createStored (row : StoredGrade) :
    Settles t I F (crashes L) (e.createStored learner row) := by
  refine settles_tries ((Context.tries_policyHash h.loads.discreet).imp h.loading) fun hash => ?_
  split
  · exact settles_of_discreet (tries_pure _)
  · exact settles_recompute h computes false (some row)

theorem settles_createAbsent : Settles t I F (crashes L) (e.createAbsent learner) := by
  refine settles_tries tries_get fun c => ?_
  split
  · exact settles_of_discreet (tries_createZero h)
  · exact settles_recompute h computes true none

/-- **A resolution fails before anything of it shows**, unless the loader crashes. -/
theorem settles_resolveHere (s : Strategy) :
    Settles t I F (crashes L) (e.resolveHere learner s) := by
  cases s with
  | forceUpdate => exact settles_recompute h computes false none
  | createIfStale =>
    refine settles_tries (tries_readStored h e) fun found => ?_
    cases found with
    | some row => exact settles_createStored h computes row
    | none => exact settles_createAbsent h computes

end Resolving

end GradeEngine

end Gradebook
