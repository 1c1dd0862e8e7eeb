/-
# Gradebook.Context.Terms — what looking things up does to a context

Each lookup is first written out as a dialogue (`dialogue_content` and its like), one
request after the other. From there two things are said of it:

* `Meets t P Q E l`: started in a context with `P`, the lookup keeps to the terms `t` and
  ends with a value and a context in `Q`, or with a failure and a context in `E`;
* `Within kinds l`: it makes requests of these kinds only, and every property of contexts
  that survives the filling of an empty cell (`Lasting`) survives it.

`Within` composes without a word about contexts, so it is what is shown of the larger
lookups; `Lasting` is where a particular property, such as `Context.Sound`, comes in.
-/
import Gradebook.Context
import Gradebook.Dialogue.Terms

namespace Gradebook

set_option autoImplicit false

open Dialogue (Honors honors_done honors_ask honors_bind)

namespace Dialogue

variable {α β : Type}

@[simp] theorem done_bind (a : α) (f : α → Dialogue β) : Dialogue.done a >>= f = f a := rfl

@[simp] theorem ask_bind (r : Request) (next : r.Reply → Dialogue α) (f : α → Dialogue β) :
    Dialogue.ask r next >>= f = .ask r fun reply => next reply >>= f := rfl

end Dialogue

namespace Lookup

variable {α β : Type}

/-! ## Lookups as dialogues -/

section Equations

variable (c : Context)

@[simp] theorem dialogue_pure (a : α) : (pure a : Lookup α).dialogue c = .done (.ok a, c) := rfl

@[simp] theorem dialogue_ask (r : Request) :
    (ask r).dialogue c = .ask r fun reply => .done (.ok reply, c) := rfl

@[simp] theorem dialogue_log (level : LogLevel) (origin : LogOrigin) (message : String)
    (fields : List (String × String)) :
    (log level origin message fields).dialogue c =
      .ask (.log ⟨level, origin, message, fields⟩) fun _ => .done (.ok (), c) := rfl

@[simp] theorem dialogue_get : (get : Lookup Context).dialogue c = .done (.ok c, c) := rfl

@[simp] theorem dialogue_modify (f : Context → Context) :
    (modify f : Lookup Unit).dialogue c = .done (.ok (), f c) := rfl

@[simp] theorem dialogue_throw (f : Failure) :
    (throw f : Lookup α).dialogue c = .done (.error f, c) := rfl

@[simp] theorem dialogue_fail (e : GradeError) :
    (fail e : Lookup α).dialogue c = .done (.error (.error e), c) := rfl

@[simp] theorem dialogue_crash (k : Crash) :
    (crash k : Lookup α).dialogue c = .done (.error (.crash k), c) := rfl

@[simp] theorem dialogue_loaded (o : Except Failure α) :
    (loaded o).dialogue c = .done (o, c) := by
  cases o <;> rfl

theorem dialogue_bind (l : Lookup α) (f : α → Lookup β) :
    (l >>= f).dialogue c = l.dialogue c >>= fun r => match r with
      | (.ok a, c) => (f a).dialogue c
      | (.error e, c) => .done (.error e, c) := by
  simp only [dialogue, ExceptT.run_bind, StateT.run_bind]
  congr 1
  funext ⟨o, c⟩
  cases o <;> rfl

theorem dialogue_map (f : α → β) (l : Lookup α) :
    (f <$> l).dialogue c = l.dialogue c >>= fun r => .done (r.1.map f, r.2) := by
  rw [← bind_pure_comp, dialogue_bind]
  congr 1
  funext ⟨o, c⟩
  cases o <;> rfl

/-- An error is caught, a crash goes on. -/
def caught : Except Failure α → Except Failure (Except GradeError α)
  | .ok a => .ok (.ok a)
  | .error (.error e) => .ok (.error e)
  | .error (.crash k) => .error (.crash k)

theorem dialogue_attempt (l : Lookup α) :
    (attempt l).dialogue c = l.dialogue c >>= fun r => .done (caught r.1, r.2) := by
  have outer : (attempt l).dialogue c = (Except.ok <$> l : Lookup (Except GradeError α)).dialogue c
      >>= fun r => match r with
        | (.ok o, c) => .done (.ok o, c)
        | (.error (.error e), c) => .done (.ok (.error e), c)
        | (.error (.crash k), c) => .done (.error (.crash k), c) := by
    simp only [attempt, dialogue, tryCatch, tryCatchThe, MonadExceptOf.tryCatch,
      ExceptT.tryCatch, ExceptT.run_mk, StateT.run_bind]
    congr 1
    funext ⟨o, c⟩
    rcases o with (e | k) | o <;> rfl
  rw [outer, dialogue_map, bind_assoc]
  congr 1
  funext ⟨o, c⟩
  rcases o with (e | k) | a <;> rfl

end Equations

/-! ## Lookups within terms -/

/-- From a context with `P` to a value and a context in `Q`, or to a failure and a context
in `E`, within the terms. -/
def Meets (t : Terms) (P : Context → Prop) (l : Lookup α) (Q : α → Context → Prop)
    (E : Failure → Context → Prop) : Prop :=
  ∀ c, P c → Honors t (fun r => match r with
    | (.ok a, c) => Q a c
    | (.error f, c) => E f c) (l.dialogue c)

section Rules

variable {t : Terms} {P : Context → Prop} {Q : α → Context → Prop} {R : β → Context → Prop}
  {E : Failure → Context → Prop}

theorem meets_pure {a : α} (h : ∀ c, P c → Q a c) : Meets t P (pure a) Q E := h

theorem meets_bind {l : Lookup α} {f : α → Lookup β} (first : Meets t P l Q E)
    (next : ∀ a, Meets t (Q a) (f a) R E) : Meets t P (l >>= f) R E := by
  intro c start
  rw [dialogue_bind, honors_bind]
  refine (first c start).imp fun r h => ?_
  obtain ⟨(f | a), c⟩ := r
  · exact h
  · exact next a c h

theorem meets_ask {r : Request} {Q : r.Reply → Context → Prop} (asks : ∀ c, P c → t.asks r)
    (h : ∀ reply c, t.given r reply → P c → Q reply c) : Meets t P (ask r) Q E :=
  fun c start => ⟨asks c start, fun reply given => h reply c given start⟩

theorem meets_get {Q : Context → Context → Prop} (h : ∀ c, P c → Q c c) :
    Meets t P (get : Lookup Context) Q E := h

theorem meets_throw {f : Failure} (h : ∀ c, P c → E f c) :
    Meets t P (throw f : Lookup α) Q E := h

theorem meets_attempt {l : Lookup α} {Q : Except GradeError α → Context → Prop}
    (h : Meets t P l (fun a => Q (.ok a)) fun f c => match f with
      | .error e => Q (.error e) c
      | .crash k => E (.crash k) c) : Meets t P (attempt l) Q E := by
  intro c start
  rw [dialogue_attempt, honors_bind]
  refine (h c start).imp fun r ended => ?_
  obtain ⟨((e | k) | a), c⟩ := r <;> exact ended

theorem Meets.imp {P' : Context → Prop} {Q' : α → Context → Prop}
    {E' : Failure → Context → Prop} {l : Lookup α} (h : Meets t P l Q E)
    (pre : ∀ c, P' c → P c) (post : ∀ a c, Q a c → Q' a c) (fail : ∀ f c, E f c → E' f c) :
    Meets t P' l Q' E' := by
  refine fun c start => (h c (pre c start)).imp fun r ended => ?_
  obtain ⟨(f | a), c⟩ := r
  · exact fail f c ended
  · exact post a c ended

end Rules

end Lookup

/-! ## Properties that survive looking things up -/

/-- A property of contexts that is not lost when an empty cell is filled: with what the
loader replied, or with the fingerprint of the content at hand. -/
structure Context.Lasting (t : Terms) (I : Context → Prop) : Prop where
  course : ∀ c x, I c → c.course? = none → t.given (.loadCourse c.key) (.ok x) →
    I { c with course? := some x }
  content : ∀ c x, I c → c.content? = none → t.given (.loadContent c.key) (.ok x) →
    I { c with content? := some x }
  hash : ∀ c x, I c → c.hash? = none → c.content? = some x →
    I { c with hash? := some x.gradingPolicy.hash }

namespace Context

variable {t : Terms} {I : Context → Prop}

/-- The second context is the first with some more cells filled. -/
structure Extends (c c' : Context) : Prop where
  learner : c'.learner = c.learner
  key : c'.key = c.key
  course : ∀ x, c.course? = some x → c'.course? = some x
  content : ∀ x, c.content? = some x → c'.content? = some x
  hash : ∀ x, c.hash? = some x → c'.hash? = some x

theorem Extends.refl (c : Context) : c.Extends c :=
  ⟨rfl, rfl, fun _ h => h, fun _ h => h, fun _ h => h⟩

theorem Extends.trans {a b c : Context} (h : a.Extends b) (k : b.Extends c) : a.Extends c where
  learner := k.learner.trans h.learner
  key := k.key.trans h.key
  course x hx := k.course x (h.course x hx)
  content x hx := k.content x (h.content x hx)
  hash x hx := k.hash x (h.hash x hx)

/-- Filling cells only ever extends a context. -/
theorem lasting_extends (c₀ : Context) : Lasting t (c₀.Extends ·) where
  course _ _ h empty _ :=
    { h with course := fun y hy => by cases (h.course y hy).symm.trans empty }
  content _ _ h empty _ :=
    { h with content := fun y hy => by cases (h.content y hy).symm.trans empty }
  hash _ _ h empty _ :=
    { h with hash := fun y hy => by cases (h.hash y hy).symm.trans empty }

/-- A fingerprint at hand is that of the policy of the content at hand. -/
def Sound (c : Context) : Prop :=
  ∀ h, c.hash? = some h → ∃ s, c.content? = some s ∧ h = s.gradingPolicy.hash

theorem lasting_sound : Lasting t Sound where
  course _ _ h _ _ := h
  content _ _ h empty _ hash hashed := by
    obtain ⟨s, held, -⟩ := h hash hashed
    cases held.symm.trans empty
  hash _ x _ _ held _ hashed := ⟨x, held, (Option.some.inj hashed).symm⟩

/-- A context opened on inputs has what they supply, and nothing else. -/
theorem ofInputs_eq {learner : Option LearnerId} {i : CourseInputs} {c : Context}
    (h : Context.ofInputs learner i = .ok c) : c = ⟨learner, c.key, i.course, i.content, none⟩ := by
  unfold Context.ofInputs at h
  split at h
  · cases h
    rfl
  · cases h

/-- The inputs of a context agree on its course. -/
theorem agreedKey_of_ofInputs {learner : Option LearnerId} {i : CourseInputs} {c : Context}
    (h : Context.ofInputs learner i = .ok c) : i.agreedKey = .ok c.key := by
  unfold Context.ofInputs at h
  split at h
  · next key agreed =>
    cases h
    exact agreed
  · cases h

theorem sound_ofInputs {learner : Option LearnerId} {i : CourseInputs} {c : Context}
    (h : Context.ofInputs learner i = .ok c) : c.Sound := by
  rw [ofInputs_eq h]
  exact fun _ hashed => nomatch hashed

/-! ## The lookups on a context -/

open Lookup

section Equations

variable (c : Context)

theorem dialogue_course : course.dialogue c = match c.course? with
    | some x => .done (.ok x, c)
    | none => .ask (.log ⟨.debug, .context, "Loading course descriptor", [c.keyField]⟩) fun _ =>
        .ask (.loadCourse c.key) fun reply => .done (reply, match reply with
          | .ok x => { c with course? := some x }
          | .error _ => c) := by
  simp only [course, dialogue_bind, dialogue_get, Dialogue.done_bind]
  cases c.course? with
  | some x => rfl
  | none =>
    simp only [dialogue_bind, dialogue_log, dialogue_ask, Dialogue.ask_bind, Dialogue.done_bind]
    congr 1
    funext _
    congr 1
    funext reply
    cases reply <;> rfl

theorem dialogue_content : content.dialogue c = match c.content? with
    | some x => .done (.ok x, c)
    | none => .ask (.log ⟨.debug, .context, "Loading content structure", [c.keyField]⟩) fun _ =>
        .ask (.loadContent c.key) fun reply => .done (reply, match reply with
          | .ok x => { c with content? := some x }
          | .error _ => c) := by
  simp only [content, dialogue_bind, dialogue_get, Dialogue.done_bind]
  cases c.content? with
  | some x => rfl
  | none =>
    simp only [dialogue_bind, dialogue_log, dialogue_ask, Dialogue.ask_bind, Dialogue.done_bind]
    congr 1
    funext _
    congr 1
    funext reply
    cases reply <;> rfl

theorem dialogue_policyHash : policyHash.dialogue c = match c.hash? with
    | some h => .done (.ok h, c)
    | none => content.dialogue c >>= fun r => match r with
      | (.ok x, c) => .done (.ok x.gradingPolicy.hash,
          { c with hash? := some x.gradingPolicy.hash })
      | (.error f, c) => .done (.error f, c) := by
  simp only [policyHash, dialogue_bind, dialogue_get, Dialogue.done_bind]
  cases c.hash? with
  | some h => rfl
  | none =>
    simp only [gradingPolicy, dialogue_map, dialogue_bind, bind_assoc, Dialogue.done_bind]
    congr 1
    funext r
    obtain ⟨o, c⟩ := r
    cases o <;> rfl

end Equations

end Context

namespace Request

/-- Loading a course, or writing to the log. -/
def looks : Request → Prop
  | .loadCourse _ | .loadContent _ | .log _ => True
  | _ => False

/-- Loading the content of a course, but not its descriptor, or writing to the log. -/
def structural : Request → Prop
  | .loadContent _ | .log _ => True
  | _ => False

theorem looks_of_structural {r : Request} (h : r.structural) : r.looks := by
  cases r <;> first | exact h | trivial

/-- What a calculator may ask: to load a course, for scores, for derived data. -/
def consults : Request → Prop
  | .scoresOf _ _ | .groups _ _ _ => True
  | r => r.looks

theorem consults_of_looks {r : Request} (h : r.looks) : r.consults := by
  cases r <;> first | exact h | trivial

end Request

namespace Lookup

variable {α β : Type} {kinds : Request → Prop}

/-- Requests of these kinds only, and no lasting property of the context is lost. -/
def Within (kinds : Request → Prop) (l : Lookup α) : Prop :=
  ∀ (t : Terms) (I : Context → Prop), (∀ r, kinds r → t.asks r) → Context.Lasting t I →
    Meets t I l (fun _ => I) fun _ => I

theorem within_pure (a : α) : Within kinds (pure a) :=
  fun _ _ _ _ => meets_pure fun _ h => h

theorem within_bind {l : Lookup α} {f : α → Lookup β} (first : Within kinds l)
    (next : ∀ a, Within kinds (f a)) : Within kinds (l >>= f) :=
  fun t I asks lasting => meets_bind (first t I asks lasting) fun a => next a t I asks lasting

theorem within_map {l : Lookup α} (f : α → β) (h : Within kinds l) : Within kinds (f <$> l) := by
  rw [← bind_pure_comp]
  exact within_bind h fun a => within_pure (f a)

theorem within_ask {r : Request} (h : kinds r) : Within kinds (ask r) :=
  fun _ _ asks _ => meets_ask (fun _ _ => asks r h) fun _ _ _ start => start

theorem within_get : Within kinds (get : Lookup Context) :=
  fun _ _ _ _ => meets_get fun _ h => h

theorem within_throw (f : Failure) : Within kinds (throw f : Lookup α) :=
  fun _ _ _ _ => meets_throw fun _ h => h

theorem within_attempt {l : Lookup α} (h : Within kinds l) : Within kinds (attempt l) :=
  fun t I asks lasting => meets_attempt <| (h t I asks lasting).imp (fun _ start => start)
    (fun _ _ ended => ended) fun f _ ended => by cases f <;> exact ended

theorem within_attempt? {l : Lookup α} (h : Within kinds l) : Within kinds (attempt? l) :=
  within_map _ (within_attempt h)

theorem within_log (level : LogLevel) (origin : LogOrigin) (message : String)
    (fields : List (String × String)) (h : ∀ entry, kinds (.log entry)) :
    Within kinds (log level origin message fields) := within_ask (h _)

theorem Within.mono {kinds' : Request → Prop} {l : Lookup α} (h : Within kinds l)
    (more : ∀ r, kinds r → kinds' r) : Within kinds' l :=
  fun t I asks lasting => h t I (fun r kind => asks r (more r kind)) lasting

end Lookup

namespace Context

open Lookup

variable {t : Terms} {I : Context → Prop}

section Terms

variable (lasting : Lasting t I)
include lasting

/-- The descriptor is at hand when it has been looked up. -/
theorem meets_course (asks : ∀ r, r.looks → t.asks r) :
    Meets t I course (fun x c => I c ∧ c.course? = some x) fun _ => I := by
  intro c start
  rw [dialogue_course]
  cases held : c.course? with
  | some x => exact ⟨start, held⟩
  | none =>
    refine ⟨asks _ trivial, fun _ _ => ⟨asks _ trivial, fun reply given => ?_⟩⟩
    cases reply with
    | error f => exact start
    | ok x => exact ⟨lasting.course c x start held given, rfl⟩

variable (asks : ∀ r, r.structural → t.asks r)
include asks

/-- The content is at hand when it has been looked up. -/
theorem meets_content :
    Meets t I content (fun x c => I c ∧ c.content? = some x) fun _ => I := by
  intro c start
  rw [dialogue_content]
  cases held : c.content? with
  | some x => exact ⟨start, held⟩
  | none =>
    refine ⟨asks _ trivial, fun _ _ => ⟨asks _ trivial, fun reply given => ?_⟩⟩
    cases reply with
    | error f => exact start
    | ok x => exact ⟨lasting.content c x start held given, rfl⟩

theorem meets_policyHash :
    Meets t I policyHash (fun h c => I c ∧ c.hash? = some h) fun _ => I := by
  intro c start
  rw [dialogue_policyHash]
  cases held : c.hash? with
  | some h => exact ⟨start, held⟩
  | none =>
    -- The content's own equation shows that looking it up leaves this cell empty.
    rw [dialogue_content]
    cases here : c.content? with
    | some x => exact ⟨lasting.hash c x start held here, rfl⟩
    | none =>
      refine ⟨asks _ trivial, fun _ _ => ⟨asks _ trivial, fun reply given => ?_⟩⟩
      cases reply with
      | error f => exact start
      | ok x => exact ⟨lasting.hash _ x (lasting.content c x start here given) held rfl, rfl⟩

end Terms

theorem within_course : Within Request.looks course := fun _ _ asks lasting =>
  (meets_course lasting asks).imp (fun _ h => h) (fun _ _ h => h.1) fun _ _ h => h

theorem within_deadline : Within Request.looks deadline := within_map _ within_course

/-! What does not look for the descriptor. -/

theorem structural_content : Within Request.structural content := fun _ _ asks lasting =>
  (meets_content lasting asks).imp (fun _ h => h) (fun _ _ h => h.1) fun _ _ h => h

theorem structural_policyHash : Within Request.structural policyHash := fun _ _ asks lasting =>
  (meets_policyHash lasting asks).imp (fun _ h => h) (fun _ _ h => h.1) fun _ _ h => h

theorem structural_contentVersion : Within Request.structural contentVersion := by
  refine within_bind within_get fun c => ?_
  cases c.course? with
  | some x => exact within_pure _
  | none => exact within_map _ structural_content

theorem structural_contentEditedAt : Within Request.structural contentEditedAt := by
  refine within_bind within_get fun c => ?_
  cases c.course? with
  | some x => exact within_pure _
  | none => exact within_map _ structural_content

theorem structural_fullText : Within Request.structural fullText :=
  within_bind (within_attempt? structural_contentVersion) fun _ =>
    within_bind (within_attempt? structural_contentEditedAt) fun _ =>
      within_bind (within_attempt? structural_policyHash) fun _ =>
        within_bind within_get fun _ => within_pure _

theorem within_content : Within Request.looks content :=
  structural_content.mono fun _ => Request.looks_of_structural

theorem within_policyHash : Within Request.looks policyHash :=
  structural_policyHash.mono fun _ => Request.looks_of_structural

theorem within_contentVersion : Within Request.looks contentVersion :=
  structural_contentVersion.mono fun _ => Request.looks_of_structural

theorem within_contentEditedAt : Within Request.looks contentEditedAt :=
  structural_contentEditedAt.mono fun _ => Request.looks_of_structural

theorem within_fullText : Within Request.looks fullText :=
  structural_fullText.mono fun _ => Request.looks_of_structural

/-- Only course and deadline look for the descriptor. -/
def Query.describes : Query → Bool
  | .course | .deadline => true
  | _ => false

theorem structural_consult {q : Query} (h : q.describes = false) :
    Within Request.structural (consult q) := by
  cases q with
  | course | deadline => cases h
  | content => exact within_map _ structural_content
  | gradingPolicy => exact within_map _ (within_map _ structural_content)
  | policyHash => exact within_map _ structural_policyHash
  | contentVersion => exact within_map _ structural_contentVersion
  | contentEditedAt => exact within_map _ structural_contentEditedAt
  | fullText => exact within_map _ structural_fullText

theorem within_consult (q : Query) : Within Request.looks (consult q) := by
  cases describes : q.describes with
  | false => exact (structural_consult describes).mono fun _ => Request.looks_of_structural
  | true =>
    cases q with
    | course => exact within_map _ within_course
    | deadline => exact within_map _ within_deadline
    | _ => cases describes

end Context

end Gradebook
