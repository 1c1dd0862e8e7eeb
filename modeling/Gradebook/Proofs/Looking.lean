/-
# Gradebook.Proofs.Looking — lookups carried out in a world

`World.look` runs a lookup from a context. Its equations carry out a lookup one request
at a time. Two things stay what they are while a grade is being worked out:

* the world, but for its log, its counts of loads and its derived data (`Steady`);
* the content of the course, since what is not at hand yet is still what the source has
  (`contentOf_look`).

So the content, the fingerprint and the breakdown of a learner can be named in advance
(`contentOf`, `hashOf`, `computation`), and looking them up finds nothing else.
-/
import Gradebook.Calculator
import Gradebook.World

namespace Gradebook

set_option autoImplicit false

open Dialogue (Honors KeptBy)
open Lookup (Within)

namespace World

variable {α β : Type}

/-- Carry out a lookup from a context. -/
def look (w : World) (l : Lookup α) (c : Context) : (Except Failure α × Context) × World :=
  w.run (l.dialogue c)

/-! ## One request at a time -/

section Equations

variable (w : World) (c : Context)

@[simp] theorem look_pure (a : α) : w.look (pure a) c = ((.ok a, c), w) := rfl

@[simp] theorem look_get : w.look (get : Lookup Context) c = ((.ok c, c), w) := rfl

@[simp] theorem look_modify (f : Context → Context) :
    w.look (modify f : Lookup Unit) c = ((.ok (), f c), w) := rfl

@[simp] theorem look_throw (f : Failure) :
    w.look (throw f : Lookup α) c = ((.error f, c), w) := rfl

@[simp] theorem look_fail (e : GradeError) :
    w.look (Lookup.fail e : Lookup α) c = ((.error (.error e), c), w) := rfl

@[simp] theorem look_ask (r : Request) :
    w.look (Lookup.ask r) c = ((.ok (answer r w).1, c), (answer r w).2) := rfl

@[simp] theorem look_log (level : LogLevel) (origin : LogOrigin) (message : String)
    (fields : List (String × String)) :
    w.look (Lookup.log level origin message fields) c =
      ((.ok (), c), w.addLog [⟨level, origin, message, fields⟩]) := rfl

theorem look_bind (l : Lookup α) (f : α → Lookup β) :
    w.look (l >>= f) c = match w.look l c with
      | ((.ok a, c), w) => w.look (f a) c
      | ((.error e, c), w) => ((.error e, c), w) := by
  simp only [look, run, Lookup.dialogue_bind, Dialogue.run_bind]
  obtain ⟨⟨(e | a), c'⟩, w'⟩ := Dialogue.run answer (l.dialogue c) w <;> rfl

theorem look_bind_ok {w : World} {c : Context} {l : Lookup α} {f : α → Lookup β} {b : β}
    (h : (w.look (l >>= f) c).1.1 = .ok b) :
    ∃ a c' w', w.look l c = ((.ok a, c'), w') ∧ (w'.look (f a) c').1.1 = .ok b := by
  rw [look_bind] at h
  generalize w.look l c = r at h ⊢
  obtain ⟨⟨o, c'⟩, w'⟩ := r
  cases o with
  | error e => cases h
  | ok a => exact ⟨a, c', w', rfl, h⟩

theorem look_map (f : α → β) (l : Lookup α) :
    w.look (f <$> l) c = (((w.look l c).1.1.map f, (w.look l c).1.2), (w.look l c).2) := by
  simp only [look, run, Lookup.dialogue_map, Dialogue.run_bind, Dialogue.run_done]

end Equations

/-! ## What stays while a grade is worked out -/

/-- Loads are answered alike. -/
structure SameSource (w w' : World) : Prop where
  source : w'.source = w.source
  faults : w'.faults = w.faults

theorem SameSource.trans {w₁ w₂ w₃ : World} (h : w₁.SameSource w₂) (k : w₂.SameSource w₃) :
    w₁.SameSource w₃ :=
  ⟨k.source.trans h.source, k.faults.trans h.faults⟩

/-- The second world is the first but for its log, its counts of loads, its derived data
and what listeners were told. -/
structure Steady (w w' : World) : Prop extends SameSource w w' where
  rows : w'.rows = w.rows
  scores : w'.scores = w.scores
  now : w'.now = w.now
  computations : w'.computations = w.computations
  writes : w'.writes = w.writes

theorem Steady.refl (w : World) : w.Steady w := ⟨⟨rfl, rfl⟩, rfl, rfl, rfl, rfl, rfl⟩

theorem Steady.trans {w₁ w₂ w₃ : World} (h : w₁.Steady w₂) (k : w₂.Steady w₃) :
    w₁.Steady w₃ where
  toSameSource := h.toSameSource.trans k.toSameSource
  rows := k.rows.trans h.rows
  scores := k.scores.trans h.scores
  now := k.now.trans h.now
  computations := k.computations.trans h.computations
  writes := k.writes.trans h.writes

/-- Neither the derived data has changed nor was any listener told anything. -/
structure Quiet (w w' : World) : Prop extends Steady w w' where
  cache : w'.cache = w.cache
  deliveries : w'.deliveries = w.deliveries

theorem Quiet.refl (w : World) : w.Quiet w := ⟨Steady.refl w, rfl, rfl⟩

theorem Quiet.trans {w₁ w₂ w₃ : World} (h : w₁.Quiet w₂) (k : w₂.Quiet w₃) : w₁.Quiet w₃ where
  toSteady := h.toSteady.trans k.toSteady
  cache := k.cache.trans h.cache
  deliveries := k.deliveries.trans h.deliveries

theorem quiet_addLog (w : World) (entries : List LogEntry) : w.Quiet (w.addLog entries) :=
  ⟨⟨⟨rfl, rfl⟩, rfl, rfl, rfl, rfl, rfl⟩, rfl, rfl⟩

end World

namespace Request

/-- All but writing a row, clearing derived data and beginning a computation. -/
def mild : Request → Prop
  | .putRow _ | .clear _ | .computing _ => False
  | _ => True

theorem mild_of_consults {r : Request} (h : r.consults) : r.mild := by
  cases r <;> first | exact h | trivial

theorem mild_of_looks {r : Request} (h : r.looks) : r.mild :=
  mild_of_consults (consults_of_looks h)

end Request

namespace World

variable {α β : Type} {w : World}

theorem steady_answer {r : Request} (h : r.mild) (w : World) : w.Steady (answer r w).2 := by
  cases r with
  | putRow row => exact h.elim
  | clear key => exact h.elim
  | computing learner => exact h.elim
  | loadCourse key =>
    simp only [answer, loadCourse]
    split <;> exact ⟨⟨rfl, rfl⟩, rfl, rfl, rfl, rfl, rfl⟩
  | loadContent key =>
    simp only [answer, loadContent]
    split <;> exact ⟨⟨rfl, rfl⟩, rfl, rfl, rfl, rfl, rfl⟩
  | findRow learner key =>
    simp only [answer, findRow]
    split <;> exact Steady.refl _
  | scoresOf learner key =>
    simp only [answer, scoresOf]
    split <;> exact Steady.refl _
  | clock => exact Steady.refl _
  | _ => exact ⟨⟨rfl, rfl⟩, rfl, rfl, rfl, rfl, rfl⟩

/-- The replies to loads that a world gives as long as it stays steady. -/
def terms (w : World) (kinds : Request → Prop) : Terms where
  asks := kinds
  given r reply := match r, reply with
    | .loadCourse key, reply => reply = (w.loadCourse key).1
    | .loadContent key, reply => reply = (w.loadContent key).1
    | _, _ => True

theorem SameSource.loadCourse_eq {w' : World} (h : w.SameSource w') (key : CourseKey) :
    (w'.loadCourse key).1 = (w.loadCourse key).1 := by
  simp only [loadCourse, h.faults, h.source]
  split <;> rfl

theorem SameSource.loadContent_eq {w' : World} (h : w.SameSource w') (key : CourseKey) :
    (w'.loadContent key).1 = (w.loadContent key).1 := by
  simp only [loadContent, h.faults, h.source]
  split <;> rfl

theorem scoresOf_eq {w' : World} (faults : w'.faults = w.faults) (scores : w'.scores = w.scores)
    (learner : LearnerId) (key : CourseKey) :
    (w'.scoresOf learner key).1 = (w.scoresOf learner key).1 := by
  simp only [scoresOf, faults, scores]
  split <;> rfl

theorem findRow_eq {w' : World} (faults : w'.faults = w.faults) (rows : w'.rows = w.rows)
    (learner : LearnerId) (key : CourseKey) :
    (w'.findRow learner key).1 = (w.findRow learner key).1 := by
  simp only [findRow, faults, rows]
  split <;> rfl

theorem Steady.findRow_eq {w' : World} (h : w.Steady w') (learner : LearnerId)
    (key : CourseKey) : (w'.findRow learner key).1 = (w.findRow learner key).1 :=
  World.findRow_eq h.faults h.rows learner key

theorem keptBy_steady (w : World) : KeptBy (w.terms Request.mild) answer w.Steady := by
  intro r w' steady mild
  refine ⟨?_, steady.trans (steady_answer mild w')⟩
  cases r with
  | loadCourse key => exact steady.loadCourse_eq key
  | loadContent key => exact steady.loadContent_eq key
  | _ => trivial

/-- A lookup within terms that the world keeps ends as it promises. -/
theorem look_meets {t : Terms} {I : World → Prop} {P : Context → Prop} {l : Lookup α}
    {Q : α → Context → Prop} {E : Failure → Context → Prop} (h : Lookup.Meets t P l Q E)
    (kept : KeptBy t answer I) (world : I w) {c : Context} (start : P c) :
    (match (w.look l c).1 with
      | (.ok a, c) => Q a c
      | (.error f, c) => E f c) ∧ I (w.look l c).2 := (h c start).run kept world

section Within

variable {kinds : Request → Prop} {l : Lookup α}

/-- A lookup of mild requests leaves the world steady and keeps what is lasting. -/
theorem look_within (h : Within kinds l) (mild : ∀ r, kinds r → r.mild)
    {J : Context → Prop} (lasting : Context.Lasting (w.terms Request.mild) J)
    {c : Context} (start : J c) : w.Steady (w.look l c).2 ∧ J (w.look l c).1.2 := by
  have ⟨ended, steady⟩ :=
    look_meets (h _ J (fun r kind => mild r kind) lasting) (keptBy_steady w) (Steady.refl w) start
  refine ⟨steady, ?_⟩
  generalize w.look l c = r at ended
  obtain ⟨⟨(f | a), c'⟩, w'⟩ := r <;> exact ended

theorem look_steady (h : Within kinds l) (mild : ∀ r, kinds r → r.mild) (c : Context) :
    w.Steady (w.look l c).2 :=
  (look_within h mild (Context.lasting_extends c) (Context.Extends.refl c)).1

/-- What no request of these kinds changes, no lookup of such requests changes. -/
theorem look_keeps {τ : Type} (f : World → τ) (h : Within kinds l)
    (keeps : ∀ r w, kinds r → f (answer r w).2 = f w) (w : World) (c : Context) :
    f (w.look l c).2 = f w := by
  have lasting : Context.Lasting ⟨kinds, fun _ _ => True⟩ fun _ => True :=
    ⟨fun _ _ _ _ _ => trivial, fun _ _ _ _ _ => trivial, fun _ _ _ _ _ => trivial⟩
  have kept : KeptBy ⟨kinds, fun _ _ => True⟩ answer fun w' => f w' = f w :=
    fun r w' same kind => ⟨trivial, (keeps r w' kind).trans same⟩
  exact ((h _ _ (fun _ kind => kind) lasting c trivial).run kept rfl).2

end Within

/-! ## What will be found -/

/-- The content a context holds, or will hold once it is looked up. -/
def contentOf (w : World) (c : Context) : Except Failure ContentStructure :=
  match c.content? with
  | some x => .ok x
  | none => (w.loadContent c.key).1

/-- The fingerprint a context holds, or will hold once it is looked up. -/
def hashOf (w : World) (c : Context) : Except Failure PolicyHash :=
  match c.hash? with
  | some h => .ok h
  | none => (w.contentOf c).map (·.gradingPolicy.hash)

/-- A context filled, in this world, from another. -/
structure Follows (w : World) (c c' : Context) : Prop where
  grows : c.Extends c'
  content : ∀ x, c'.content? = some x → w.contentOf c = .ok x
  hash : ∀ h, c'.hash? = some h → w.hashOf c = .ok h
  sound : c.Sound → c'.Sound

theorem Follows.refl (w : World) (c : Context) : w.Follows c c where
  grows := Context.Extends.refl c
  content x held := by simp only [contentOf, held]
  hash h held := by simp only [hashOf, held]
  sound sound := sound

theorem lasting_follows (w : World) (c : Context) :
    Context.Lasting (w.terms Request.mild) (w.Follows c) where
  course c' x follows empty given := {
    grows := (Context.lasting_extends c).course c' x follows.grows empty given
    content := follows.content
    hash := follows.hash
    sound := follows.sound }
  content c' x follows empty given := {
    grows := (Context.lasting_extends c).content c' x follows.grows empty given
    content := by
      rintro y held
      cases held
      have absent : c.content? = none := by
        cases held : c.content? with
        | none => rfl
        | some y => cases (follows.grows.content y held).symm.trans empty
      simp only [contentOf, absent, ← follows.grows.key]
      exact given.symm
    hash := follows.hash
    sound := fun sound => Context.lasting_sound.content c' x (follows.sound sound) empty given }
  hash c' x follows empty held := {
    grows := (Context.lasting_extends (t := w.terms Request.mild) c).hash c' x
      follows.grows empty held
    content := follows.content
    hash := by
      rintro h hashed
      cases hashed
      have absent : c.hash? = none := by
        cases hashed : c.hash? with
        | none => rfl
        | some h => cases (follows.grows.hash h hashed).symm.trans empty
      simp only [hashOf, absent, follows.content x held, Except.map]
    sound := fun sound => (Context.lasting_sound (t := w.terms Request.mild)).hash c' x
      (follows.sound sound) empty held }

section Follows

variable {w' : World} {c c' : Context}

/-- The content found does not depend on what was looked up before. -/
theorem Follows.contentOf_eq (follows : w.Follows c c') (same : w.SameSource w') :
    w'.contentOf c' = w.contentOf c := by
  rw [contentOf]
  cases held : c'.content? with
  | some x => exact (follows.content x held).symm
  | none =>
    have absent : c.content? = none := by
      cases held' : c.content? with
      | none => rfl
      | some x => cases (follows.grows.content x held').symm.trans held
    simp only [contentOf, absent, follows.grows.key, same.loadContent_eq]

theorem Follows.hashOf_eq (follows : w.Follows c c') (same : w.SameSource w') :
    w'.hashOf c' = w.hashOf c := by
  rw [hashOf]
  cases hashed : c'.hash? with
  | some h => exact (follows.hash h hashed).symm
  | none =>
    have absent : c.hash? = none := by
      cases hashed' : c.hash? with
      | none => rfl
      | some h => cases (follows.grows.hash h hashed').symm.trans hashed
    simp only [hashOf, absent, follows.contentOf_eq same]

theorem Follows.trans {c'' : Context} (h : w.Follows c c') (same : w.SameSource w')
    (k : w'.Follows c' c'') : w.Follows c c'' where
  grows := h.grows.trans k.grows
  content x held := (h.contentOf_eq same).symm.trans (k.content x held)
  hash x hashed := (h.hashOf_eq same).symm.trans (k.hash x hashed)
  sound := k.sound ∘ h.sound

end Follows

/-- Loads and log entries leave the derived data and the listeners alone. -/
theorem answer_looks {r : Request} (h : r.looks) (w : World) :
    (answer r w).2.cache = w.cache ∧ (answer r w).2.deliveries = w.deliveries := by
  cases r with
  | loadCourse key =>
    simp only [answer, loadCourse]
    split <;> exact ⟨rfl, rfl⟩
  | loadContent key =>
    simp only [answer, loadContent]
    split <;> exact ⟨rfl, rfl⟩
  | log entry => exact ⟨rfl, rfl⟩
  | _ => exact h.elim

/-- Looking up the course leaves the world quiet. -/
theorem look_quiet {l : Lookup α} (h : Within Request.looks l) (w : World) (c : Context) :
    w.Quiet (w.look l c).2 where
  toSteady := look_steady h (fun _ => Request.mild_of_looks) c
  cache := look_keeps (·.cache) h (fun _ w looks => (answer_looks looks w).1) w c
  deliveries := look_keeps (·.deliveries) h (fun _ w looks => (answer_looks looks w).2) w c

theorem look_follows {kinds : Request → Prop} {l : Lookup α} (h : Within kinds l)
    (mild : ∀ r, kinds r → r.mild) (c : Context) : w.Follows c (w.look l c).1.2 :=
  (look_within h mild (lasting_follows w c) (Follows.refl w c)).2

/-- After a lookup of the course comes a lookup from what it left behind. -/
theorem look_then {l : Lookup α} {f : α → Lookup β} {g : α → Except Failure β} {c : Context}
    (within : Within Request.looks l)
    (next : ∀ a c' w', (w.look l c).1.2 = c' → w.Follows c c' → w.SameSource w' →
      (w'.look (f a) c').1.1 = g a) :
    (w.look (l >>= f) c).1.1 = (w.look l c).1.1 >>= g := by
  have follows := look_follows (w := w) within (fun _ => Request.mild_of_looks) c
  have same := (look_quiet within w c).toSameSource
  rw [look_bind]
  generalize w.look l c = r at next follows same
  obtain ⟨⟨o, c'⟩, w'⟩ := r
  cases o with
  | error f => rfl
  | ok a => exact next a c' w' rfl follows same

/-- A context whose content was looked up. -/
def held (c : Context) : Except Failure ContentStructure → Context
  | .ok x => { c with content? := some x }
  | .error _ => c

theorem look_content (w : World) (c : Context) :
    (w.look Context.content c).1 = (w.contentOf c, held c (w.contentOf c)) := by
  rw [look, run, Context.dialogue_content, contentOf]
  cases held : c.content? with
  | some x =>
    simp only [Dialogue.run_done, World.held]
    rw [← held]
  | none =>
    simp only [Dialogue.run_ask, Dialogue.run_done]
    have : (answer (.loadContent c.key) (answer
        (.log ⟨.debug, .context, "Loading content structure", [c.keyField]⟩) w).2).1 =
          (w.loadContent c.key).1 :=
      (steady_answer (r := .log _) trivial w).loadContent_eq c.key
    rw [this]
    generalize (w.loadContent c.key).1 = o
    cases o <;> rfl

theorem look_policyHash (w : World) (c : Context) :
    (w.look Context.policyHash c).1.1 = w.hashOf c := by
  rw [look, run, Context.dialogue_policyHash, hashOf]
  cases c.hash? with
  | some h => rfl
  | none =>
    simp only [Dialogue.run_bind]
    have found : (Dialogue.run answer (Context.content.dialogue c) w).1 = _ := look_content w c
    rw [found]
    cases w.contentOf c <;> rfl

/-- The version found on the descriptor if that is at hand, else on the content. -/
def versionOf (w : World) (c : Context) : Except Failure (Option String) :=
  match c.course? with
  | some course => .ok course.version
  | none => (w.contentOf c).map (·.version)

def editedAtOf (w : World) (c : Context) : Except Failure (Option Instant) :=
  match c.course? with
  | some course => .ok course.editedOn
  | none => (w.contentOf c).map (·.editedOn)

theorem look_contentVersion (w : World) (c : Context) :
    (w.look Context.contentVersion c).1.1 = w.versionOf c ∧
      (w.look Context.contentVersion c).1.2.course? = c.course? := by
  simp only [Context.contentVersion, look_bind, look_get, versionOf]
  cases described : c.course? with
  | some course => exact ⟨rfl, described⟩
  | none =>
    simp only [look_map, look_content]
    refine ⟨trivial, ?_⟩
    cases w.contentOf c <;> exact described

theorem look_contentEditedAt (w : World) (c : Context) :
    (w.look Context.contentEditedAt c).1.1 = w.editedAtOf c ∧
      (w.look Context.contentEditedAt c).1.2.course? = c.course? := by
  simp only [Context.contentEditedAt, look_bind, look_get, editedAtOf]
  cases described : c.course? with
  | some course => exact ⟨rfl, described⟩
  | none =>
    simp only [look_map, look_content]
    refine ⟨trivial, ?_⟩
    cases w.contentOf c <;> exact described

/-- The fingerprint found is that of the content found. -/
theorem hashOf_sound {c : Context} (sound : c.Sound) {h : PolicyHash} (found : w.hashOf c = .ok h) :
    ∃ x, w.contentOf c = .ok x ∧ h = x.gradingPolicy.hash := by
  rw [hashOf] at found
  cases hashed : c.hash? with
  | some h' =>
    obtain ⟨x, held, same⟩ := sound h' hashed
    simp only [hashed, Except.ok.injEq] at found
    exact ⟨x, by simp only [contentOf, held], found.symm.trans same⟩
  | none =>
    simp only [hashed] at found
    cases content : w.contentOf c with
    | error f => simp [content, Except.map] at found
    | ok x =>
      simp only [content, Except.map, Except.ok.injEq] at found
      exact ⟨x, rfl, found.symm⟩

end World

end Gradebook
