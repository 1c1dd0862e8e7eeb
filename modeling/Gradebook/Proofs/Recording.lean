/-
# Gradebook.Proofs.Recording — the row of a breakdown

A row is made of a breakdown, of the row it is written over, of one reading of the clock and
of the context at that moment: `StoredGrade.Records` says what it takes from each, and
`goes_record` that the row recorded is that one, whatever the loader replied meanwhile.

The stamps are those of the edition at hand (`Context.edition?`), the descriptor's before the
structure's, and a row is recorded without filling the descriptor's cell.
-/
import Gradebook.Proofs.Exchanges

namespace Gradebook

set_option autoImplicit false

namespace Context

/-- Version and time of edit of the descriptor at hand, else of the structure at hand. -/
def edition? (c : Context) : Option (Option String × Option Instant) :=
  match c.course? with
  | some x => some (x.version, x.editedOn)
  | none => c.content?.map fun x => (x.version, x.editedOn)

theorem Extends.edition? {c c' : Context} (h : c.Extends c') (same : c'.course? = c.course?)
    {edition : Option String × Option Instant} (found : c.edition? = some edition) :
    c'.edition? = some edition := by
  rw [Context.edition?] at found ⊢
  rw [same]
  cases held : c.course? with
  | some x => rwa [held] at found
  | none =>
    rw [held] at found
    obtain ⟨x, here, rfl⟩ := Option.map_eq_some_iff.1 found
    rw [h.content x here]
    rfl

variable {c c' : Context} {xs : List Exchange}

/-- The structure at hand is answered; else it is loaded, and kept if it could be. -/
theorem content_cases {o : Except Failure ContentStructure} (h : content.Goes c xs o c') :
    (∃ x, c.content? = some x ∧ xs = [] ∧ o = .ok x ∧ c' = c) ∨
      c.content? = none ∧ (∃ entry, xs = [⟨.log entry, ()⟩, ⟨.loadContent c.key, o⟩]) ∧
        ((∃ x, o = .ok x ∧ c' = { c with content? := some x }) ∨ ∃ f, o = .error f ∧ c' = c) := by
  rw [Lookup.Goes, dialogue_content] at h
  cases held : c.content? with
  | some x =>
    rw [held] at h
    obtain ⟨rfl, same⟩ := Dialogue.goes_done.1 h
    cases same
    exact .inl ⟨x, rfl, rfl, rfl, rfl⟩
  | none =>
    rw [held] at h
    obtain ⟨reply, rfl, same⟩ := Dialogue.goes_announced h
    cases same
    refine .inr ⟨rfl, ⟨_, rfl⟩, ?_⟩
    cases o with
    | error f => exact .inr ⟨f, rfl, rfl⟩
    | ok x => exact .inl ⟨x, rfl, rfl⟩

/-- And so is the descriptor. -/
theorem course_cases {o : Except Failure Course} (h : course.Goes c xs o c') :
    (∃ x, c.course? = some x ∧ xs = [] ∧ o = .ok x ∧ c' = c) ∨
      c.course? = none ∧ (∃ entry, xs = [⟨.log entry, ()⟩, ⟨.loadCourse c.key, o⟩]) ∧
        ((∃ x, o = .ok x ∧ c' = { c with course? := some x }) ∨ ∃ f, o = .error f ∧ c' = c) := by
  rw [Lookup.Goes, dialogue_course] at h
  cases held : c.course? with
  | some x =>
    rw [held] at h
    obtain ⟨rfl, same⟩ := Dialogue.goes_done.1 h
    cases same
    exact .inl ⟨x, rfl, rfl, rfl, rfl⟩
  | none =>
    rw [held] at h
    obtain ⟨reply, rfl, same⟩ := Dialogue.goes_announced h
    cases same
    refine .inr ⟨rfl, ⟨_, rfl⟩, ?_⟩
    cases o with
    | error f => exact .inr ⟨f, rfl, rfl⟩
    | ok x => exact .inl ⟨x, rfl, rfl⟩

theorem goes_content {x : ContentStructure} (h : content.Goes c xs (.ok x) c') :
    c'.content? = some x := by
  rcases content_cases h with ⟨y, held, -, same, rfl⟩ | ⟨-, -, ⟨y, same, rfl⟩ | ⟨f, same, -⟩⟩
  · cases same
    exact held
  · cases same
    rfl
  · cases same

theorem goes_course {x : Course} (h : course.Goes c xs (.ok x) c') : c'.course? = some x := by
  rcases course_cases h with ⟨y, held, -, same, rfl⟩ | ⟨-, -, ⟨y, same, rfl⟩ | ⟨f, same, -⟩⟩
  · cases same
    exact held
  · cases same
    rfl
  · cases same

theorem spares_structural {α : Type} {l : Lookup α} (h : Lookup.Within Request.structural l) :
    Lookup.Within Request.spares l := h.mono fun _ => Request.spares_of_structural

/-- The descriptor is asked if it is at hand, else the structure is looked up. -/
theorem goes_byDescriptor {α : Type} {ofCourse : Course → α} {ofContent : ContentStructure → α}
    {o : Except Failure α}
    (h : Lookup.Goes (do
      match (← get).course? with
      | some x => pure (ofCourse x)
      | none => ofContent <$> content) c xs o c') :
    (∃ x, c.course? = some x ∧ o = .ok (ofCourse x) ∧ c' = c) ∨
      c.course? = none ∧ ∃ o', o = o'.map ofContent ∧ content.Goes c xs o' c' := by
  rcases Lookup.goes_bind h with ⟨ys, zs, here, c₁, rfl, got, rest⟩ | ⟨f, -, failed⟩
  · obtain ⟨rfl, same, same'⟩ := Lookup.goes_get got
    cases same
    cases same'
    cases held : c.course? with
    | some x =>
      rw [held] at rest
      obtain ⟨-, rfl, rfl⟩ := Lookup.goes_pure rest
      exact .inl ⟨x, rfl, rfl, rfl⟩
    | none =>
      rw [held] at rest
      exact .inr ⟨rfl, Lookup.goes_map rest⟩
  · cases (Lookup.goes_get failed).2.1

/-- What is read off the edition: the descriptor's if it is at hand, else the structure's. -/
theorem goes_edition {α : Type} {ofCourse : Course → α} {ofContent : ContentStructure → α}
    {ofEdition : Option String × Option Instant → α}
    (course : ∀ x : Course, ofEdition (x.version, x.editedOn) = ofCourse x)
    (structured : ∀ x : ContentStructure, ofEdition (x.version, x.editedOn) = ofContent x) {a : α}
    (h : Lookup.Goes (do
      match (← get).course? with
      | some x => pure (ofCourse x)
      | none => ofContent <$> content) c xs (.ok a) c') :
    c'.edition?.map ofEdition = some a := by
  rcases goes_byDescriptor h with ⟨x, held, same, rfl⟩ | ⟨held, o, same, looked⟩
  · cases same
    rw [edition?, held, Option.map_some, course]
  · cases o with
    | error f => cases same
    | ok x =>
      cases same
      have kept := (spares_structural structural_content).course?_eq looked
      rw [edition?, kept.trans held, goes_content looked, Option.map_some, Option.map_some,
        structured]

theorem goes_contentVersion {version : Option String}
    (h : contentVersion.Goes c xs (.ok version) c') : c'.edition?.map (·.1) = some version :=
  goes_edition (fun _ => rfl) (fun _ => rfl) h

theorem goes_contentEditedAt {editedAt : Option Instant}
    (h : contentEditedAt.Goes c xs (.ok editedAt) c') : c'.edition?.map (·.2) = some editedAt :=
  goes_edition (fun _ => rfl) (fun _ => rfl) h

theorem goes_policyHash {hash : PolicyHash} (h : policyHash.Goes c xs (.ok hash) c') :
    c'.hash? = some hash := by
  rw [Lookup.Goes, dialogue_policyHash] at h
  cases held : c.hash? with
  | some hash' =>
    rw [held] at h
    cases (Dialogue.goes_done.1 h).2
    exact held
  | none =>
    rw [held] at h
    obtain ⟨ys, zs, ⟨o, c₁⟩, -, looked, rest⟩ := Dialogue.goes_bind.1 h
    cases o with
    | error f => cases (Dialogue.goes_done.1 rest).2
    | ok x =>
      cases (Dialogue.goes_done.1 rest).2
      rfl

/-- What is looked up without the descriptor leaves the edition at hand as it is. -/
theorem edition?_of_structural {α : Type} {l : Lookup α} (h : Lookup.Within Request.structural l)
    {o : Except Failure α} (goes : l.Goes c xs o c') {edition : Option String × Option Instant}
    (found : c.edition? = some edition) : c'.edition? = some edition :=
  (h.goes goes).2.toExtends.edition? ((spares_structural h).course?_eq goes) found

end Context

namespace StoredGrade

/-- The row of a breakdown of a learner over a previous row, at a time and in a context: what
the breakdown says, the stamps of the context, and the moments of the row's life. -/
structure Records (row : StoredGrade) (learner : LearnerId) (b : GradeBreakdown)
    (previous : Option StoredGrade) (now : Instant) (c : Context) : Prop
    extends row.Keeps learner c.key b where
  edition : c.edition? = some (row.contentVersion, row.contentEditedAt)
  policyHash : c.hash? = some row.policyHash
  passedAt : row.passedAt =
    if b.passed then some ((previous.bind (·.passedAt)).getD now) else none
  createdAt : row.createdAt = (previous.map (·.createdAt)).getD now
  modifiedAt : row.modifiedAt = now

theorem goes_record {learner : LearnerId} {b : GradeBreakdown} {previous : Option StoredGrade}
    {now : Instant} {c c' : Context} {xs : List Exchange} {row : StoredGrade}
    (h : (record learner b previous now).Goes c xs (.ok row) c') :
    row.Records learner b previous now c' := by
  obtain ⟨_, _, version, c₁, -, versioned, h⟩ := Lookup.goes_bind_ok h
  obtain ⟨_, _, editedAt, c₂, -, edited, h⟩ := Lookup.goes_bind_ok h
  obtain ⟨_, _, hash, c₃, -, hashed, h⟩ := Lookup.goes_bind_ok h
  obtain ⟨_, _, here, c₄, -, got, h⟩ := Lookup.goes_bind_ok h
  obtain ⟨-, same, rfl⟩ := Lookup.goes_get got
  cases same
  obtain ⟨-, same, rfl⟩ := Lookup.goes_pure h
  cases same
  -- The edition at hand after the first look at it stays the one at hand.
  obtain ⟨edition, first, rfl⟩ := Option.map_eq_some_iff.1 (Context.goes_contentVersion versioned)
  have second := Context.edition?_of_structural Context.structural_contentEditedAt edited first
  have third := Context.edition?_of_structural Context.structural_policyHash hashed second
  have editedAt := Context.goes_contentEditedAt edited
  rw [second] at editedAt
  cases editedAt
  have passed : (if b.passed then some ((previous.bind (·.passedAt)).getD now)
      else none).isSome = b.passed := by
    cases b.passed <;> rfl
  exact {
    learner := rfl, courseKey := rfl, percent := rfl, letterGrade := rfl, passed := passed,
    attempted := rfl, edition := third, policyHash := Context.goes_policyHash hashed,
    passedAt := rfl, createdAt := rfl,
    modifiedAt := rfl }

end StoredGrade

end Gradebook
