/-
# Gradebook.Proofs.Performances — operations with what they exchanged

A `Performance` is an operation of an engine together with its exchanges up to its end and
the outcome it ended in. A list of them is a history: nothing ties the replies of one to
those of another, so that rows, content, listeners and clock may change at will in between
and meanwhile. `perform` is the history of operations in surroundings with a state.

`Performance.cases` is what every one of them comes down to: it graded nobody and nothing is
seen of it, or it is one resolution, followed by entries in the log.
-/
import Gradebook.Proofs.Upserting

namespace Gradebook

set_option autoImplicit false

namespace Dialogue

variable {α β : Type}

theorem goes_map {d : Dialogue α} {f : α → β} {xs : List Exchange} {b : β} :
    Goes (f <$> d) xs (.done b) ↔ ∃ a, b = f a ∧ Goes d xs (.done a) := by
  rw [← bind_pure_comp, goes_bind]
  constructor
  · rintro ⟨ys, zs, a, rfl, first, last⟩
    obtain ⟨rfl, same⟩ := goes_done.1 last
    cases same
    exact ⟨a, rfl, by rwa [List.append_nil]⟩
  · rintro ⟨a, rfl, first⟩
    exact ⟨xs, [], a, (List.append_nil xs).symm, first, .here _⟩

end Dialogue

namespace GradeEngine

/-- What an element of a batch, if one came, ended in. -/
def elementOutcome : Option GradeResult → Except Failure (Option ResolvedGrade)
  | none => .ok none
  | some r => (r.outcome.map some).mapError .error

namespace Operation

/-- Who is graded, how, and in which context, if an operation grades anyone. -/
def resolving? : Operation → Option (Learner × Strategy × Context)
  | .create learner i =>
    (Context.ofInputs (some learner.id) i).toOption.map (learner, .createIfStale, ·)
  | .update learner i =>
    (Context.ofInputs (some learner.id) i).toOption.map (learner, .forceUpdate, ·)
  | .resolve learner c s => some (learner, s, c)
  | .next b => match b.supply with
    | some learner :: _ => some (learner, b.strategy, b.context.forLearner learner.id)
    | _ => none
  | .read .. | .startBatch .. => none

/-- The operation, and what it answers: a grade, no grade, or a failure. -/
def outcome (e : GradeEngine) : Operation → Dialogue (Except Failure (Option ResolvedGrade))
  | .create learner i => Except.map some <$> e.create learner i
  | .read learner i => e.read learner i
  | .update learner i => Except.map some <$> e.update learner i
  | .resolve learner c s => Except.map some <$> e.resolve learner c s
  | .startBatch supply i s => (Except.map fun _ => none) <$> Batch.start supply i s
  | .next b => (fun r => elementOutcome r.1) <$> b.next e

end Operation

end GradeEngine

/-- An operation that was carried out, with what it exchanged on the way. -/
structure Performance where
  engine : GradeEngine
  operation : GradeEngine.Operation
  exchanges : List Exchange
  outcome : Except Failure (Option ResolvedGrade)
  went : (operation.outcome engine).Goes exchanges (.done outcome)

namespace Performance

/-- The grade answered, if one is. -/
def grade? (p : Performance) : Option ResolvedGrade := p.outcome.toOption.join

/-- A grade that was kept is answered. -/
def persisted (p : Performance) : Bool :=
  p.grade?.any fun g => g.source = .computed true

/-- Operations one after the other, each of its engine, in surroundings with a state. -/
def perform {σ : Type} (answer : Dialogue.Answering σ) :
    List (GradeEngine × GradeEngine.Operation) → σ → List Performance
  | [], _ => []
  | (e, op) :: rest, s =>
    ⟨e, op, (op.outcome e).exchanges answer s, _, Dialogue.goes_run answer (op.outcome e) s⟩ ::
      perform answer rest ((op.outcome e).run answer s).2

end Performance

/-! ## What a performance comes down to -/

namespace GradeEngine

variable {α : Type} {e : GradeEngine} {learner : Learner} {xs : List Exchange}

theorem goes_within {i : CourseInputs} {l : Lookup α} {o : Except Failure α}
    (h : (within learner i l).Goes xs (.done o)) :
    (∃ x, Context.ofInputs (some learner.id) i = .error x ∧ xs = [] ∧ o = .error (.error x)) ∨
      ∃ c c', Context.ofInputs (some learner.id) i = .ok c ∧ l.Goes c xs o c' := by
  unfold within at h
  cases opened : Context.ofInputs (some learner.id) i with
  | error x =>
    rw [opened] at h
    obtain ⟨rfl, same⟩ := Dialogue.goes_done.1 h
    cases same
    exact .inl ⟨x, rfl, rfl, rfl⟩
  | ok c =>
    rw [opened] at h
    obtain ⟨⟨o, c'⟩, rfl, went⟩ := Dialogue.goes_map.1 h
    exact .inr ⟨c, c', rfl, went⟩

theorem within_readHere (e : GradeEngine) (learner : Learner) :
    Lookup.Within Request.gathers (e.readHere learner) := by
  have structural (r : Request) : r.structural → r.gathers := Request.gathers_of_structural
  refine Lookup.within_bind (within_readStored structural (fun _ _ => trivial) e learner)
    fun found => ?_
  cases found with
  | some row => exact Lookup.within_pure _
  | none =>
    refine Lookup.within_bind Lookup.within_get fun c => ?_
    split
    · exact Lookup.within_map _ (within_createZero structural learner)
    · exact Lookup.within_pure _

/-- What is read was not computed now. -/
theorem source_readHere {c c' : Context} {g : ResolvedGrade}
    (h : (e.readHere learner).Goes c xs (.ok (some g)) c') (kept : Bool) :
    g.source ≠ .computed kept := by
  obtain ⟨_, _, found, c₁, rfl, -, read⟩ := Lookup.goes_bind_ok h
  cases found with
  | some row =>
    cases (Lookup.goes_pure read).2.1
    exact GradeSource.noConfusion
  | none =>
    obtain ⟨_, _, here, c₂, rfl, -, decided⟩ := Lookup.goes_bind_ok read
    split at decided
    · obtain ⟨g, same, zero⟩ := Lookup.goes_map_ok decided
      cases same
      exact source_createZero zero kept
    · cases (Lookup.goes_pure decided).2.1

end GradeEngine

namespace Batch

variable {e : GradeEngine} {b : Batch} {xs : List Exchange}

theorem goes_logResult {r : GradeResult} {u : Unit} (h : (b.logResult r).Goes xs (.done u)) :
    ∀ x ∈ xs, ∃ entry, x.1 = .log entry := by
  have logs : Dialogue.Honors ⟨fun r => ∃ entry, r = .log entry, fun _ _ => True⟩ (fun _ => True)
      (b.logResult r) := by
    rcases r with ⟨learner, x | g⟩
    · exact ⟨⟨_, rfl⟩, fun _ _ => ⟨⟨_, rfl⟩, fun _ _ => trivial⟩⟩
    · exact ⟨⟨_, rfl⟩, fun _ _ => trivial⟩
  exact (logs.goes h fun _ _ => trivial).2

/-- An element of a batch is one resolution, and then entries in the log. -/
theorem goes_gradeOne {learner : Learner} {r : GradeResult}
    (h : (b.gradeOne e learner).Goes xs (.done r)) :
    ∃ ys zs o c', xs = ys ++ zs ∧
      (e.resolveHere learner b.strategy).Goes (b.context.forLearner learner.id) ys o c' ∧
      (∀ x ∈ zs, ∃ entry, x.1 = .log entry) ∧ r = ⟨learner, o.mapError Failure.contained⟩ := by
  obtain ⟨ys, zs, o, rfl, resolved, logged⟩ := Dialogue.goes_bind.1 h
  obtain ⟨⟨o, c'⟩, rfl, resolved⟩ := Dialogue.goes_map.1 resolved
  obtain ⟨us, vs, u, rfl, logs, ended⟩ := Dialogue.goes_bind.1 logged
  obtain ⟨rfl, same⟩ := Dialogue.goes_done.1 ended
  cases same
  refine ⟨ys, _, o, c', rfl, resolved, ?_, rfl⟩
  rw [List.append_nil]
  exact goes_logResult logs

/-- A batch is refused at once, or takes its snapshot in the context of its inputs. -/
theorem goes_start {supply : Supply} {i : CourseInputs} {s : Strategy}
    {o : Except Failure Batch} (h : (start supply i s).Goes xs (.done o)) :
    (∃ x, Context.ofInputs none i = .error x ∧ xs = [] ∧ o = .error (.error x)) ∨
      ∃ c c' r, Context.ofInputs none i = .ok c ∧ prepare.Goes c xs r c' ∧
        o = r.map fun _ => ⟨supply, c', s, { key := c'.key }⟩ := by
  unfold start at h
  cases opened : Context.ofInputs none i with
  | error x =>
    rw [opened] at h
    obtain ⟨rfl, same⟩ := Dialogue.goes_done.1 h
    cases same
    exact .inl ⟨x, rfl, rfl, rfl⟩
  | ok c =>
    rw [opened] at h
    obtain ⟨ys, zs, ⟨r, c'⟩, rfl, prepared, ended⟩ := Dialogue.goes_bind.1 h
    refine .inr ⟨c, c', r, rfl, ?_⟩
    cases r with
    | error f =>
      obtain ⟨rfl, same⟩ := Dialogue.goes_done.1 ended
      cases same
      exact ⟨by rwa [List.append_nil], rfl⟩
    | ok u =>
      obtain ⟨rfl, same⟩ := Dialogue.goes_done.1 ended
      cases same
      exact ⟨by rwa [List.append_nil], rfl⟩

/-- Closing a batch releases what is kept for it, unless that is done. -/
theorem close_cases {b' : Batch} (h : b.close.Goes xs (.done b')) :
    (xs = [] ∨ xs = [⟨.clear b.transaction.key, ()⟩]) ∧ b'.context = b.context := by
  unfold close at h
  split at h
  · obtain ⟨rfl, same⟩ := Dialogue.goes_done.1 h
    cases same
    exact ⟨.inl rfl, rfl⟩
  · obtain ⟨_, ys, rfl, rest⟩ := Dialogue.goes_ask.1 h
    obtain ⟨rfl, same⟩ := Dialogue.goes_done.1 rest
    cases same
    exact ⟨.inr rfl, rfl⟩

/-- **A call to a batch** grades the next learner in a fork of its context, or closes it. Its
context stays as it is. -/
theorem goes_next {r : Option GradeResult} {b' : Batch}
    (h : (b.next e).Goes xs (.done (r, b'))) :
    b'.context = b.context ∧
      ((∃ learner rest ys zs o c', b.supply = some learner :: rest ∧ xs = ys ++ zs ∧
          (e.resolveHere learner b.strategy).Goes (b.context.forLearner learner.id) ys o c' ∧
          (∀ x ∈ zs, ∃ entry, x.1 = .log entry) ∧
          r = some ⟨learner, o.mapError Failure.contained⟩) ∨
        (∀ learner rest, b.supply ≠ some learner :: rest) ∧ r = none ∧
          (xs = [] ∨ xs = [⟨.clear b.transaction.key, ()⟩])) := by
  have closes {b₁ : Batch} (h : Dialogue.Goes (do
      let b ← b₁.close
      pure (none, b)) xs (.done (r, b'))) :
      r = none ∧ (xs = [] ∨ xs = [⟨.clear b₁.transaction.key, ()⟩]) ∧
        b'.context = b₁.context := by
    obtain ⟨ys, zs, b₂, rfl, closed, ended⟩ := Dialogue.goes_bind.1 h
    obtain ⟨rfl, pair⟩ := Dialogue.goes_done.1 ended
    cases pair
    rw [List.append_nil]
    exact ⟨rfl, close_cases closed⟩
  unfold next at h
  split at h
  · next learner rest supply =>
    obtain ⟨ys, zs, r', rfl, graded, ended⟩ := Dialogue.goes_bind.1 h
    obtain ⟨rfl, pair⟩ := Dialogue.goes_done.1 ended
    cases pair
    obtain ⟨us, vs, o, c', rfl, resolved, logs, rfl⟩ := goes_gradeOne graded
    exact ⟨rfl, .inl ⟨learner, rest, us, vs, o, c', supply, List.append_nil _, resolved, logs,
      rfl⟩⟩
  · next rest supply =>
    obtain ⟨none, cleared, same⟩ := closes h
    refine ⟨same, .inr ⟨fun learner rest named => ?_, none, cleared⟩⟩
    cases supply.symm.trans named
  · next supply =>
    obtain ⟨none, cleared, same⟩ := closes h
    refine ⟨same, .inr ⟨fun learner rest named => ?_, none, cleared⟩⟩
    cases supply.symm.trans named

end Batch

namespace Performance

open GradeEngine (Exchanged)

/-- It graded nobody, and nothing is seen of it. -/
structure Passes (p : Performance) : Prop where
  sights : sights p.exchanges = []
  written : written p.exchanges = []
  answered : ∀ g, p.grade? = some g → ∀ kept, g.source ≠ .computed kept

/-- It is the resolution for a learner in a context, and then entries in the log. -/
def Resolves (p : Performance) (learner : Learner) (s : Strategy) (c : Context) : Prop :=
  ∃ xs logs o c', p.exchanges = xs ++ logs ∧
    (p.engine.resolveHere learner s).Goes c xs o c' ∧ (∀ x ∈ logs, x.1.looks) ∧
    p.grade? = o.toOption

theorem resolves_of_goes {p : Performance} {learner : Learner} {s : Strategy} {c c' : Context}
    {o : Except Failure ResolvedGrade}
    (h : (p.engine.resolveHere learner s).Goes c p.exchanges o c')
    (answered : p.outcome = o.map some) : p.Resolves learner s c := by
  refine ⟨p.exchanges, [], o, c', (List.append_nil _).symm, h, fun _ member => (nomatch member), ?_⟩
  rw [grade?, answered]
  cases o <;> rfl

theorem passes_of_gathers {p : Performance} (h : ∀ x ∈ p.exchanges, x.1.gathers)
    (answered : ∀ g, p.grade? = some g → ∀ kept, g.source ≠ .computed kept) : p.Passes := by
  have hidden := hidden_of_gathers h
  exact ⟨sights_hidden hidden, written_hidden hidden, answered⟩

/-- An operation refused at once passes. -/
theorem passes_of_nil {p : Performance} (silent : p.exchanges = []) (refused : p.grade? = none) :
    p.Passes := by
  refine passes_of_gathers (fun x member => ?_) fun g answered => ?_
  · cases silent ▸ member
  · cases refused.symm.trans answered

variable {p : Performance} {learner : Learner} {i : CourseInputs}

/-- A resolution on inputs is refused, or goes on in their context. -/
theorem cases_within {s : Strategy} (named : p.operation.resolving? =
      (Context.ofInputs (some learner.id) i).toOption.map (learner, s, ·))
    (asked : p.operation.outcome p.engine =
      Except.map some <$> GradeEngine.within learner i (p.engine.resolveHere learner s)) :
    (p.operation.resolving? = none ∧ p.Passes) ∨
      ∃ learner s c, p.operation.resolving? = some (learner, s, c) ∧ p.Resolves learner s c := by
  have went := p.went
  rw [asked] at went
  obtain ⟨o, outcome, resolved⟩ := Dialogue.goes_map.1 went
  rcases GradeEngine.goes_within resolved with ⟨x, refused, silent, rfl⟩ | ⟨c, c', opened, resolved⟩
  · rw [refused] at named
    exact .inl ⟨named, passes_of_nil silent (by rw [grade?, outcome]; rfl)⟩
  · rw [opened] at named
    exact .inr ⟨learner, s, c, named, resolves_of_goes resolved outcome⟩

theorem passes_read (read : p.operation = .read learner i) : p.Passes := by
  have went := p.went
  rw [read] at went
  rcases GradeEngine.goes_within went with ⟨x, -, silent, refused⟩ | ⟨c, c', -, found⟩
  · exact passes_of_nil silent (by rw [grade?, refused]; rfl)
  · refine passes_of_gathers ((GradeEngine.within_readHere _ _).goes found).1 fun g answered => ?_
    rw [grade?] at answered
    cases ended : p.outcome with
    | error f => rw [ended] at answered; cases answered
    | ok found? =>
      rw [ended] at answered found
      cases answered
      exact GradeEngine.source_readHere found

theorem passes_startBatch {supply : Supply} {s : Strategy}
    (start : p.operation = .startBatch supply i s) : p.Passes := by
  have went := p.went
  rw [start] at went
  obtain ⟨o, outcome, started⟩ := Dialogue.goes_map.1 went
  have none : p.grade? = none := by
    rw [grade?, outcome]
    cases o <;> rfl
  rcases Batch.goes_start started with ⟨x, -, silent, -⟩ | ⟨c, c', r, -, prepared, -⟩
  · exact passes_of_nil silent none
  · have looks := (Batch.within_prepare.goes prepared).1
    refine passes_of_gathers (fun x member => ?_) fun g answered => ?_
    · exact Request.gathers_of_looks (looks x member)
    · cases none.symm.trans answered

/-- The next element of a batch is one resolution, or the batch is closed. -/
theorem cases_next {b : Batch} (next : p.operation = .next b) :
    (p.operation.resolving? = none ∧ p.Passes) ∨
      ∃ learner s c, p.operation.resolving? = some (learner, s, c) ∧ p.Resolves learner s c := by
  have went := p.went
  rw [next] at went ⊢
  obtain ⟨⟨r, b'⟩, outcome, called⟩ := Dialogue.goes_map.1 went
  simp only [GradeEngine.Operation.resolving?]
  obtain ⟨-, ⟨learner, rest, ys, zs, o, c', supply, same, resolved, logs, rfl⟩ |
    ⟨nobody, rfl, cleared⟩⟩ := Batch.goes_next called
  · refine .inr ⟨learner, b.strategy, _, by rw [supply], ys, zs, o, c', same, resolved,
      fun x member => ?_, ?_⟩
    · obtain ⟨entry, logged⟩ := logs x member
      rw [logged]
      trivial
    · rw [grade?, outcome]
      rcases o with (x | k) | g <;> rfl
  · refine .inl ⟨?_, ?_, ?_, fun g answered => ?_⟩
    · split
      · next learner rest supply => exact absurd supply (nobody learner rest)
      · rfl
    · rcases cleared with silent | silent <;> rw [silent] <;> rfl
    · rcases cleared with silent | silent <;> rw [silent] <;> rfl
    · rw [grade?, outcome] at answered
      cases answered

/-- **Every performance** passes, or is the one resolution that its operation names. -/
theorem cases (p : Performance) : (p.operation.resolving? = none ∧ p.Passes) ∨
    ∃ learner s c, p.operation.resolving? = some (learner, s, c) ∧ p.Resolves learner s c := by
  cases asked : p.operation with
  | create learner i => exact asked ▸ cases_within (by rw [asked]; rfl) (by rw [asked]; rfl)
  | read learner i => exact .inl ⟨rfl, passes_read asked⟩
  | update learner i => exact asked ▸ cases_within (by rw [asked]; rfl) (by rw [asked]; rfl)
  | resolve learner c s =>
    have went := p.went
    rw [asked] at went
    obtain ⟨o, outcome, resolved⟩ := Dialogue.goes_map.1 went
    obtain ⟨⟨o, c'⟩, rfl, resolved⟩ := Dialogue.goes_map.1 resolved
    exact .inr ⟨learner, s, c, rfl, resolves_of_goes resolved outcome⟩
  | startBatch supply i s => exact .inl ⟨rfl, passes_startBatch asked⟩
  | next b => exact asked ▸ cases_next asked

/-- **Every performance** writes no row, or one, behind all that its resolution prepared. -/
theorem upsert (p : Performance) : written p.exchanges = [] ∨
    ∃ learner s c ys zs b previous now row c', p.operation.resolving? = some (learner, s, c) ∧
      p.exchanges = ys ++ ⟨.putRow row, .ok ()⟩ :: zs ∧
      GradeEngine.Prepared p.engine learner s c ys b previous now row c' ∧
      ∀ x ∈ zs, x.1.announces := by
  rcases p.cases with ⟨-, passes⟩ | ⟨learner, s, c, named, xs, logs, o, c', same, went, looks, -⟩
  · exact .inl passes.written
  · rcases (GradeEngine.exchanged went).upsert with
      none | ⟨ys, zs, b, previous, now, row, c₁, rfl, prepared, announces⟩
    · have late := hidden_of_looks looks
      exact .inl (by rw [same, written_append, none, written_hidden late]; rfl)
    · refine .inr ⟨learner, s, c, ys, zs ++ logs, b, previous, now, row, c₁, named, ?_, prepared,
        fun x member => ?_⟩
      · rw [same, List.append_assoc, List.cons_append]
      · exact (List.mem_append.1 member).elim (announces x) fun log =>
          Request.announces_of_looks (looks x log)

/-- What is seen of a performance that wrote a row. -/
theorem seen_of_prepared {l : Learner} {s : Strategy} {c c' : Context} {ys zs : List Exchange}
    {b : GradeBreakdown} {previous : Option StoredGrade} {now : Instant} {row : StoredGrade}
    (same : p.exchanges = ys ++ ⟨.putRow row, .ok ()⟩ :: zs)
    (prepared : GradeEngine.Prepared p.engine l s c ys b previous now row c')
    (announces : ∀ x ∈ zs, x.1.announces) :
    written p.exchanges = [row] ∧ readings p.exchanges = [now] := by
  have early := written_hidden prepared.hidden
  constructor
  · rw [same, written_append, early, written_put, written_announces announces]
    rfl
  · rw [same, readings_append, prepared.readings, readings_put, readings_announces announces]
    rfl

end Performance

end Gradebook
