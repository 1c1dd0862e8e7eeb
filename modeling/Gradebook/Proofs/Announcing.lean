/-
# Gradebook.Proofs.Announcing — what is told and written is what is answered

Three traces of a history are compared: the grades answered, the notices delivered and the
rows written. `Exchanged.shows` compares them for one resolution, whatever the listeners do
with their notices and whatever the store, the calculator and the loader fail with, as long
as the loader does not crash. `Performance.announcements_match_answers` is the statement for
every history.

A crash of the loader is outside of it: the descriptor is loaded behind the row, for the
deadline of the notice, and a crash there leaves the row without a notice.
-/
import Gradebook.Proofs.Performances

namespace Gradebook

set_option autoImplicit false

namespace GradeEngine

/-- **One resolution**: a grade that was not computed, or a failure, shows nothing; a computed
grade is announced, behind its row if and only if it says that it was kept. -/
theorem Exchanged.shows {e : GradeEngine} {learner : Learner} {s : Strategy} {c : Context}
    {xs : List Exchange} {o : Except Failure ResolvedGrade} (h : Exchanged e learner s c xs o)
    (calm : ∀ x ∈ xs, x.loaderCrashed = false) :
    (sights xs = [] ∧ written xs = [] ∧ ∀ g, o = .ok g → ∀ kept, g.source ≠ .computed kept) ∨
      ∃ b kept rows deadline, o = .ok (.ofBreakdown learner.id c.key b kept) ∧
        rows.length = (if kept then 1 else 0) ∧ written xs = rows ∧
        sights xs = rows.map .written ++
          e.announcement learner (.ofBreakdown learner.id c.key b kept) deadline := by
  cases h with
  | hidden hidden answered => exact .inl ⟨sights_hidden hidden, written_hidden hidden, answered⟩
  | told gathers announced =>
    have early := hidden_of_gathers gathers
    have announces := ((within_announce e learner c.key _ _).goes announced).1
    obtain ⟨rfl, deadline, told⟩ := goes_announce announced fun x member =>
      calm x (List.mem_append_right _ member)
    refine .inr ⟨_, false, [], deadline, rfl, rfl, ?_, ?_⟩
    · rw [written_append, written_hidden early, written_announces announces, List.append_nil]
    · rw [sights_append, sights_hidden early, told]
      rfl
  | @kept _ _ _ _ _ _ row _ _ _ prepared announced =>
    have early := prepared.hidden
    have announces := ((within_announce e learner c.key _ _).goes announced).1
    obtain ⟨rfl, deadline, told⟩ := goes_announce announced fun x member =>
      calm x (List.mem_append_right _ (List.mem_cons_of_mem _ member))
    refine .inr ⟨_, true, [row], deadline, rfl, rfl, ?_, ?_⟩
    · rw [written_append, written_hidden early, written_put, written_announces announces]
      rfl
    · rw [sights_append, sights_hidden early, sights_put, told]
      rfl

end GradeEngine

namespace Performance

/-- What is seen of a performance is what its answer says: of a computed grade every listener
is told that it changed, for this learner, course and grade, and then, if it passes, that the
course is passed; ahead of all that one row is written if the grade was kept, and none if it
was not. Of everything else nothing is seen. -/
structure ShowsAnswer (p : Performance) : Prop where
  computed : ∀ g kept, p.grade? = some g → g.source = .computed kept →
    ∃ learner s c deadline, ∃ rows : List StoredGrade,
      p.operation.resolving? = some (learner, s, c) ∧
      g.learner = learner.id ∧ g.courseKey = c.key ∧ rows.length = (if kept then 1 else 0) ∧
      sights p.exchanges = rows.map .written ++
        p.engine.listeners.map (.told · (.changed learner g c.key deadline)) ++
        if g.passed then p.engine.listeners.map (.told · (.nowPassed learner c.key)) else []
  otherwise : (∀ g kept, p.grade? = some g → g.source ≠ .computed kept) → sights p.exchanges = []

variable {p : Performance}

theorem showsAnswer_of_plain (silent : sights p.exchanges = [])
    (plain : ∀ g, p.grade? = some g → ∀ kept, g.source ≠ .computed kept) : p.ShowsAnswer where
  computed g kept answered source := absurd source (plain g answered kept)
  otherwise _ := silent

theorem persisted_of_plain (plain : ∀ g, p.grade? = some g → ∀ kept, g.source ≠ .computed kept) :
    p.persisted = false := by
  rw [persisted]
  cases answered : p.grade? with
  | none => rfl
  | some g => exact decide_eq_false (plain g answered true)

/-- One performance: what it shows is its answer, and it writes a row exactly if it answers a
grade that was kept. -/
theorem shows_answer (calm : ∀ x ∈ p.exchanges, x.loaderCrashed = false) :
    p.ShowsAnswer ∧ (written p.exchanges).length = if p.persisted then 1 else 0 := by
  rcases p.cases with
    ⟨-, passes⟩ | ⟨learner, s, c, named, xs, logs, o, c', same, went, looks, answer⟩
  · refine ⟨showsAnswer_of_plain passes.sights passes.answered, ?_⟩
    rw [passes.written, persisted_of_plain passes.answered]
    rfl
  · have late := hidden_of_looks looks
    have seen : sights p.exchanges = sights xs := by
      rw [same, sights_append, sights_hidden late, List.append_nil]
    have wrote : written p.exchanges = written xs := by
      rw [same, written_append, written_hidden late, List.append_nil]
    have resolved := (GradeEngine.exchanged went).shows fun x member =>
      calm x (same ▸ List.mem_append_left _ member)
    rcases resolved with ⟨silent, none, plain⟩ | ⟨b, kept, rows, deadline, rfl, one, rfl, told⟩
    · have plain : ∀ g, p.grade? = some g → ∀ kept, g.source ≠ .computed kept := by
        intro g answered
        refine plain g ?_
        rw [answer] at answered
        cases o with
        | ok g' => exact congrArg Except.ok (Option.some.inj answered)
        | error f => cases answered
      refine ⟨showsAnswer_of_plain (seen.trans silent) plain, ?_⟩
      rw [wrote, none, persisted_of_plain plain]
      rfl
    · refine ⟨⟨fun g kept' answered source => ?_, fun plain => ?_⟩, ?_⟩
      · cases answered.symm.trans answer
        cases source
        refine ⟨learner, s, c, deadline, _, named, rfl, rfl, one, ?_⟩
        rw [seen, told, List.append_assoc]
        rfl
      · exact absurd rfl (plain _ kept answer)
      · rw [wrote, one, persisted, answer]
        cases kept <;> rfl

/-- **What is told and written matches what is answered**, over every history of operations
of any engines: each shows what its answer says, and there are as many rows written as grades
answered that were kept. -/
theorem announcements_match_answers (ps : List Performance)
    (calm : ∀ p ∈ ps, ∀ x ∈ p.exchanges, x.loaderCrashed = false) :
    (∀ p ∈ ps, p.ShowsAnswer) ∧
      (written (ps.flatMap (·.exchanges))).length = ps.countP (·.persisted) := by
  refine ⟨fun p member => (shows_answer (calm p member)).1, ?_⟩
  induction ps with
  | nil => rfl
  | cons p rest ih =>
    have first := (shows_answer (calm p List.mem_cons_self)).2
    have others := ih fun p member => calm p (List.mem_cons_of_mem _ member)
    rw [List.flatMap_cons, written_append, List.length_append, first, others, List.countP_cons,
      Nat.add_comm]

/-- Of three listeners one crashes and one fails. An update passes, the row is read back, and an
element of a batch computes once more. -/
theorem announcements_match_answers_troubled :
    let listeners : List Listener := [.observer "first" fun _ => .crashed (.text "bug"),
      .silent "second", .observer "third" fun _ => .failed "offline"]
    let b : GradeBreakdown := ⟨1.0, some "Pass", true, true, []⟩
    let e : GradeEngine := ⟨{}, .scripted b false {}, listeners⟩
    let w := Sample.world (Sample.course none ["hw1"])
    let context : Context := ⟨none, Sample.key, none, none, none⟩
    let ps := Performance.perform World.answer [(e, .update Sample.learner (.ofKey Sample.key)),
      (e, .read Sample.learner (.ofKey Sample.key)),
      (e, .next ⟨[some Sample.learner], context, .forceUpdate, { key := Sample.key }⟩)] w
    (∀ p ∈ ps, p.ShowsAnswer) ∧ (written (ps.flatMap (·.exchanges))).length = 2 := by
  intro listeners b e w context ps
  have calm : ∀ p ∈ ps, ∀ x ∈ p.exchanges, x.loaderCrashed = false := by decide +kernel
  obtain ⟨shows, count⟩ := announcements_match_answers ps calm
  exact ⟨shows, count.trans (by decide +kernel)⟩

end Performance

end Gradebook
