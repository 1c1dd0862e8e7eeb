/-
# Gradebook.Dialogue.Terms — what an operation asks, whatever it is answered

`Terms` bound a dialogue from both sides: the requests an operation may make and the
replies it may be given. `Honors t ends d` says of the whole tree that the operation
keeps its side as long as the surroundings keep theirs, and that it then ends in `ends`.

The statement is about every branch at once, so it holds in surroundings that fail or
change at will. `Honors.run` brings it back to one run: where answering keeps an
invariant, the run ends as promised and the invariant still holds.
-/
import Gradebook.Dialogue

namespace Gradebook

set_option autoImplicit false

/-- What may be asked, and what may be replied. -/
structure Terms where
  asks : Request → Prop
  given : (r : Request) → r.Reply → Prop

namespace Dialogue

variable {α β σ : Type} {t : Terms}

/-- Only requests within the terms, and an end in `ends`, on every branch whose replies
are within the terms. -/
def Honors (t : Terms) (ends : α → Prop) : Dialogue α → Prop
  | .done a => ends a
  | .ask r next => t.asks r ∧ ∀ reply, t.given r reply → Honors t ends (next reply)

@[simp] theorem honors_done (ends : α → Prop) (a : α) : Honors t ends (.done a) ↔ ends a :=
  Iff.rfl

theorem honors_ask (ends : α → Prop) (r : Request) (next : r.Reply → Dialogue α) :
    Honors t ends (.ask r next) ↔
      t.asks r ∧ ∀ reply, t.given r reply → Honors t ends (next reply) := Iff.rfl

theorem honors_bind (ends : β → Prop) (d : Dialogue α) (f : α → Dialogue β) :
    Honors t ends (d >>= f) ↔ Honors t (fun a => Honors t ends (f a)) d := by
  induction d with
  | done a => rfl
  | ask r next ih =>
    exact and_congr_right fun _ => forall_congr' fun reply => imp_congr_right fun _ => ih reply

theorem Honors.imp {ends ends' : α → Prop} {d : Dialogue α} (h : Honors t ends d)
    (imp : ∀ a, ends a → ends' a) : Honors t ends' d := by
  induction d with
  | done a => exact imp a h
  | ask r next ih => exact ⟨h.1, fun reply given => ih reply (h.2 reply given)⟩

/-- Terms that surroundings with the invariant `I` keep. -/
def KeptBy (t : Terms) (answer : Answering σ) (I : σ → Prop) : Prop :=
  ∀ r s, I s → t.asks r → t.given r (answer r s).1 ∧ I (answer r s).2

/-- **A run ends as promised**, and the surroundings keep their invariant. -/
theorem Honors.run {ends : α → Prop} {d : Dialogue α} {answer : Answering σ} {I : σ → Prop}
    (h : Honors t ends d) (kept : KeptBy t answer I) {s : σ} (start : I s) :
    ends (run answer d s).1 ∧ I (run answer d s).2 := by
  induction d generalizing s with
  | done a => exact ⟨h, start⟩
  | ask r next ih =>
    have ⟨given, still⟩ := kept r s start h.1
    exact ih _ (h.2 _ given) still

end Dialogue

end Gradebook
