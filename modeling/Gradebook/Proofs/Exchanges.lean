/-
# Gradebook.Proofs.Exchanges — what an operation and its surroundings said to each other

An exchange is a request with its reply. `Dialogue.Goes d xs rest` says that a dialogue may
go through the exchanges `xs`, and that `rest` is then left of it; with `rest` done it has
gone to its end. Nothing is said about the surroundings, so a statement about every list of
exchanges is one about surroundings that fail and change at will, and about an operation
among others that run at the same time.

* `Lookup.goes_bind` takes what a lookup exchanged apart where its parts meet;
* `Lookup.Within.goes` says where everything in a context at the end comes from: it was
  there before, or it was loaded in these exchanges;
* `Exchange.Truthful` and `Exchange.rowsAfter` are a store of rows kept in memory, one
  exchange at a time;
* `sights`, `written` and `readings` are what others see of exchanges, the rows among it,
  and what the clock said.
-/
import Gradebook.Proofs.Committing

namespace Gradebook

set_option autoImplicit false

open Dialogue (Honors)

/-- A request and its reply. -/
abbrev Exchange : Type := (r : Request) × r.Reply

namespace Dialogue

variable {α β σ : Type}

/-- The dialogue may go through these exchanges, and this is then left of it. -/
inductive Goes : Dialogue α → List Exchange → Dialogue α → Prop where
  | here (d : Dialogue α) : Goes d [] d
  | on {r : Request} {next : r.Reply → Dialogue α} {reply : r.Reply} {xs : List Exchange}
      {d : Dialogue α} (rest : Goes (next reply) xs d) : Goes (.ask r next) (⟨r, reply⟩ :: xs) d

theorem goes_done {a : α} {xs : List Exchange} {d : Dialogue α} :
    Goes (.done a) xs d ↔ xs = [] ∧ d = .done a :=
  ⟨fun h => by cases h; exact ⟨rfl, rfl⟩, fun ⟨hx, hd⟩ => hx ▸ hd ▸ .here _⟩

theorem goes_ask {r : Request} {next : r.Reply → Dialogue α} {xs : List Exchange} {a : α} :
    Goes (.ask r next) xs (.done a) ↔
      ∃ reply ys, xs = ⟨r, reply⟩ :: ys ∧ Goes (next reply) ys (.done a) := by
  constructor
  · rintro (_ | rest)
    exact ⟨_, _, rfl, rest⟩
  · rintro ⟨reply, ys, rfl, rest⟩
    exact .on rest

/-- A question that is announced in the log. -/
theorem goes_announced {entry : LogEntry} {r : Request} {next : r.Reply → α} {xs : List Exchange}
    {a : α} (h : Goes (.ask (.log entry) fun _ => .ask r fun reply => .done (next reply)) xs
      (.done a)) : ∃ reply, xs = [⟨.log entry, ()⟩, ⟨r, reply⟩] ∧ a = next reply := by
  obtain ⟨_, _, rfl, asking⟩ := goes_ask.1 h
  obtain ⟨reply, _, rfl, ended⟩ := goes_ask.1 asking
  obtain ⟨rfl, same⟩ := goes_done.1 ended
  cases same
  exact ⟨reply, rfl, rfl⟩

theorem goes_append {d d' : Dialogue α} {xs ys : List Exchange} :
    Goes d (xs ++ ys) d' ↔ ∃ mid, Goes d xs mid ∧ Goes mid ys d' := by
  constructor
  · intro h
    induction xs generalizing d with
    | nil => exact ⟨d, .here d, h⟩
    | cons x xs ih =>
      cases h with
      | on rest =>
        obtain ⟨mid, first, second⟩ := ih rest
        exact ⟨mid, .on first, second⟩
  · rintro ⟨mid, first, second⟩
    induction first with
    | here d => exact second
    | on _ ih => exact .on (ih second)

theorem goes_bind {d : Dialogue α} {f : α → Dialogue β} {xs : List Exchange} {b : β} :
    Goes (d >>= f) xs (.done b) ↔
      ∃ ys zs a, xs = ys ++ zs ∧ Goes d ys (.done a) ∧ Goes (f a) zs (.done b) := by
  constructor
  · intro h
    induction d generalizing xs with
    | done a => exact ⟨[], xs, a, rfl, .here _, h⟩
    | ask r next ih =>
      obtain ⟨reply, rest, rfl, going⟩ := goes_ask.1 h
      obtain ⟨ys, zs, a, rfl, first, second⟩ := ih reply going
      exact ⟨_, zs, a, rfl, .on first, second⟩
  · rintro ⟨ys, zs, a, rfl, first, second⟩
    induction d generalizing ys with
    | done a' =>
      obtain ⟨rfl, same⟩ := goes_done.1 first
      cases same
      exact second
    | ask r next ih =>
      obtain ⟨reply, rest, rfl, going⟩ := goes_ask.1 first
      exact .on (ih reply rest going)

/-- The exchanges decide where a dialogue ends, and when. -/
theorem Goes.ends_once {d : Dialogue α} {xs ys xs' ys' : List Exchange} {a a' : α}
    (h : Goes d xs (.done a)) (h' : Goes d xs' (.done a')) (same : xs ++ ys = xs' ++ ys') :
    xs = xs' ∧ ys = ys' ∧ a = a' := by
  induction d generalizing xs xs' with
  | done b =>
    obtain ⟨rfl, ended⟩ := goes_done.1 h
    obtain ⟨rfl, ended'⟩ := goes_done.1 h'
    cases ended
    cases ended'
    exact ⟨rfl, same, rfl⟩
  | ask r next ih =>
    obtain ⟨reply, rest, rfl, going⟩ := goes_ask.1 h
    obtain ⟨reply', rest', rfl, going'⟩ := goes_ask.1 h'
    rw [List.cons_append, List.cons_append] at same
    obtain ⟨first, rests⟩ := List.cons.inj same
    cases first
    obtain ⟨rfl, rfl, rfl⟩ := ih reply going going' rests
    exact ⟨rfl, rfl, rfl⟩

/-- A dialogue always gets to an end. -/
theorem goes_somewhere (d : Dialogue α) : ∃ xs a, Goes d xs (.done a) := by
  induction d with
  | done a => exact ⟨[], a, .here _⟩
  | ask r next ih =>
    have some : Nonempty r.Reply := by
      cases r <;> first
        | exact ⟨Except.error (.crash (.text ""))⟩
        | exact ⟨Except.error (.backend "")⟩
        | exact ⟨()⟩
        | exact ⟨Delivery.succeeded⟩
        | exact ⟨(default : Instant)⟩
        | exact ⟨(∅ : GradedBlocks)⟩
    obtain ⟨reply⟩ := some
    obtain ⟨xs, a, rest⟩ := ih reply
    exact ⟨_, a, .on rest⟩

/-- The exchanges of a run. -/
def exchanges (answer : Answering σ) : Dialogue α → σ → List Exchange
  | .done _, _ => []
  | .ask r next, s =>
    let reply := answer r s
    ⟨r, reply.1⟩ :: exchanges answer (next reply.1) reply.2

theorem goes_run (answer : Answering σ) (d : Dialogue α) (s : σ) :
    Goes d (exchanges answer d s) (.done (run answer d s).1) := by
  induction d generalizing s with
  | done a => exact .here _
  | ask r next ih => exact .on (ih _ _)

/-- Terms are kept along exchanges whose replies are within them. -/
theorem Honors.goes {t : Terms} {ends : α → Prop} {d : Dialogue α} (h : Honors t ends d)
    {xs : List Exchange} {a : α} (goes : Goes d xs (.done a))
    (given : ∀ x ∈ xs, t.given x.1 x.2) : ends a ∧ ∀ x ∈ xs, t.asks x.1 := by
  induction d generalizing xs with
  | done b =>
    obtain ⟨rfl, same⟩ := goes_done.1 goes
    cases same
    exact ⟨h, fun x member => nomatch member⟩
  | ask r next ih =>
    obtain ⟨reply, ys, rfl, rest⟩ := goes_ask.1 goes
    obtain ⟨ended, asks⟩ := ih reply (h.2 reply (given _ List.mem_cons_self)) rest
      fun x member => given x (List.mem_cons_of_mem _ member)
    exact ⟨ended, List.forall_mem_cons.2 ⟨h.1, asks⟩⟩

end Dialogue

/-! ## Lookups -/

namespace Context

/-- The second context is the first with cells filled in these exchanges. -/
structure FilledBy (xs : List Exchange) (c c' : Context) : Prop extends c.Extends c' where
  courseFrom : ∀ x, c'.course? = some x →
    c.course? = some x ∨ ⟨.loadCourse c.key, .ok x⟩ ∈ xs
  contentFrom : ∀ x, c'.content? = some x →
    c.content? = some x ∨ ⟨.loadContent c.key, .ok x⟩ ∈ xs
  sound : c.Sound → c'.Sound

theorem FilledBy.trans {xs ys : List Exchange} {a b c : Context} (h : a.FilledBy xs b)
    (k : b.FilledBy ys c) : a.FilledBy (xs ++ ys) c where
  toExtends := h.toExtends.trans k.toExtends
  courseFrom x held := by
    rcases k.courseFrom x held with held | loaded
    · exact (h.courseFrom x held).imp_right (List.mem_append_left _)
    · exact .inr (List.mem_append_right _ (h.key ▸ loaded))
  contentFrom x held := by
    rcases k.contentFrom x held with held | loaded
    · exact (h.contentFrom x held).imp_right (List.mem_append_left _)
    · exact .inr (List.mem_append_right _ (h.key ▸ loaded))
  sound start := k.sound (h.sound start)

theorem FilledBy.append {xs : List Exchange} {c c' : Context} (h : c.FilledBy xs c')
    (ys : List Exchange) : c.FilledBy (xs ++ ys) c' where
  toExtends := h.toExtends
  courseFrom x held := (h.courseFrom x held).imp_right (List.mem_append_left _)
  contentFrom x held := (h.contentFrom x held).imp_right (List.mem_append_left _)
  sound := h.sound

/-- Where replies are those of some exchanges, filling a cell fills it from them. -/
theorem lasting_filledBy (kinds : Request → Prop) (xs : List Exchange) (c₀ : Context) :
    Lasting ⟨kinds, fun r reply => ⟨r, reply⟩ ∈ xs⟩ (c₀.FilledBy xs ·) where
  course c x h empty given :=
    { (lasting_extends c₀).course c x h.toExtends empty given with
      courseFrom := fun y held => by
        cases held
        exact .inr (h.key ▸ given)
      contentFrom := h.contentFrom
      sound := h.sound }
  content c x h empty given :=
    { (lasting_extends c₀).content c x h.toExtends empty given with
      courseFrom := h.courseFrom
      contentFrom := fun y held => by
        cases held
        exact .inr (h.key ▸ given)
      sound := fun start =>
        lasting_sound.content (t := ⟨kinds, fun r reply => ⟨r, reply⟩ ∈ xs⟩) c x (h.sound start)
          empty given }
  hash c x h empty held :=
    { (lasting_extends c₀ (t := ⟨kinds, fun r reply => ⟨r, reply⟩ ∈ xs⟩)).hash c x h.toExtends
        empty held with
      courseFrom := h.courseFrom
      contentFrom := h.contentFrom
      sound := fun start =>
        lasting_sound.hash (t := ⟨kinds, fun r reply => ⟨r, reply⟩ ∈ xs⟩) c x (h.sound start)
          empty held }

end Context

namespace Lookup

variable {α β : Type} {c c' : Context} {xs : List Exchange}

/-- From a context through these exchanges to this end, in this context. -/
def Goes (l : Lookup α) (c : Context) (xs : List Exchange) (o : Except Failure α)
    (c' : Context) : Prop :=
  Dialogue.Goes (l.dialogue c) xs (.done (o, c'))

theorem goes_pure {a : α} {o : Except Failure α} (h : Goes (pure a) c xs o c') :
    xs = [] ∧ o = .ok a ∧ c' = c := by
  obtain ⟨rfl, same⟩ := Dialogue.goes_done.1 h
  cases same
  exact ⟨rfl, rfl, rfl⟩

theorem goes_get {o : Except Failure Context} (h : Goes get c xs o c') :
    xs = [] ∧ o = .ok c ∧ c' = c := by
  obtain ⟨rfl, same⟩ := Dialogue.goes_done.1 h
  cases same
  exact ⟨rfl, rfl, rfl⟩

theorem goes_ask {r : Request} {o : Except Failure r.Reply} (h : Goes (ask r) c xs o c') :
    ∃ reply, xs = [⟨r, reply⟩] ∧ o = .ok reply ∧ c' = c := by
  obtain ⟨reply, ys, rfl, rest⟩ := Dialogue.goes_ask.1 h
  obtain ⟨rfl, same⟩ := Dialogue.goes_done.1 rest
  cases same
  exact ⟨reply, rfl, rfl, rfl⟩

/-- A lookup in two parts ended in the second, or in the failure of the first. -/
theorem goes_bind {l : Lookup α} {f : α → Lookup β} {o : Except Failure β}
    (h : Goes (l >>= f) c xs o c') :
    (∃ ys zs a c₁, xs = ys ++ zs ∧ l.Goes c ys (.ok a) c₁ ∧ (f a).Goes c₁ zs o c') ∨
      ∃ failure, o = .error failure ∧ l.Goes c xs (.error failure) c' := by
  rw [Goes, dialogue_bind] at h
  obtain ⟨ys, zs, ⟨first, c₁⟩, rfl, before, after⟩ := Dialogue.goes_bind.1 h
  cases first with
  | ok a => exact .inl ⟨ys, zs, a, c₁, rfl, before, after⟩
  | error failure =>
    obtain ⟨rfl, same⟩ := Dialogue.goes_done.1 after
    cases same
    exact .inr ⟨failure, rfl, by rwa [List.append_nil]⟩

theorem goes_bind_ok {l : Lookup α} {f : α → Lookup β} {b : β}
    (h : Goes (l >>= f) c xs (.ok b) c') :
    ∃ ys zs a c₁, xs = ys ++ zs ∧ l.Goes c ys (.ok a) c₁ ∧ (f a).Goes c₁ zs (.ok b) c' := by
  rcases goes_bind h with found | ⟨failure, ended, -⟩
  · exact found
  · cases ended

theorem goes_map {l : Lookup α} {f : α → β} {o : Except Failure β} (h : Goes (f <$> l) c xs o c') :
    ∃ o', o = o'.map f ∧ l.Goes c xs o' c' := by
  rw [Goes, dialogue_map] at h
  obtain ⟨ys, zs, ⟨o', c₁⟩, rfl, first, second⟩ := Dialogue.goes_bind.1 h
  obtain ⟨rfl, same⟩ := Dialogue.goes_done.1 second
  cases same
  exact ⟨o', rfl, by rwa [List.append_nil]⟩

theorem goes_map_ok {l : Lookup α} {f : α → β} {b : β} (h : Goes (f <$> l) c xs (.ok b) c') :
    ∃ a, b = f a ∧ l.Goes c xs (.ok a) c' := by
  obtain ⟨o, mapped, first⟩ := goes_map h
  cases o with
  | error failure => cases mapped
  | ok a => exact ⟨a, Except.ok.inj mapped, first⟩

theorem goes_attempt {l : Lookup α} {o : Except Failure (Except GradeError α)}
    (h : (attempt l).Goes c xs o c') : ∃ o', o = caught o' ∧ l.Goes c xs o' c' := by
  rw [Goes, dialogue_attempt] at h
  obtain ⟨ys, zs, ⟨o', c₁⟩, rfl, first, second⟩ := Dialogue.goes_bind.1 h
  obtain ⟨rfl, same⟩ := Dialogue.goes_done.1 second
  cases same
  exact ⟨o', rfl, by rwa [List.append_nil]⟩

/-- What was tried goes on with what it found, unless it crashed. -/
theorem goes_attempt? {l : Lookup α} {f : Option α → Lookup β} {o : Except Failure β}
    (h : Goes (attempt? l >>= f) c xs o c') :
    (∃ ys zs o₁ c₁, xs = ys ++ zs ∧ l.Goes c ys o₁ c₁ ∧ (∀ k, o₁ ≠ .error (.crash k)) ∧
        (f o₁.toOption).Goes c₁ zs o c') ∨
      ∃ k, o = .error (.crash k) ∧ l.Goes c xs (.error (.crash k)) c' := by
  rcases goes_bind h with ⟨ys, zs, a, c₁, rfl, tried, after⟩ | ⟨failure, rfl, tried⟩
  all_goals
    obtain ⟨o₁, mapped, caught⟩ := goes_map tried
    obtain ⟨o₂, rfl, went⟩ := goes_attempt caught
    rcases o₂ with (x | k) | x
  · cases mapped
    exact .inl ⟨ys, zs, _, c₁, rfl, went, nofun, after⟩
  · cases mapped
  · cases mapped
    exact .inl ⟨ys, zs, _, c₁, rfl, went, nofun, after⟩
  · cases mapped
  · cases mapped
    exact .inr ⟨k, rfl, went⟩
  · cases mapped

/-- **Where a context comes from**: a lookup exchanged requests of its kinds, and filled cells
with what was loaded in these exchanges. -/
theorem Within.goes {kinds : Request → Prop} {l : Lookup α} (h : Within kinds l)
    {o : Except Failure α} (goes : l.Goes c xs o c') :
    (∀ x ∈ xs, kinds x.1) ∧ c.FilledBy xs c' := by
  have start : c.FilledBy xs c := ⟨.refl c, fun _ => .inl, fun _ => .inl, id⟩
  have honors := h ⟨kinds, fun r reply => ⟨r, reply⟩ ∈ xs⟩ (c.FilledBy xs ·) (fun _ kind => kind)
    (Context.lasting_filledBy kinds xs c) c start
  obtain ⟨ended, asks⟩ := honors.goes goes fun x member => member
  refine ⟨asks, ?_⟩
  cases o <;> exact ended

end Lookup

namespace Request

/-- All but loading a descriptor. -/
def spares : Request → Prop
  | .loadCourse _ => False
  | _ => True

theorem spares_of_structural {r : Request} (h : r.structural) : r.spares := by
  cases r <;> first | exact h | trivial

end Request

/-- A lookup that does not load a descriptor leaves its cell as it is. -/
theorem Lookup.Within.course?_eq {α : Type} {l : Lookup α} (h : Within Request.spares l)
    {c c' : Context} {xs : List Exchange} {o : Except Failure α} (goes : l.Goes c xs o c') :
    c'.course? = c.course? := by
  obtain ⟨asks, filled⟩ := h.goes goes
  cases held : c'.course? with
  | some x =>
    rcases filled.courseFrom x held with here | loaded
    · exact here.symm
    · exact (asks _ loaded).elim
  | none =>
    cases here : c.course? with
    | none => rfl
    | some x => cases held.symm.trans (filled.course x here)

/-! ## Rows kept in memory -/

namespace Exchange

/-- The rows after an exchange: a row put without an error is there from now on. -/
def rowsAfter (rows : MemoryRows) : Exchange → MemoryRows
  | ⟨.putRow row, .ok _⟩ => rows.put row
  | _ => rows

/-- A row is found if these rows have it. A request may still be refused. -/
def Truthful (rows : MemoryRows) : Exchange → Prop
  | ⟨.findRow learner key, .ok found⟩ => found = rows.find? learner key
  | _ => True

/-- The row put, unless it was refused. -/
def row? : Exchange → Option StoredGrade
  | ⟨.putRow row, .ok _⟩ => some row
  | _ => none

theorem rowsAfter_eq (rows : MemoryRows) (x : Exchange) :
    x.rowsAfter rows = (x.row?.map rows.put).getD rows := by
  obtain ⟨r, reply⟩ := x
  cases r with
  | putRow row => cases reply <;> rfl
  | _ => rfl

theorem row?_eq_some {x : Exchange} {row : StoredGrade} (h : x.row? = some row) :
    x = ⟨.putRow row, .ok ()⟩ := by
  obtain ⟨r, reply⟩ := x
  cases r with
  | putRow row' =>
    cases reply with
    | error e => cases h
    | ok u =>
      cases h
      rfl
  | _ => cases h

end Exchange

theorem MemoryRows.find?_put (rows : MemoryRows) (row : StoredGrade) (learner : LearnerId)
    (key : CourseKey) : (rows.put row).find? learner key =
      if row.learner = learner ∧ row.courseKey = key then some row
      else rows.find? learner key := by
  simp only [find?, put, Assoc.find?_put, Prod.mk.injEq]

/-! ## What is seen of an exchange -/

namespace Request

/-- What a resolution asks for before it concludes. -/
def gathers : Request → Prop
  | .findRow _ _ | .computing _ => True
  | r => r.consults

theorem gathers_of_consults {r : Request} (h : r.consults) : r.gathers := by
  cases r <;> first | exact h | trivial

theorem gathers_of_looks {r : Request} (h : r.looks) : r.gathers :=
  gathers_of_consults (consults_of_looks h)

theorem gathers_of_structural {r : Request} (h : r.structural) : r.gathers :=
  gathers_of_looks (looks_of_structural h)

theorem discreet_of_gathers {r : Request} (h : r.gathers) : r.discreet := by
  cases r <;> first | exact h.elim | trivial

end Request

/-- What others see of an operation: its rows and its notices. -/
inductive Sight where
  | written (row : StoredGrade)
  | told (listener : Listener) (notice : Notice)

namespace Exchange

/-- Nobody sees it. -/
def Hidden (x : Exchange) : Prop := ¬x.1.shows x.2

/-- What is seen of an exchange. How a listener takes a notice does not matter. -/
def sight? : Exchange → Option Sight
  | ⟨.putRow row, .ok _⟩ => some (.written row)
  | ⟨.deliver listener notice, _⟩ => some (.told listener notice)
  | _ => none

/-- What the clock said. -/
def reading? : Exchange → Option Instant
  | ⟨.clock, t⟩ => some t
  | _ => none

theorem Hidden.sight? {x : Exchange} (h : x.Hidden) : x.sight? = none := by
  obtain ⟨r, reply⟩ := x
  cases r with
  | putRow row =>
    cases reply with
    | error e => rfl
    | ok u => exact absurd rfl h
  | deliver listener notice => exact absurd trivial h
  | _ => rfl

theorem Hidden.row? {x : Exchange} (h : x.Hidden) : x.row? = none := by
  obtain ⟨r, reply⟩ := x
  cases r with
  | putRow row =>
    cases reply with
    | error e => rfl
    | ok u => exact absurd rfl h
  | _ => rfl

theorem row?_announces {x : Exchange} (h : x.1.announces) : x.row? = none := by
  obtain ⟨r, reply⟩ := x
  cases r with
  | putRow row => exact h.elim
  | _ => rfl

theorem reading?_gathers {x : Exchange} (h : x.1.gathers) : x.reading? = none := by
  obtain ⟨r, reply⟩ := x
  cases r with
  | clock => exact h.elim
  | _ => rfl

theorem reading?_announces {x : Exchange} (h : x.1.announces) : x.reading? = none := by
  obtain ⟨r, reply⟩ := x
  cases r with
  | clock => exact h.elim
  | _ => rfl

end Exchange

/-- What is seen of exchanges, in order. -/
def sights (xs : List Exchange) : List Sight := xs.filterMap Exchange.sight?

/-- The rows written in exchanges, in order. -/
def written (xs : List Exchange) : List StoredGrade := xs.filterMap Exchange.row?

/-- The readings of the clock in exchanges, in order. -/
def readings (xs : List Exchange) : List Instant := xs.filterMap Exchange.reading?

section Seen

variable {xs : List Exchange}

@[simp] theorem sights_append (xs ys : List Exchange) :
    sights (xs ++ ys) = sights xs ++ sights ys := List.filterMap_append

@[simp] theorem written_append (xs ys : List Exchange) :
    written (xs ++ ys) = written xs ++ written ys := List.filterMap_append

@[simp] theorem readings_append (xs ys : List Exchange) :
    readings (xs ++ ys) = readings xs ++ readings ys := List.filterMap_append

/-! A row put is seen and written; the clock is not read by it. -/

theorem sights_put (row : StoredGrade) (xs : List Exchange) :
    sights (⟨.putRow row, .ok ()⟩ :: xs) = .written row :: sights xs := rfl

theorem written_put (row : StoredGrade) (xs : List Exchange) :
    written (⟨.putRow row, .ok ()⟩ :: xs) = row :: written xs := rfl

theorem readings_put (row : StoredGrade) (xs : List Exchange) :
    readings (⟨.putRow row, .ok ()⟩ :: xs) = readings xs := rfl

theorem sights_hidden (h : ∀ x ∈ xs, x.Hidden) : sights xs = [] :=
  List.filterMap_eq_nil_iff.2 fun x member => (h x member).sight?

theorem written_hidden (h : ∀ x ∈ xs, x.Hidden) : written xs = [] :=
  List.filterMap_eq_nil_iff.2 fun x member => (h x member).row?

theorem written_announces (h : ∀ x ∈ xs, x.1.announces) : written xs = [] :=
  List.filterMap_eq_nil_iff.2 fun x member => Exchange.row?_announces (h x member)

theorem readings_gathers (h : ∀ x ∈ xs, x.1.gathers) : readings xs = [] :=
  List.filterMap_eq_nil_iff.2 fun x member => Exchange.reading?_gathers (h x member)

theorem readings_announces (h : ∀ x ∈ xs, x.1.announces) : readings xs = [] :=
  List.filterMap_eq_nil_iff.2 fun x member => Exchange.reading?_announces (h x member)

theorem hidden_of_discreet (h : ∀ x ∈ xs, x.1.discreet) : ∀ x ∈ xs, x.Hidden :=
  fun x member => Request.not_shows (h x member) x.2

theorem hidden_of_gathers (h : ∀ x ∈ xs, x.1.gathers) : ∀ x ∈ xs, x.Hidden :=
  hidden_of_discreet fun x member => Request.discreet_of_gathers (h x member)

theorem hidden_of_looks (h : ∀ x ∈ xs, x.1.looks) : ∀ x ∈ xs, x.Hidden :=
  hidden_of_discreet fun x member => Request.discreet_of_looks (h x member)

end Seen

end Gradebook
