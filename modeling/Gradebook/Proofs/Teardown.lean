/-
# Gradebook.Proofs.Teardown — the derived data of a course is given up once per batch

A batch has the care of its course's derived data, and so has a transaction begun without one
(`Care`). What begins and ends is read off the steps of a session and their answers alone: a
batch ends when a call brings nobody or when it is given up, a transaction when it is released
(`Event.ends?`). Either may happen again, to a batch that yields more learners as well.

One step does one of four things (`Tended`): it clears a course by name, it begins a care, it
ends one, or it leaves all care as it is. Only a first end and a clearing by name touch the
count, and only they remove an entry (`DerivedCache.Retains`). `Tallied` follows the count over
a run; the cares that have ended are a set, so that one that ends again is counted once.
-/
import Mathlib.Data.Finset.Card
import Gradebook.Proofs.BatchElements
import Gradebook.Proofs.Performances

namespace Gradebook

set_option autoImplicit false

open Lookup (Within)

/-! ## What clears nothing -/

namespace DerivedCache

/-- Nothing was cleared: as many clearings as before, and every entry still there. -/
structure Retains (c c' : DerivedCache) : Prop where
  count : c'.invalidations = c.invalidations
  entries : ∀ key, c.contains key = true → c'.contains key = true

theorem Retains.refl (c : DerivedCache) : c.Retains c := ⟨rfl, fun _ h => h⟩

theorem Retains.trans {c₁ c₂ c₃ : DerivedCache} (h : c₁.Retains c₂) (k : c₂.Retains c₃) :
    c₁.Retains c₃ :=
  ⟨k.count.trans h.count, fun key kept => k.entries key (h.entries key kept)⟩

theorem retains_groups (c : DerivedCache) (key : CourseKey) (version : Option String)
    (build : Unit → GradedBlocks) : c.Retains (c.groups key version build).2.2 := by
  unfold groups
  split
  · exact .refl c
  · refine ⟨rfl, fun other kept => ?_⟩
    simp only [contains, Assoc.contains, Assoc.find?_put] at kept ⊢
    split
    · rfl
    · exact kept

theorem contains_clear (c : DerivedCache) (key : CourseKey) :
    (c.clear key).contains key = false := by
  simp [contains, clear, Assoc.contains, Assoc.find?_erase]

end DerivedCache

namespace Request

/-- All but clearing derived data. -/
def retains : Request → Prop
  | .clear _ => False
  | _ => True

theorem retains_of_gathers {r : Request} (h : r.gathers) : r.retains := by
  cases r <;> first | exact h | trivial

theorem retains_of_concludes {r : Request} (h : r.concludes) : r.retains := by
  cases r <;> first | exact h | trivial

end Request

namespace World

theorem retains_answer {r : Request} (h : r.retains) (w : World) :
    w.cache.Retains (answer r w).2.cache := by
  cases r with
  | clear key => exact h.elim
  | groups key version built =>
    exact DerivedCache.retains_groups w.cache key version fun _ => built
  | loadCourse key =>
    rw [(answer_looks (r := .loadCourse key) trivial w).1]
    exact .refl _
  | loadContent key =>
    rw [(answer_looks (r := .loadContent key) trivial w).1]
    exact .refl _
  | findRow learner key =>
    simp only [answer, findRow]
    split <;> exact .refl _
  | putRow row =>
    simp only [answer, putRow]
    split <;> exact .refl _
  | scoresOf learner key =>
    simp only [answer, scoresOf]
    split <;> exact .refl _
  | computing | deliver | clock | log => exact .refl _

theorem retains_look {α : Type} {l : Lookup α} (h : Within Request.retains l) (w : World)
    (c : Context) : w.cache.Retains (w.look l c).2.cache := by
  let t : Terms := ⟨Request.retains, fun _ _ => True⟩
  have lasting : Context.Lasting t fun _ => True :=
    ⟨fun _ _ _ _ _ => trivial, fun _ _ _ _ _ => trivial, fun _ _ _ _ _ => trivial⟩
  have kept : Dialogue.KeptBy t answer fun w' => w.cache.Retains w'.cache :=
    fun r w' before asks => ⟨trivial, before.trans (retains_answer asks w')⟩
  exact ((h t _ (fun _ asks => asks) lasting c trivial).run kept (.refl _)).2

theorem Quiet.retains {w w' : World} (quiet : w.Quiet w') : w.cache.Retains w'.cache := by
  rw [quiet.cache]
  exact .refl _

end World

/-! ## Care of derived data -/

/-- Who has the care of a course's derived data, by number. -/
inductive Care where
  | batch (n : Nat)
  /-- A transaction begun without a batch. -/
  | transaction (n : Nat)
  deriving DecidableEq

/-- A step with its answer. -/
abbrev Event : Type := Step × Answer

namespace Event

/-- The care that begins, and the course it is for. -/
def begins? : Event → Option (Care × CourseKey)
  | (.startBatch _ i _, .kept (.ok n)) => i.agreedKey.toOption.map (.batch n, ·)
  | (.beginTransaction key, .kept (.ok n)) => some (.transaction n, key)
  | _ => none

/-- The care that ends, whether or not it has ended before. -/
def ends? : Event → Option Care
  | (.nextResult n, .result none) => some (.batch n)
  | (.closeBatch n, .done) => some (.batch n)
  | (.release n, .done) => some (.transaction n)
  | _ => none

/-- A course is cleared by name. -/
def clears : Event → Bool
  | (.clear _, _) => true
  | _ => false

/-- The cares begun so far. -/
def begun (events : List Event) : List (Care × CourseKey) := events.filterMap begins?

/-- The cares that have ended so far. -/
def ended (events : List Event) : Finset Care := (events.filterMap ends?).toFinset

theorem ended_snoc_none {events : List Event} {event : Event} (h : event.ends? = none) :
    ended (events ++ [event]) = ended events := by
  simp [ended, h]

theorem ended_snoc_some {events : List Event} {event : Event} {care : Care}
    (h : event.ends? = some care) :
    ended (events ++ [event]) = insert care (ended events) := by
  ext other
  simp [ended, h]

theorem begun_snoc (events : List Event) (event : Event) :
    begun (events ++ [event]) = begun events ++ event.begins?.toList := by
  cases h : event.begins? <;> simp [begun, h]

end Event

namespace Session

open Event

/-- Steps with what they are answered. -/
def history (s : Session) (steps : List Step) : List Event := steps.zip (s.run steps).1

def transactionAt? (s : Session) : Care → Option Transaction
  | .batch n => s.batches[n]?.map (·.transaction)
  | .transaction n => s.transactions[n]?

/-- The care that a step is to end: of a batch for which nobody comes or which is given up, or
of a transaction that is released. -/
def endsAt? (s : Session) : Step → Option Care
  | .nextResult n => s.batches[n]?.bind fun b => match b.supply with
    | some _ :: _ => none
    | _ => some (.batch n)
  | .closeBatch n => s.batches[n]?.map fun _ => .batch n
  | .release n => s.transactions[n]?.map fun _ => .transaction n
  | _ => none

/-! ## One step -/

/-- What a step does about the care of derived data. -/
inductive Tended (s : Session) (event : Event) (s' : Session) : Prop where
  | left (clears : event.clears = false) (begins : event.begins? = none)
      (ends : event.ends? = none) (cares : s'.transactionAt? = s.transactionAt?)
      (retains : s.world.cache.Retains s'.world.cache)
  | cleared (key : CourseKey) (clears : event.clears = true) (begins : event.begins? = none)
      (ends : event.ends? = none) (cares : s'.transactionAt? = s.transactionAt?)
      (cache : s'.world.cache = s.world.cache.clear key)
  | began (care : Care) (key : CourseKey) (clears : event.clears = false)
      (begins : event.begins? = some (care, key)) (ends : event.ends? = none)
      (absent : s.transactionAt? care = none)
      (cares : s'.transactionAt? = Function.update s.transactionAt? care (some { key }))
      (retains : s.world.cache.Retains s'.world.cache)
  | finishes (care : Care) (t : Transaction) (clears : event.clears = false)
      (begins : event.begins? = none) (ends : event.ends? = some care)
      (held : s.transactionAt? care = some t)
      (cares : s'.transactionAt? = Function.update s.transactionAt? care
        (some { t with released := true }))
      (cache : s'.world.cache =
        if t.released then s.world.cache else s.world.cache.clear t.key)

section Cares

variable {s : Session}

theorem transactionAt?_eq {s' : Session}
    (batches : s'.batches.map (·.transaction) = s.batches.map (·.transaction))
    (transactions : s'.transactions = s.transactions) : s'.transactionAt? = s.transactionAt? := by
  funext care
  cases care with
  | batch n =>
    have same := congrArg (·[n]?) batches
    simpa only [transactionAt?, List.getElem?_map] using same
  | transaction n => simp only [transactionAt?, transactions]

theorem transactionAt?_batches_append {s' : Session} {b : Batch}
    (batches : s'.batches = s.batches ++ [b]) (transactions : s'.transactions = s.transactions) :
    s'.transactionAt? =
      Function.update s.transactionAt? (.batch s.batches.length) (some b.transaction) := by
  funext care
  cases care with
  | batch n =>
    simp only [transactionAt?, batches, Function.update_apply, Care.batch.injEq,
      List.getElem?_append, List.getElem?_singleton]
    split
    · next inside => rw [if_neg (by omega)]
    · next outside =>
      split
      · rw [if_pos (by omega)]
        rfl
      · rw [if_neg (by omega), List.getElem?_eq_none (by omega)]
  | transaction n => simp [transactionAt?, transactions]

theorem transactionAt?_transactions_append {s' : Session} {t : Transaction}
    (batches : s'.batches = s.batches) (transactions : s'.transactions = s.transactions ++ [t]) :
    s'.transactionAt? =
      Function.update s.transactionAt? (.transaction s.transactions.length) (some t) := by
  funext care
  cases care with
  | batch n => simp [transactionAt?, batches]
  | transaction n =>
    simp only [transactionAt?, transactions, Function.update_apply, Care.transaction.injEq,
      List.getElem?_append, List.getElem?_singleton]
    split
    · next inside => rw [if_neg (by omega)]
    · next outside =>
      split
      · rw [if_pos (by omega)]
      · rw [if_neg (by omega), List.getElem?_eq_none (by omega)]

theorem transactionAt?_called {n : Nat} {b : Batch} (held : s.batches[n]? = some b) (w : World)
    (b' : Batch) : (s.called n w b').transactionAt? =
      Function.update s.transactionAt? (.batch n) (some b'.transaction) := by
  funext care
  have inside : n < s.batches.length := (List.getElem?_eq_some_iff.1 held).1
  cases care with
  | batch m =>
    simp only [transactionAt?, called, List.getElem?_set, Function.update_apply, Care.batch.injEq]
    by_cases same : m = n
    · subst same
      rw [if_pos rfl, if_pos rfl, if_pos inside]
      rfl
    · rw [if_neg (Ne.symm same), if_neg same]
  | transaction m => simp [transactionAt?, called]

theorem transactionAt?_set {n : Nat} {t t' : Transaction} (held : s.transactions[n]? = some t)
    (w : World) : transactionAt? { s with world := w, transactions := s.transactions.set n t' } =
      Function.update s.transactionAt? (.transaction n) (some t') := by
  funext care
  have inside : n < s.transactions.length := (List.getElem?_eq_some_iff.1 held).1
  cases care with
  | batch m => simp [transactionAt?]
  | transaction m =>
    simp only [transactionAt?, List.getElem?_set, Function.update_apply, Care.transaction.injEq]
    by_cases same : m = n
    · subst same
      rw [if_pos rfl, if_pos rfl, if_pos inside]
    · rw [if_neg (Ne.symm same), if_neg same]

/-- Filling a context leaves all care as it is. -/
theorem transactionAt?_putContext (holder : Holder) (c : Context) :
    (s.putContext holder c).transactionAt? = s.transactionAt? := by
  apply transactionAt?_eq
  · exact map_batches_putContext (fun _ _ => rfl) s holder c
  · exact putContext_transactions s holder c

end Cares

/-- A resolution clears nothing. -/
theorem retains_resolveHere (e : GradeEngine) (learner : Learner) (σ : Strategy) :
    Within Request.retains (e.resolveHere learner σ) :=
  GradeEngine.within_resolveHere (fun _ => Request.retains_of_gathers)
    (fun _ => Request.retains_of_concludes) e learner σ

/-- Nor does an operation on the context of the inputs that asks to clear nothing. -/
theorem retains_within {α : Type} {l : Lookup α} (h : Within Request.retains l) (w : World)
    (learner : Learner) (i : CourseInputs) :
    w.cache.Retains (w.run (GradeEngine.within learner i l)).2.cache := by
  cases opened : Context.ofInputs (some learner.id) i with
  | error x =>
    rw [run_within_error _ _ _ _ opened]
    exact .refl _
  | ok c =>
    rw [run_within _ _ _ _ opened]
    exact World.retains_look h w c

/-- The end of a batch. -/
theorem tended_closing {s : Session} {step : Step} {a : Answer} {n : Nat} {b b' : Batch}
    (held : s.batches[n]? = some b) (closed : b'.transaction = b.closed.transaction)
    (clears : Event.clears (step, a) = false) (begins : Event.begins? (step, a) = none)
    (ends : Event.ends? (step, a) = some (.batch n)) :
    Tended s (step, a) (s.called n (closing s.world b) b') := by
  have transaction : s.transactionAt? (.batch n) = some b.transaction := by
    rw [transactionAt?, held]
    rfl
  refine .finishes (.batch n) b.transaction clears begins ends transaction ?_ ?_
  · rw [transactionAt?_called held, closed]
    rfl
  · simp only [called, closing]
    split <;> rfl

/-- A batch that starts takes care of the course its inputs agree on. -/
theorem care_start {w w' : World} {supply : Supply} {i : CourseInputs} {σ : Strategy} {b : Batch}
    (started : w.run (Batch.start supply i σ) = (.ok b, w')) :
    ∃ key, i.agreedKey = .ok key ∧ b.transaction = { key } := by
  cases opened : Context.ofInputs none i with
  | error x =>
    rw [Batch.start, opened] at started
    cases started
  | ok c =>
    have follows := World.look_follows (w := w) Batch.within_prepare
      (fun _ => Request.mild_of_looks) c
    rw [run_start _ _ _ _ opened] at started
    generalize w.look Batch.prepare c = r at follows started
    obtain ⟨⟨f | u, c'⟩, w₁⟩ := r
    · cases started
    · cases started
      refine ⟨c.key, Context.agreedKey_of_ofInputs opened, ?_⟩
      rw [← follows.grows.key]

/-- A batch that starts has the care of that course; one that does not leaves all care as it
is. -/
theorem tended_start (s : Session) (supply : Supply) (i : CourseInputs) (σ : Strategy) :
    Tended s (.startBatch supply i σ, (s.step (.startBatch supply i σ)).1)
      (s.step (.startBatch supply i σ)).2 := by
  have quiet := quiet_start s.world supply i σ
  simp only [Session.step, startBatch, carryOut]
  generalize started : s.world.run (Batch.start supply i σ) = r at quiet
  obtain ⟨f | b, w⟩ := r
  · exact .left rfl rfl rfl rfl quiet.retains
  · obtain ⟨key, agreed, cared⟩ := care_start started
    refine .began (.batch s.batches.length) key rfl ?_ rfl ?_ ?_ quiet.retains
    · simp [Event.begins?, agreed, Except.toOption]
    · simp [transactionAt?]
    · rw [← cared]
      exact transactionAt?_batches_append rfl rfl

/-- A call of a batch grades the next learner, or ends the batch. -/
theorem tended_next (s : Session) (n : Nat) :
    Tended s (.nextResult n, (s.step (.nextResult n)).1) (s.step (.nextResult n)).2 := by
  cases held : s.batches[n]? with
  | none =>
    rw [step_nextResult_unknown held]
    exact .left rfl rfl rfl rfl (.refl _)
  | some b =>
    cases supply : b.supply with
    | nil =>
      rw [step_nextResult_nil held supply]
      exact tended_closing held rfl rfl rfl rfl
    | cons next rest =>
      cases next with
      | none =>
        rw [step_nextResult_gap held supply]
        exact tended_closing held rfl rfl rfl rfl
      | some learner =>
        rw [step_nextResult_some held supply]
        have grades := World.retains_look (retains_resolveHere s.engine learner b.strategy) s.world
          (b.context.forLearner learner.id)
        have logs := (Batch.run_gradeOne s.world s.engine b learner).2.retains
        refine .left rfl rfl rfl ?_ (grades.trans logs)
        rw [transactionAt?_called held, Function.update_eq_self_iff, transactionAt?, held]
        rfl

/-- **What a step does about the care of derived data.** -/
theorem step_tended (s : Session) (step : Step) :
    Tended s (step, (s.step step).1) (s.step step).2 := by
  cases step with
  | create learner i =>
    exact .left rfl rfl rfl rfl
      (retains_within (retains_resolveHere s.engine learner .createIfStale) s.world learner i)
  | update learner i =>
    exact .left rfl rfl rfl rfl
      (retains_within (retains_resolveHere s.engine learner .forceUpdate) s.world learner i)
  | read learner i =>
    have asks := (GradeEngine.within_readHere s.engine learner).mono
      fun _ => Request.retains_of_gathers
    exact .left rfl rfl rfl rfl (retains_within asks s.world learner i)
  | openContext learner i =>
    simp only [Session.step, openContext]
    split <;> exact .left rfl rfl rfl rfl (.refl _)
  | resolve n learner σ =>
    simp only [Session.step, resolve]
    split
    · exact .left rfl rfl rfl rfl (.refl _)
    · next c held =>
      refine .left rfl rfl rfl rfl ?_
      simp only [carryOut, GradeEngine.resolve, World.run_map]
      exact World.retains_look (retains_resolveHere s.engine learner σ) s.world c
  | resolveIn holder learner σ =>
    simp only [Session.step, resolveIn, lookUp_eq]
    split
    · exact .left rfl rfl rfl rfl (.refl _)
    · next c held =>
      refine .left rfl rfl rfl (transactionAt?_putContext _ _) ?_
      rw [putContext_world]
      exact World.retains_look (retains_resolveHere s.engine learner σ) s.world c
  | fork holder learner =>
    simp only [Session.step, fork]
    split <;> exact .left rfl rfl rfl rfl (.refl _)
  | consult holder q =>
    simp only [Session.step, consult, lookUp_eq]
    split
    · exact .left rfl rfl rfl rfl (.refl _)
    · next c held =>
      refine .left rfl rfl rfl (transactionAt?_putContext _ _) ?_
      rw [putContext_world]
      exact (World.look_quiet (Context.within_consult q) s.world c).retains
  | startBatch supply i σ => exact tended_start s supply i σ
  | nextResult n => exact tended_next s n
  | closeBatch n =>
    cases held : s.batches[n]? with
    | none =>
      rw [step_closeBatch_unknown held]
      exact .left rfl rfl rfl rfl (.refl _)
    | some b =>
      rw [step_closeBatch held]
      exact tended_closing held rfl rfl rfl rfl
  | beginTransaction key =>
    refine .began (.transaction s.transactions.length) key rfl rfl rfl ?_ ?_ (.refl _)
    · simp [transactionAt?]
    · exact transactionAt?_transactions_append rfl rfl
  | release n =>
    simp only [Session.step, release]
    split
    · exact .left rfl rfl rfl rfl (.refl _)
    · next t held =>
      refine .finishes (.transaction n) t rfl rfl rfl held (transactionAt?_set held _) ?_
      simp only [World.release]
      split <;> rfl
  | clear key => exact .cleared key rfl rfl rfl rfl rfl
  | record | define | publish | disturb | clock => exact .left rfl rfl rfl rfl (.refl _)

/-- What ends is read off the supply of a batch as well as off the answer. -/
theorem ends?_step (s : Session) (step : Step) :
    Event.ends? (step, (s.step step).1) = s.endsAt? step := by
  cases step with
  | nextResult n =>
    simp only [endsAt?]
    cases held : s.batches[n]? with
    | none => rw [step_nextResult_unknown held]; rfl
    | some b =>
      simp only [Option.bind_some]
      cases supply : b.supply with
      | nil => rw [step_nextResult_nil held supply]; rfl
      | cons next rest =>
        cases next with
        | none => rw [step_nextResult_gap held supply]; rfl
        | some learner => rw [step_nextResult_some held supply]; rfl
  | closeBatch n =>
    simp only [endsAt?]
    cases held : s.batches[n]? with
    | none => rw [step_closeBatch_unknown held]; rfl
    | some b => rw [step_closeBatch held]; rfl
  | release n =>
    simp only [endsAt?, Session.step, release]
    cases s.transactions[n]? <;> rfl
  | _ => rfl

/-! ## The count over a run -/

/-- The count of clearings and the state of all care, after these events from this world. -/
structure Tallied (w : World) (events : List Event) (s : Session) : Prop where
  count : s.world.cache.invalidations =
    w.cache.invalidations + events.countP Event.clears + (ended events).card
  begun : ∀ care key, (care, key) ∈ begun events ↔
    ∃ t, s.transactionAt? care = some t ∧ t.key = key
  released : ∀ care t, s.transactionAt? care = some t →
    (t.released = true ↔ care ∈ ended events)
  held : ∀ care ∈ ended events, ∃ t, s.transactionAt? care = some t

/-- Before anything is done nobody has the care of anything. -/
theorem tallied_start (e : GradeEngine) (w : World) : Tallied w [] { engine := e, world := w } := by
  have absent (care : Care) :
      transactionAt? { engine := e, world := w } care = none := by cases care <;> rfl
  refine ⟨rfl, fun care key => ?_, fun care t held => ?_, fun care done => ?_⟩
  · simp [Event.begun, absent]
  · cases (absent care).symm.trans held
  · cases done

section Step

variable {w : World} {events : List Event} {event : Event} {s s' : Session}

/-- A step without an end tallies if its count does and its new care is unreleased. -/
theorem Tallied.unended (before : Tallied w events s) (ends : event.ends? = none)
    (count : s'.world.cache.invalidations =
      s.world.cache.invalidations + [event].countP Event.clears)
    (begins : event.begins? = none) (cares : s'.transactionAt? = s.transactionAt?) :
    Tallied w (events ++ [event]) s' := by
  refine ⟨?_, ?_, ?_, ?_⟩
  · rw [count, before.count, List.countP_append, ended_snoc_none ends]
    omega
  · simpa [begun_snoc, begins, cares] using before.begun
  · simpa [ended_snoc_none ends, cares] using before.released
  · simpa [ended_snoc_none ends, cares] using before.held

theorem Tallied.begins (before : Tallied w events s) {care : Care} {key : CourseKey}
    (clears : event.clears = false) (begins : event.begins? = some (care, key))
    (ends : event.ends? = none) (absent : s.transactionAt? care = none)
    (cares : s'.transactionAt? = Function.update s.transactionAt? care (some { key }))
    (count : s'.world.cache.invalidations = s.world.cache.invalidations) :
    Tallied w (events ++ [event]) s' := by
  have fresh : care ∉ ended events := fun done => by
    obtain ⟨t, held⟩ := before.held care done
    cases absent.symm.trans held
  refine ⟨?_, fun other k => ?_, fun other t held => ?_, fun other done => ?_⟩
  · rw [count, before.count, ended_snoc_none ends]
    simp [clears]
  · rw [begun_snoc, begins, List.mem_append, before.begun, cares, Function.update_apply]
    split
    · next same =>
      subst same
      simp [absent, eq_comm]
    · next differs => simp [differs]
  · rw [ended_snoc_none ends]
    rw [cares, Function.update_apply] at held
    split at held
    · next same =>
      cases held
      simp [same, fresh]
    · exact before.released other t held
  · rw [ended_snoc_none ends] at done
    rw [cares, Function.update_apply]
    split
    · exact ⟨_, rfl⟩
    · exact before.held other done

theorem Tallied.finishes (before : Tallied w events s) {care : Care} {t : Transaction}
    (clears : event.clears = false) (begins : event.begins? = none)
    (ends : event.ends? = some care) (held : s.transactionAt? care = some t)
    (cares : s'.transactionAt? = Function.update s.transactionAt? care
      (some { t with released := true }))
    (cache : s'.world.cache =
      if t.released then s.world.cache else s.world.cache.clear t.key) :
    Tallied w (events ++ [event]) s' := by
  refine ⟨?_, fun other k => ?_, fun other u kept => ?_, fun other done => ?_⟩
  · rw [cache, ended_snoc_some ends]
    have first := before.released care t held
    split
    · next again =>
      rw [Finset.insert_eq_of_mem (first.1 again), before.count]
      simp [clears]
    · next once =>
      rw [Finset.card_insert_of_notMem fun mem => once (first.2 mem), DerivedCache.clear,
        before.count]
      simp [clears]
      omega
  · rw [begun_snoc, begins, cares, Function.update_apply]
    split
    · next same =>
      subst same
      simp [before.begun, held]
    · simp [before.begun]
  · rw [ended_snoc_some ends, Finset.mem_insert]
    rw [cares, Function.update_apply] at kept
    split at kept
    · next same =>
      cases kept
      simp [same]
    · next differs => simp [differs, before.released other u kept]
  · rw [ended_snoc_some ends, Finset.mem_insert] at done
    rw [cares, Function.update_apply]
    split
    · exact ⟨_, rfl⟩
    · next differs => exact before.held other (done.resolve_left differs)

/-- One more step tallies. -/
theorem Tallied.snoc (before : Tallied w events s) (tended : Tended s event s') :
    Tallied w (events ++ [event]) s' := by
  cases tended with
  | left clears begins ends cares retains =>
    exact before.unended ends (by simp [retains.count, clears]) begins cares
  | cleared key clears begins ends cares cache =>
    exact before.unended ends (by simp [cache, DerivedCache.clear, clears]) begins cares
  | began care key clears begins ends absent cares retains =>
    exact before.begins clears begins ends absent cares retains.count
  | finishes care t clears begins ends held cares cache =>
    exact before.finishes clears begins ends held cares cache

end Step

/-- **A run tallies.** -/
theorem tallied_run {w : World} {events : List Event} {s : Session} (before : Tallied w events s)
    (steps : List Step) : Tallied w (events ++ s.history steps) (s.run steps).2 := by
  induction steps generalizing events s with
  | nil =>
    rw [history, List.zip_nil_left, List.append_nil]
    exact before
  | cons step rest ih =>
    have after := ih (before.snoc (step_tended s step))
    rwa [List.append_assoc] at after

/-- **Every batch tears down exactly once.** Whatever is done with an engine and any number of
batches and transactions, the courses cleared are counted by those cleared by name and by the
batches and transactions that have ended. Each of them ends when it is over for the first time,
and not before: then its course has no entry. Later ends change nothing, and neither does any
other step, a batch that fails to start included. -/
theorem teardown_exactly_once (e : GradeEngine) (w : World) (steps : List Step) (step : Step) :
    let start : Session := { engine := e, world := w }
    let s := (start.run steps).2
    let before := start.history steps
    let now : Event := (step, (s.step step).1)
    let after := (s.step step).2.world.cache
    s.world.cache.invalidations =
      w.cache.invalidations + before.countP Event.clears + (ended before).card ∧
    now.ends? = s.endsAt? step ∧
    (∀ care, now.ends? = some care → ∃ key, (∀ k, (care, k) ∈ begun before ↔ k = key) ∧
      (care ∉ ended before → after = s.world.cache.clear key ∧ after.contains key = false) ∧
      (care ∈ ended before → after = s.world.cache)) ∧
    (now.ends? = none → now.clears = false → s.world.cache.Retains after) ∧
    ∀ supply i σ f, now = (.startBatch supply i σ, .kept (.error f)) →
      after = s.world.cache ∧ (s.step step).2.transactionAt? = s.transactionAt? := by
  intro start s before now after
  have tallied : Tallied w before s := tallied_run (tallied_start e w) steps
  have tended : Tended s now (s.step step).2 := step_tended s step
  refine ⟨tallied.count, ends?_step s step, fun care ends => ?_, fun ends clears => ?_,
    fun supply i σ f failed => ?_⟩
  · cases tended with
    | left _ _ unended | cleared _ _ _ unended | began _ _ _ _ unended =>
      cases unended.symm.trans ends
    | finishes care' t _ _ ends' held cares cache =>
      cases ends'.symm.trans ends
      have released := tallied.released care t held
      refine ⟨t.key, fun k => ?_, fun first => ?_, fun again => ?_⟩
      · simp [tallied.begun, held, eq_comm]
      · have cleared : after = s.world.cache.clear t.key :=
          cache.trans (if_neg fun done => first (released.1 done))
        exact ⟨cleared, cleared ▸ DerivedCache.contains_clear _ _⟩
      · exact cache.trans (if_pos (released.2 again))
  · cases tended with
    | left _ _ _ _ retains | began _ _ _ _ _ _ _ retains => exact retains
    | cleared _ named => cases clears.symm.trans named
    | finishes _ _ _ _ ended => cases ends.symm.trans ended
  · obtain ⟨rfl, answered⟩ := Prod.mk.inj failed
    have quiet := quiet_start s.world supply i σ
    simp only [after]
    simp only [Session.step, startBatch, carryOut] at answered ⊢
    generalize s.world.run (Batch.start supply i σ) = r at quiet answered
    obtain ⟨x | b, w'⟩ := r
    · exact ⟨quiet.cache, rfl⟩
    · cases answered

/-- A batch meets a gap in its list and grades one more learner; another one does not start, and
a course is cleared by name. Giving up the batch then clears nothing, releasing the transaction
does. -/
theorem teardown_across_gap :
    let w := Sample.world (Sample.course none ["hw1"])
    let start : Session := { engine := Sample.engine, world := w }
    let steps : List Step := [
      .startBatch [some Sample.learner, none, some Sample.learner] (.ofKey Sample.key) .forceUpdate,
      .startBatch [] (.ofKey ⟨"absent"⟩) .forceUpdate, .beginTransaction Sample.key,
      .nextResult 0, .nextResult 0, .clear Sample.key, .nextResult 0]
    let s := (start.run steps).2
    s.world.cache.invalidations = 2 ∧ s.world.cache.contains Sample.key = true ∧
      (s.step (.closeBatch 0)).2.world.cache = s.world.cache ∧
      (s.step (.release 0)).2.world.cache.contains Sample.key = false := by
  intro w start steps s
  obtain ⟨count, -, closes, -⟩ := teardown_exactly_once Sample.engine w steps (.closeBatch 0)
  obtain ⟨-, -, releases, -⟩ := teardown_exactly_once Sample.engine w steps (.release 0)
  refine ⟨?_, by decide +kernel, ?_, ?_⟩
  · have cleared : (start.history steps).countP Event.clears = 1 := by decide +kernel
    have done : (ended (start.history steps)).card = 1 := by decide +kernel
    have fresh : w.cache.invalidations = 0 := rfl
    rw [count, cleared, done, fresh]
  · obtain ⟨key, -, -, again⟩ := closes (.batch 0) (by decide +kernel)
    dsimp only [s, start]
    exact again (by decide +kernel)
  · obtain ⟨key, only, first, -⟩ := releases (.transaction 0) (by decide +kernel)
    have same : Sample.key = key := (only Sample.key).1 (by decide +kernel)
    rw [same]
    dsimp only [s, start]
    exact (first (by decide +kernel)).2

end Session

end Gradebook
