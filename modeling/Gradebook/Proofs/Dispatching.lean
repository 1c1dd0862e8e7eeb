/-
# Gradebook.Proofs.Dispatching — every listener is told, whatever the others do

Telling one listener (`look_tell`) adds one delivery, the entries the listener writes and,
if its handler failed, one warning; it always ends with the report so far and one outcome
more. So telling all of them (`look_dispatch`) is the sum of telling each: the report on a
list of listeners is the reports on its parts, one after the other (`on_append`), and a
handler that crashes in the middle is one summand like any other. What a report says of its
listeners is proved along that sum (`accounts_on`).
-/
import Gradebook.Engine
import Gradebook.Proofs.Looking
import Mathlib.Data.List.Forall2

namespace Gradebook

set_option autoImplicit false

namespace Delivery

/-- How a report words the way a handler ended. There are no words for success. -/
inductive Worded : Delivery → String → Prop where
  | failure (text : String) : Worded (.failed text) text
  | textPanic (text : String) : Worded (.crashed (.text text)) ("listener panicked: " ++ text)
  | otherPanic : Worded (.crashed .other) "listener panicked: unknown panic"

theorem worded_of_failure {d : Delivery} {text : String} (h : d.failure? = some text) :
    d.Worded text := by
  cases d with
  | succeeded => cases h
  | failed said =>
    cases h
    exact .failure _
  | crashed crash =>
    cases h
    cases crash with
    | text said => exact .textPanic said
    | other => exact .otherPanic

theorem failure_eq_none {d : Delivery} : d.failure? = none ↔ d = .succeeded := by
  cases d <;> simp [failure?]

end Delivery

namespace Listener

/-- How the handler of a listener ends on a notice. -/
def reaction (l : Listener) (notice : Notice) : Delivery := (l.react notice).2

/-- Whether the handler of a listener succeeds on a notice. -/
def accepts (notice : Notice) (l : Listener) : Bool := l.reaction notice = .succeeded

/-- The warning about a handler that did not succeed. -/
def warning (notice : Notice) (l : Listener) : List LogEntry :=
  match (l.reaction notice).failure? with
  | none => []
  | some text => [{
      level := .warn, origin := .signals, message := "Grade listener failed"
      fields := [("signal", notice.signal), ("listener", l.name), ("error", text)] }]

end Listener

namespace DispatchReport

/-- The report on some listeners and then on others. -/
def followedBy (r s : DispatchReport) : DispatchReport :=
  ⟨r.delivered + s.delivered, r.failed ++ s.failed⟩

@[simp] theorem empty_followedBy (r : DispatchReport) : followedBy {} r = r := by
  simp [followedBy]

@[simp] theorem followedBy_empty (r : DispatchReport) : r.followedBy {} = r := by
  simp [followedBy]

theorem add_followedBy (r s : DispatchReport) (listener : String) (d : Delivery) :
    (r.followedBy s).add listener d = r.followedBy (s.add listener d) := by
  unfold add
  cases d.failure? <;> simp [followedBy, Nat.add_assoc]

/-- The report on listeners told of a notice. -/
def on (notice : Notice) (listeners : List Listener) : DispatchReport :=
  listeners.foldl (fun r l => r.add l.name (l.reaction notice)) {}

theorem foldl_add (notice : Notice) (listeners : List Listener) (r : DispatchReport) :
    listeners.foldl (fun r l => r.add l.name (l.reaction notice)) r =
      r.followedBy (on notice listeners) := by
  unfold on
  -- both folds add the same outcomes, one starting from what the other has before it
  suffices ∀ s : DispatchReport,
      listeners.foldl (fun r l => r.add l.name (l.reaction notice)) (r.followedBy s) =
        r.followedBy (listeners.foldl (fun r l => r.add l.name (l.reaction notice)) s) by
    simpa using this {}
  induction listeners with
  | nil => exact fun s => rfl
  | cons l rest ih =>
    intro s
    rw [List.foldl_cons, List.foldl_cons, add_followedBy]
    exact ih _

theorem on_append (notice : Notice) (before after : List Listener) :
    on notice (before ++ after) = (on notice before).followedBy (on notice after) := by
  rw [on, List.foldl_append, foldl_add]
  rfl

theorem on_cons (notice : Notice) (l : Listener) (rest : List Listener) :
    on notice (l :: rest) = (on notice [l]).followedBy (on notice rest) :=
  on_append notice [l] rest

/-- A report counts the handlers that succeeded and names the others in order, each with
its message. -/
structure Accounts (report : DispatchReport) (notice : Notice) (listeners : List Listener) :
    Prop where
  delivered : report.delivered = listeners.countP (Listener.accepts notice)
  failed : List.Forall₂ (fun l entry => entry.1 = l.name ∧ (l.reaction notice).Worded entry.2)
    (listeners.filter fun l => !l.accepts notice) report.failed
  total : report.delivered + report.failed.length = listeners.length

variable {notice : Notice}

theorem Accounts.followedBy {r s : DispatchReport} {before after : List Listener}
    (h : r.Accounts notice before) (k : s.Accounts notice after) :
    (r.followedBy s).Accounts notice (before ++ after) where
  delivered := by
    rw [List.countP_append, ← h.delivered, ← k.delivered]
    rfl
  failed := by
    rw [List.filter_append]
    exact List.rel_append h.failed k.failed
  total := by
    have first := h.total
    have second := k.total
    simp only [DispatchReport.followedBy, List.length_append]
    omega

theorem accounts_single (notice : Notice) (l : Listener) : (on notice [l]).Accounts notice [l] := by
  simp only [on, List.foldl_cons, List.foldl_nil, add]
  cases ended : (l.reaction notice).failure? with
  | none =>
    have accepted : l.accepts notice = true :=
      decide_eq_true (Delivery.failure_eq_none.1 ended)
    constructor <;> simp [accepted]
  | some text =>
    have refused : l.accepts notice = false := by
      apply decide_eq_false
      intro succeeded
      rw [Delivery.failure_eq_none.2 succeeded] at ended
      cases ended
    constructor
    · simp [refused]
    · simpa [refused] using Delivery.worded_of_failure ended
    · rfl

/-- The report on listeners accounts for each of them. -/
theorem accounts_on (notice : Notice) (listeners : List Listener) :
    (on notice listeners).Accounts notice listeners := by
  induction listeners with
  | nil => exact ⟨rfl, .nil, rfl⟩
  | cons l rest ih =>
    rw [on_cons]
    exact (accounts_single notice l).followedBy ih

/-- Handlers that fail, crash on a text, succeed, and crash on something else. -/
example (learner : Learner) (key : CourseKey) :
    on (.nowPassed learner key) [
      .observer "mail" fun _ => .failed "unreachable",
      .observer "badge" fun _ => .crashed (.text "no badge"),
      .logging,
      .observer "feed" fun _ => .crashed .other] =
    { delivered := 1
      failed := [("mail", "unreachable"), ("badge", "listener panicked: no badge"),
        ("feed", "listener panicked: unknown panic")] } := rfl

end DispatchReport

namespace World

/-- A world in which listeners were told of a notice, one after the other: each has it
delivered once and logs what it logs. -/
def told (notice : Notice) (listeners : List Listener) (w : World) : World :=
  { w with
    log := w.log ++ listeners.flatMap fun l => (l.react notice).1 ++ l.warning notice
    deliveries := w.deliveries ++ listeners.map (·, notice) }

theorem told_nil (notice : Notice) (w : World) : w.told notice [] = w := by
  simp [told]

theorem told_told (notice : Notice) (before after : List Listener) (w : World) :
    (w.told notice before).told notice after = w.told notice (before ++ after) := by
  simp [told]

/-- Telling one listener. The report takes up how its handler ended, whatever that was. -/
theorem look_tell (notice : Notice) (report : DispatchReport) (l : Listener) (w : World)
    (c : Context) :
    w.look (GradeEngine.tell notice report l) c =
      ((.ok (report.add l.name (l.reaction notice)), c), w.told notice [l]) := by
  have delivered : (answer (.deliver l notice) w) =
      (l.reaction notice, { w with
        log := w.log ++ (l.react notice).1
        deliveries := w.deliveries ++ [(l, notice)] }) := rfl
  simp only [GradeEngine.tell, look_bind, look_ask, delivered]
  cases ended : (l.reaction notice).failure? with
  | none => simp [told, Listener.warning, ended]
  | some text => simp [told, Listener.warning, ended, addLog, look_map, Except.map]

/-- Telling listeners one after the other. -/
theorem look_tellAll (notice : Notice) (listeners : List Listener) (report : DispatchReport)
    (w : World) (c : Context) :
    w.look (listeners.foldlM (GradeEngine.tell notice) report) c =
      ((.ok (report.followedBy (.on notice listeners)), c), w.told notice listeners) := by
  rw [← DispatchReport.foldl_add]
  induction listeners generalizing report w with
  | nil => simp [told_nil]
  | cons l rest ih =>
    rw [List.foldlM_cons, look_bind, look_tell]
    simp only [ih, told_told]
    rfl

/-- All that a dispatch does. -/
theorem look_dispatch (e : GradeEngine) (notice : Notice) (w : World) (c : Context) :
    w.look (e.dispatch notice) c =
      ((.ok (.on notice e.listeners), c), w.told notice e.listeners) := by
  rw [GradeEngine.dispatch, look_tellAll, DispatchReport.empty_followedBy]

end World

/-- **A dispatch isolates listeners.** In every world it ends with a report, the same in
all of them: the notice was delivered once to each listener in subscription order, and the
report counts the handlers that succeeded and lists the others in that order with their
messages. Whatever listener stands between `before` and `after`, and however its handler
ends, the parts of the report about those around it are the same, and so are their
deliveries. -/
theorem GradeEngine.dispatch_isolates_listeners (e : GradeEngine) (notice : Notice) :
    (∃ report : DispatchReport, report.Accounts notice e.listeners ∧
      ∀ (w : World) (c : Context), ∃ w',
        w.look (e.dispatch notice) c = ((.ok report, c), w') ∧
          w'.deliveries = w.deliveries ++ e.listeners.map (·, notice)) ∧
    ∀ before after : List Listener, ∃ early late : DispatchReport,
      early.Accounts notice before ∧ late.Accounts notice after ∧
      ∀ l : Listener, ∃ own : DispatchReport, own.Accounts notice [l] ∧
        ∀ (w : World) (c : Context), ∃ w',
          w.look ({ e with listeners := before ++ l :: after }.dispatch notice) c =
            ((.ok (early.followedBy (own.followedBy late)), c), w') ∧
          w'.deliveries =
            w.deliveries ++ (before.map (·, notice) ++ (l, notice) :: after.map (·, notice)) := by
  constructor
  · refine ⟨.on notice e.listeners, DispatchReport.accounts_on notice e.listeners, ?_⟩
    intro w c
    exact ⟨_, World.look_dispatch e notice w c, rfl⟩
  · intro before after
    refine ⟨.on notice before, .on notice after, DispatchReport.accounts_on notice before,
      DispatchReport.accounts_on notice after, ?_⟩
    intro l
    refine ⟨.on notice [l], DispatchReport.accounts_single notice l, ?_⟩
    intro w c
    refine ⟨w.told notice (before ++ l :: after), ?_, ?_⟩
    · rw [World.look_dispatch, DispatchReport.on_append, DispatchReport.on_cons]
    · simp [World.told]

end Gradebook
