/-
# Gradebook.Proofs.Deadlines — the deadlines a batch announces

A grade that was computed is told of with the end of a descriptor. It is the descriptor of the
context at the end of the resolution (`announced_resolveHere`), and since each learner of a
batch is graded in a fork, it is the batch's if that has one. A batch that could not fetch one
leaves every fork to fetch its own (`Dated`): the forks are gone when the next learner comes,
and with them what they found.

`one_descriptor` says when a batch has one deadline, and for the other case where each of them
comes from. `deadlines_differ_after_missed_fetch` is a batch with two.
-/
import Gradebook.Proofs.Snapshots

namespace Gradebook

set_option autoImplicit false

open Lookup (Within within_bind within_pure within_log)

/-! ## The deadlines that are told -/

/-- The deadline of a changed grade. -/
def Sight.deadline? : Sight → Option (Option Instant)
  | .told _ (.changed _ _ _ deadline) => some deadline
  | _ => none

/-- The deadlines with which changed grades are told of, in order. -/
def deadlines (xs : List Exchange) : List (Option Instant) :=
  (sights xs).filterMap Sight.deadline?

/-- Telling of a pass, and what takes no descriptor. -/
def Request.undated : Request → Prop
  | .deliver _ (.nowPassed _ _) => True
  | r => r.structural

theorem Request.undated_of_structural {r : Request} (h : r.structural) : r.undated := by
  cases r <;> first | exact h | exact h.elim

theorem Request.spares_of_undated {r : Request} (h : r.undated) : r.spares := by
  cases r <;> first | exact h | trivial

section Seen

variable {xs : List Exchange}

@[simp] theorem deadlines_append (xs ys : List Exchange) :
    deadlines (xs ++ ys) = deadlines xs ++ deadlines ys := by
  simp [deadlines]

theorem deadlines_hidden (h : ∀ x ∈ xs, x.Hidden) : deadlines xs = [] := by
  rw [deadlines, sights_hidden h]
  rfl

theorem deadlines_undated (h : ∀ x ∈ xs, x.1.undated) : deadlines xs = [] := by
  rw [deadlines, sights, List.filterMap_filterMap]
  refine List.filterMap_eq_nil_iff.2 fun x member => ?_
  have undated := h x member
  obtain ⟨r, reply⟩ := x
  cases r with
  | deliver listener notice =>
    cases notice with
    | changed => exact undated.elim
    | nowPassed => rfl
  | loadContent | log => rfl
  | _ => exact undated.elim

theorem mem_courseLoads {key : CourseKey} {reply : Except Failure Course}
    (h : ⟨.loadCourse key, reply⟩ ∈ xs) : reply ∈ courseLoads xs :=
  List.mem_filterMap.2 ⟨_, h, rfl⟩

end Seen

namespace GradeEngine

variable {e : GradeEngine} {learner : Learner} {s : Strategy} {c c' : Context}
  {xs ys : List Exchange} {o : Except Failure ResolvedGrade} {g? : Option ResolvedGrade}
  {course? : Option Course}

/-! ## One resolution -/

/-- What is told on the way to an answer: nobody hears of a changed grade, or every listener
does, with the end of this descriptor. -/
structure Announced (e : GradeEngine) (xs : List Exchange) (g? : Option ResolvedGrade)
    (course? : Option Course) : Prop where
  told : deadlines xs = [] ∨ deadlines xs = e.listeners.map fun _ => course?.bind (·.ends)
  /-- An answer that was computed was told. -/
  computed : ∀ g kept, g? = some g → g.source = .computed kept →
    deadlines xs = e.listeners.map fun _ => course?.bind (·.ends)
  /-- Nothing is told without a descriptor before it was tried to load one. -/
  sought : course? = none → deadlines xs ≠ [] → ∃ f, .error f ∈ courseLoads xs

theorem Announced.deadline (h : e.Announced xs g? course?) :
    ∀ d ∈ deadlines xs, d = course?.bind (·.ends) := by
  intro d member
  rcases h.told with silent | told
  · cases silent ▸ member
  · rw [told] at member
    obtain ⟨listener, -, same⟩ := List.mem_map.1 member
    exact same.symm

/-- Nobody is told, and no grade was computed. -/
theorem announced_of_silent (silent : deadlines xs = [])
    (answered : ∀ g, g? = some g → ∀ kept, g.source ≠ .computed kept) :
    e.Announced xs g? course? where
  told := .inl silent
  computed g kept same source := absurd source (answered g same kept)
  sought _ told := absurd silent told

/-- What else is exchanged does not matter, if nobody hears of a changed grade by it. -/
theorem Announced.amid (h : e.Announced xs g? course?) {zs : List Exchange}
    (same : deadlines zs = deadlines xs) (loads : ∀ r ∈ courseLoads xs, r ∈ courseLoads zs) :
    e.Announced zs g? course? where
  told := same ▸ h.told
  computed := same ▸ h.computed
  sought missing told := by
    obtain ⟨f, failed⟩ := h.sought missing (same ▸ told)
    exact ⟨f, loads _ failed⟩

theorem Announced.after (h : e.Announced xs g? course?) (silent : deadlines ys = []) :
    e.Announced (ys ++ xs) g? course? := by
  refine h.amid (by rw [deadlines_append, silent, List.nil_append]) fun r loaded => ?_
  rw [courseLoads_append]
  exact List.mem_append_right _ loaded

theorem Announced.before (h : e.Announced xs g? course?) (silent : deadlines ys = []) :
    e.Announced (xs ++ ys) g? course? := by
  refine h.amid (by rw [deadlines_append, silent, List.append_nil]) fun r loaded => ?_
  rw [courseLoads_append]
  exact List.mem_append_left _ loaded

/-- Grades go out with the descriptor if looking for it did not fail. That it did is logged. -/
theorem availableCourse_cases {r : Except Failure (Option Course)}
    (h : availableCourse.Goes c xs r c') :
    ∃ ys logs o c₁, xs = ys ++ logs ∧ Context.course.Goes c ys o c₁ ∧
      (∀ x ∈ logs, ∃ entry, x.1 = .log entry) ∧ c'.course? = c₁.course? ∧
      ∀ course?, r = .ok course? → course? = o.toOption := by
  rcases Lookup.goes_bind h with ⟨ys, zs, tried, c₁, rfl, attempted, settled⟩ |
    ⟨f, rfl, attempted⟩
  · obtain ⟨o, mapped, looked⟩ := Lookup.goes_attempt attempted
    cases tried with
    | ok x =>
      obtain ⟨rfl, rfl, rfl⟩ := Lookup.goes_pure settled
      refine ⟨ys, [], o, _, rfl, looked, fun x member => (nomatch member), rfl,
        fun course? ended => ?_⟩
      cases ended
      rcases o with (x | k) | x <;> cases mapped
      rfl
    | error x =>
      have logs : Within (fun r => ∃ entry, r = .log entry) (do
          let c ← get
          Lookup.log .warn .engine "Course descriptor unavailable"
            [c.keyField, ("error", x.message)]
          pure (none : Option Course)) :=
        within_bind Lookup.within_get fun _ =>
          within_bind (within_log _ _ _ _ fun entry => ⟨entry, rfl⟩) fun _ => within_pure _
      have spares : ∀ r, (∃ entry, r = Request.log entry) → r.spares := by
        rintro r ⟨entry, rfl⟩
        trivial
      refine ⟨ys, zs, o, c₁, rfl, looked, (logs.goes settled).1,
        (logs.mono spares).course?_eq settled, fun course? ended => ?_⟩
      subst ended
      obtain ⟨us, vs, here, c₂, rfl, -, warned⟩ := Lookup.goes_bind_ok settled
      obtain ⟨ws, ts, _, c₃, rfl, -, answered⟩ := Lookup.goes_bind_ok warned
      cases (Lookup.goes_pure answered).2.1
      rcases o with (x | k) | x <;> cases mapped
      rfl
  · obtain ⟨o, mapped, looked⟩ := Lookup.goes_attempt attempted
    exact ⟨xs, [], o, c', (List.append_nil xs).symm, looked, fun x member => (nomatch member), rfl,
      nofun⟩

/-- The descriptor that grades go out with is the one at hand from then on. -/
theorem goes_availableCourse (h : availableCourse.Goes c xs (.ok course?) c') :
    c'.course? = course? ∧ (course? = none → ∃ f, .error f ∈ courseLoads xs) := by
  obtain ⟨ys, logs, o, c₁, rfl, looked, -, same, found⟩ := availableCourse_cases h
  rw [same, found course? rfl]
  rcases o with f | x
  · rcases Context.course_cases looked with
      ⟨x, -, -, impossible, -⟩ | ⟨missing, ⟨entry, rfl⟩, ⟨x, impossible, -⟩ | ⟨f', failed, rfl⟩⟩
    · cases impossible
    · cases impossible
    · exact ⟨missing, fun _ => ⟨f, by simp [courseLoads, Exchange.courseLoad?]⟩⟩
  · exact ⟨Context.goes_course looked, nofun⟩

/-- One load is made for it, unless the descriptor is at hand. -/
theorem loads_availableCourse {r : Except Failure (Option Course)}
    (h : availableCourse.Goes c xs r c') :
    (courseLoads xs).length = if c.course?.isSome then 0 else 1 := by
  obtain ⟨ys, logs, o, c₁, rfl, looked, logged, -⟩ := availableCourse_cases h
  rw [courseLoads_append, (loads_logs logged).2, List.append_nil]
  rcases Context.course_cases looked with ⟨x, held, rfl, -⟩ | ⟨missing, ⟨entry, rfl⟩, -⟩
  · rw [held]
    rfl
  · rw [missing]
    rfl

/-- What comes of an announcement when every listener was told of the change. -/
def acclaim (e : GradeEngine) (learner : Learner) (key : CourseKey) (kept : Bool)
    (grade : ResolvedGrade) : Lookup ResolvedGrade := do
  if grade.passed then
    let _ ← e.dispatch (.nowPassed learner key)
  let full ← Context.fullText
  Lookup.log .info .engine ("Grades: Update, " ++ full ++ ", User: " ++ learner.id.text ++ ", " ++
    grade.text ++ ", persisted: " ++ boolText kept)
  pure grade

theorem announce_eq (e : GradeEngine) (learner : Learner) (key : CourseKey) (b : GradeBreakdown)
    (kept : Bool) : e.announce learner key b kept = availableCourse >>= fun course =>
      e.dispatch (.changed learner (.ofBreakdown learner.id key b kept) key
        (course.bind (·.ends))) >>= fun _ =>
      e.acclaim learner key kept (.ofBreakdown learner.id key b kept) := rfl

theorem within_acclaim (e : GradeEngine) (learner : Learner) (key : CourseKey) (kept : Bool)
    (grade : ResolvedGrade) : Within Request.undated (e.acclaim learner key kept grade) := by
  have rest : Within Request.undated (do
      let full ← Context.fullText
      Lookup.log .info .engine ("Grades: Update, " ++ full ++ ", User: " ++ learner.id.text ++
        ", " ++ grade.text ++ ", persisted: " ++ boolText kept)
      pure grade) :=
    within_bind (Context.structural_fullText.mono fun _ => Request.undated_of_structural) fun _ =>
      within_bind (within_log _ _ _ _ fun _ => trivial) fun _ => within_pure _
  unfold acclaim
  split
  · exact within_bind (within_dispatch e (fun _ => trivial) fun _ => trivial) fun _ => rest
  · exact rest

theorem deadlines_dispatch {key : CourseKey} {grade : ResolvedGrade} {deadline : Option Instant}
    {r : Except Failure DispatchReport}
    (h : (e.dispatch (.changed learner grade key deadline)).Goes c xs r c') :
    deadlines xs = e.listeners.map fun _ => deadline := by
  rw [deadlines, goes_dispatch h, List.filterMap_map]
  exact List.filterMap_eq_map ▸ rfl

/-- **A grade goes out with the end of the descriptor** its context has then. -/
theorem announced_announce {key : CourseKey} {b : GradeBreakdown} {kept : Bool}
    (h : (e.announce learner key b kept).Goes c xs o c') :
    e.Announced xs o.toOption c'.course? := by
  rw [announce_eq] at h
  rcases Lookup.goes_bind h with ⟨ys, zs, course?, c₁, rfl, available, h⟩ | ⟨f, rfl, available⟩
  · obtain ⟨found, sought⟩ := goes_availableCourse available
    have early := deadlines_hidden (hidden_of_looks (within_availableCourse.goes available).1)
    have spares : Within Request.spares (e.dispatch (.changed learner
        (.ofBreakdown learner.id key b kept) key (course?.bind (·.ends)))) :=
      within_dispatch e (fun _ => trivial) fun _ => trivial
    have dated {us vs : List Exchange} {r : Except Failure DispatchReport} {c₂ : Context}
        (told : (e.dispatch (.changed learner (.ofBreakdown learner.id key b kept) key
          (course?.bind (·.ends)))).Goes c₁ us r c₂) (late : deadlines vs = []) :
        e.Announced (ys ++ (us ++ vs)) o.toOption course? := by
      have same : deadlines (ys ++ (us ++ vs)) =
          e.listeners.map fun _ => course?.bind (·.ends) := by
        rw [deadlines_append, deadlines_append, early, late, deadlines_dispatch told,
          List.append_nil, List.nil_append]
      refine ⟨.inr same, fun _ _ _ _ => same, fun missing _ => ?_⟩
      obtain ⟨f, failed⟩ := sought missing
      exact ⟨f, by rw [courseLoads_append]; exact List.mem_append_left _ failed⟩
    rcases Lookup.goes_bind h with ⟨us, vs, report, c₂, rfl, told, rest⟩ | ⟨f, rfl, told⟩
    · have undated := within_acclaim e learner key kept (.ofBreakdown learner.id key b kept)
      have late := deadlines_undated (undated.goes rest).1
      rw [(undated.mono fun _ => Request.spares_of_undated).course?_eq rest,
        spares.course?_eq told, found]
      exact dated told late
    · rw [spares.course?_eq told, found, ← List.append_nil zs]
      exact dated told rfl
  · have looks := (within_availableCourse.goes available).1
    exact announced_of_silent (deadlines_hidden (hidden_of_looks looks)) nofun

theorem deadlines_keep {known : Option StoredGrade} {b : GradeBreakdown}
    {u : Except Failure Unit} (h : (keep learner known b).Goes c xs u c') : deadlines xs = [] := by
  rcases goes_keep h with ⟨-, hidden⟩ | ⟨ys, row, -, rfl, recorded⟩
  · exact deadlines_hidden hidden
  · have records := ((within_recordOver learner known b).goes recorded).1
    have hidden : ∀ x ∈ ys, x.Hidden :=
      hidden_of_discreet fun x member => Request.discreet_of_records (records x member)
    rw [deadlines_append, deadlines_hidden hidden]
    rfl

theorem announced_conclude {readOnly : Bool} {known : Option StoredGrade} {b : GradeBreakdown}
    (h : (e.conclude learner readOnly known b).Goes c xs o c') :
    e.Announced xs o.toOption c'.course? := by
  rcases Lookup.goes_bind h with ⟨gs, ts, here, c₁, rfl, got, concluding⟩ | ⟨f, -, got⟩
  · obtain ⟨rfl, same, rfl⟩ := Lookup.goes_get got
    cases same
    dsimp only at concluding
    split at concluding
    · rcases Lookup.goes_bind concluding with ⟨ks, ns, u, c₂, rfl, kept, told⟩ | ⟨f, rfl, kept⟩
      · exact (announced_announce told).after (deadlines_keep kept)
      · exact announced_of_silent (deadlines_keep kept) nofun
    · exact announced_announce concluding
  · cases (Lookup.goes_get got).2.1

/-- **Every resolution announces** with the descriptor its context has in the end. -/
theorem announced_resolveHere (h : (e.resolveHere learner s).Goes c xs o c') :
    e.Announced xs o.toOption c'.course? := by
  rw [← reach_settle] at h
  rcases Lookup.goes_bind h with ⟨ys, zs, r, c₁, rfl, reached, settled⟩ | ⟨f, rfl, reached⟩
  · have early := deadlines_hidden (hidden_of_gathers ((gathers_reach e learner s).goes reached).1)
    cases r with
    | answered g =>
      obtain ⟨rfl, rfl, -⟩ := Lookup.goes_pure settled
      rw [List.append_nil]
      refine announced_of_silent early fun g' same => ?_
      cases same
      exact goes_reach reached
    | computed readOnly known b => exact (announced_conclude settled).after early
  · have gathers := ((gathers_reach e learner s).goes reached).1
    exact announced_of_silent (deadlines_hidden (hidden_of_gathers gathers)) nofun

end GradeEngine

/-! ## Batches -/

namespace Batch

open GradeEngine (Announced)

variable {e : GradeEngine} {b b' : Batch} {xs : List Exchange}

/-- With which descriptor a result of a batch is told: the one at hand in this context, else
one that was loaded for this result. -/
structure Dated (e : GradeEngine) (c : Context) (xs : List Exchange) (r : Option GradeResult)
    (course? : Option Course) : Prop where
  announced : e.Announced xs (r.bind (·.outcome.toOption)) course?
  held : ∀ x, c.course? = some x → course? = some x
  loaded : ∀ x, course? = some x → c.course? = some x ∨ .ok x ∈ courseLoads xs
  /-- It is asked for once, with calculators that load through their context only. -/
  once : (∀ learner, Lookup.Frugal (e.calculator learner)) →
    OneLoad c.course? (courseLoads xs) course?

/-- **Every result is told with one descriptor.** -/
theorem dated_next {r : Option GradeResult} (h : (b.next e).Goes xs (.done (r, b'))) :
    ∃ course?, Dated e b.context xs r course? := by
  obtain ⟨-, ⟨learner, rest, ys, zs, o, c', -, rfl, resolved, logs, rfl⟩ | ⟨-, rfl, cleared⟩⟩ :=
    goes_next h
  · have undated : ∀ x ∈ zs, x.1.undated := fun x member => by
      obtain ⟨entry, logged⟩ := logs x member
      rw [logged]
      trivial
    have late := deadlines_undated undated
    have unloaded := (loads_logs logs).2
    have everything : Within (fun _ => True) (e.resolveHere learner b.strategy) :=
      GradeEngine.within_resolveHere (fun _ _ => trivial) (fun _ _ => trivial) e learner b.strategy
    obtain ⟨-, filled⟩ := everything.goes resolved
    have announced : e.Announced (ys ++ zs) (o.mapError Failure.contained).toOption c'.course? := by
      have same : (o.mapError Failure.contained).toOption = o.toOption := by cases o <;> rfl
      rw [same]
      exact (GradeEngine.announced_resolveHere resolved).before late
    refine ⟨c'.course?, announced, filled.course, fun x held => ?_, fun calculates => ?_⟩
    · rw [courseLoads_append]
      exact (filled.courseFrom x held).imp_right fun loaded =>
        List.mem_append_left _ (mem_courseLoads loaded)
    · rw [courseLoads_append, unloaded, List.append_nil]
      exact (GradeEngine.frugal_resolveHere calculates _ _ resolved).course
  · refine ⟨b.context.course?, GradeEngine.announced_of_silent ?_ nofun, fun _ => id,
      fun _ => .inl, fun _ => ?_⟩
    · rcases cleared with rfl | rfl <;> rfl
    · rcases cleared with rfl | rfl <;> exact .refl _

/-- A batch with a descriptor at hand keeps to it. -/
theorem Continues.held {x : Course} (held : b.context.course? = some x)
    (h : Continues e b xs b') : b'.context.course? = some x ∧ (∀ d ∈ deadlines xs, d = x.ends) ∧
      ((∀ learner, Lookup.Frugal (e.calculator learner)) → courseLoads xs = []) := by
  have silent {ys zs : List Exchange} (told : ∀ d ∈ deadlines ys, d = x.ends)
      (quiet : deadlines zs = []) : ∀ d ∈ deadlines (ys ++ zs), d = x.ends := by
    rwa [deadlines_append, quiet, List.append_nil]
  induction h with
  | started => exact ⟨held, nofun, fun _ => rfl⟩
  | next before went ih =>
    obtain ⟨there, told, unloaded⟩ := ih
    obtain ⟨course?, dated⟩ := dated_next went
    rw [(goes_next went).1]
    refine ⟨there, fun d member => ?_, fun calculates => ?_⟩
    · rw [deadlines_append] at member
      rcases List.mem_append.1 member with earlier | now
      · exact told d earlier
      · rw [dated.announced.deadline d now, dated.held x there]
        rfl
    · have once := dated.once calculates
      rw [there] at once
      rw [courseLoads_append, unloaded calculates, once.of_held.1]
      rfl
  | closed before went ih =>
    obtain ⟨there, told, unloaded⟩ := ih
    obtain ⟨rfl | rfl, same⟩ := close_cases went
    all_goals
      rw [same, courseLoads_append]
      exact ⟨there, silent told rfl, fun calculates => by rw [unloaded calculates]; rfl⟩
  | consulted before went ih =>
    obtain ⟨there, told, unloaded⟩ := ih
    have once := (Context.frugal_consult _ went).course
    rw [there] at once
    have hidden := hidden_of_looks ((Context.within_consult _).goes went).1
    refine ⟨once.of_held.2, silent told (deadlines_hidden hidden), fun calculates => ?_⟩
    rw [courseLoads_append, unloaded calculates, once.of_held.1]
    rfl

/-- A batch without a descriptor goes on without one as long as none can be loaded. -/
theorem Continues.missed (missing : b.context.course? = none) (h : Continues e b xs b')
    (failing : ∀ r ∈ courseLoads xs, ∃ f, r = .error f) :
    b'.context.course? = none ∧ ∀ d ∈ deadlines xs, d = none := by
  have parts {ys zs : List Exchange} (failing : ∀ r ∈ courseLoads (ys ++ zs), ∃ f, r = .error f) :
      (∀ r ∈ courseLoads ys, ∃ f, r = .error f) ∧ ∀ r ∈ courseLoads zs, ∃ f, r = .error f := by
    rw [courseLoads_append] at failing
    exact List.forall_mem_append.1 failing
  induction h with
  | started => exact ⟨missing, nofun⟩
  | next before went ih =>
    obtain ⟨there, told⟩ := ih (parts failing).1
    obtain ⟨course?, dated⟩ := dated_next went
    have none : course? = none := by
      cases found : course? with
      | none => rfl
      | some x =>
        rcases dated.loaded x found with held | loaded
        · cases there.symm.trans held
        · obtain ⟨f, impossible⟩ := (parts failing).2 _ loaded
          cases impossible
    rw [(goes_next went).1, deadlines_append]
    refine ⟨there, List.forall_mem_append.2 ⟨told, fun d now => ?_⟩⟩
    rw [dated.announced.deadline d now, none]
    rfl
  | closed before went ih =>
    obtain ⟨there, told⟩ := ih (parts failing).1
    obtain ⟨rfl | rfl, same⟩ := close_cases went
    all_goals
      rw [same, deadlines_append]
      exact ⟨there, List.forall_mem_append.2 ⟨told, nofun⟩⟩
  | consulted before went ih =>
    obtain ⟨there, told⟩ := ih (parts failing).1
    have once := (Context.frugal_consult _ went).course
    have hidden := hidden_of_looks ((Context.within_consult _).goes went).1
    refine ⟨(once.eq_of_missed (parts failing).2).trans there, ?_⟩
    rwa [deadlines_append, deadlines_hidden hidden, List.append_nil]

/-! ### The start -/

/-- Before its first learner a batch asks for a descriptor once, unless it was supplied. -/
theorem courseLoads_prepare {c c' : Context} {o : Except Failure Unit}
    (h : prepare.Goes c xs o c') :
    (courseLoads xs).length ≤ 1 ∧ OneLoad c.course? (courseLoads xs) c'.course? ∧
      (o = .ok () → c.course? = none → (courseLoads xs).length = 1) := by
  have frugal := Lookup.frugal_bind Context.frugal_content fun _ =>
    Lookup.frugal_bind GradeEngine.frugal_availableCourse fun _ => Lookup.frugal_pure ()
  have once := (frugal h).course
  rcases Lookup.goes_bind h with ⟨ys, zs, x, c₁, rfl, looked, available⟩ | ⟨f, rfl, looked⟩
  · have unloaded := Context.courseLoads_structural Context.structural_content looked
    have asked : (courseLoads (ys ++ zs)).length = if c.course?.isSome then 0 else 1 := by
      have same := (Context.spares_structural Context.structural_content).course?_eq looked
      rw [courseLoads_append, unloaded, List.nil_append, ← same]
      rcases Lookup.goes_bind available with ⟨us, vs, d, c₂, rfl, found, ended⟩ | ⟨f, -, found⟩
      · obtain ⟨rfl, -⟩ := Lookup.goes_pure ended
        rw [List.append_nil]
        exact GradeEngine.loads_availableCourse found
      · exact GradeEngine.loads_availableCourse found
    refine ⟨?_, once, fun _ missing => by rw [asked, missing]; rfl⟩
    rw [asked]
    split <;> omega
  · have unloaded := Context.courseLoads_structural Context.structural_content looked
    exact ⟨by rw [unloaded]; exact Nat.zero_le 1, once, nofun⟩

/-! ## The whole -/

/-- **The descriptor of a batch**, whatever is replied to loads before and between its results.

* At its start one is asked for once, unless it was supplied, and nobody is told anything.
* If there is one then, every grade computed in the batch is announced with its end, and no
  other is loaded for the batch.
* If there is none and none can be loaded, every grade is announced with no deadline.
* In any case a result is announced to every listener alike, with the end of the descriptor at
  hand before, or else of the one that was loaded while it was resolved. -/
theorem one_descriptor {supply : Supply} {i : CourseInputs} {s : Strategy}
    {o : Except Failure Batch} (went : (start supply i s).Goes xs (.done o)) :
    (courseLoads xs).length ≤ 1 ∧ deadlines xs = [] ∧
    ∀ b, o = .ok b →
      OneLoad i.course (courseLoads xs) b.context.course? ∧
      (i.course = none → (courseLoads xs).length = 1) ∧
      ∀ ys b', Continues e b ys b' →
        (∀ x, b.context.course? = some x → (∀ d ∈ deadlines ys, d = x.ends) ∧
          ((∀ learner, Lookup.Frugal (e.calculator learner)) → courseLoads ys = [])) ∧
        (b.context.course? = none → (∀ r ∈ courseLoads ys, ∃ f, r = .error f) →
          ∀ d ∈ deadlines ys, d = none) ∧
        ∀ zs r b'', (b'.next e).Goes zs (.done (r, b'')) →
          ∃ course?, Dated e b'.context zs r course? := by
  rcases goes_start went with ⟨x, -, rfl, rfl⟩ | ⟨c, c', r, opened, prepared, rfl⟩
  · exact ⟨Nat.zero_le 1, rfl, fun b begun => (nomatch begun)⟩
  · have supplied : c.course? = i.course := by rw [Context.ofInputs_eq opened]
    obtain ⟨most, once, asked⟩ := courseLoads_prepare prepared
    rw [supplied] at once asked
    have silent := deadlines_hidden (hidden_of_looks (within_prepare.goes prepared).1)
    refine ⟨most, silent, fun b started => ?_⟩
    rcases r with f | u
    · cases started
    · cases started
      exact ⟨once, asked rfl, fun ys b' continued =>
        ⟨fun x held => (continued.held held).2,
          fun missing failing => (continued.missed missing failing).2,
          fun zs r b'' called => dated_next called⟩⟩

end Batch

namespace Sample

/-- A loader that finds no descriptor at first, and then one with a later end at every call. -/
def postponing (misses : Nat) : Dialogue.Answering Nat
  | .loadCourse key, n =>
    (if n < misses then .error (.error (.content (.unknownCourse key)))
      else .ok { (course none []).course with ends := some ⟨n, 0⟩ }, n + 1)
  | .loadContent _, n => (.ok (course none []).content, n)
  | r, n => ((World.answer r {}).1, n)

def telling : GradeEngine := { engine with listeners := [.logging] }

/-- A learner comes twice. -/
def twice : Supply := .ofLearners [learner, learner]

end Sample

namespace Batch

/-- The end of the course is postponed every time it is asked for. A batch that was started
announces the one it found, however it goes on. -/
theorem one_descriptor_postponed :
    let start := Batch.start Sample.twice (.ofKey Sample.key) .forceUpdate
    ∃ b, (start.run (Sample.postponing 0) 0).1 = .ok b ∧
      deadlines ((b.next Sample.telling).exchanges (Sample.postponing 0) 1) = [some ⟨0, 0⟩] ∧
      ∀ ys b', Continues Sample.telling b ys b' →
        (∀ d ∈ deadlines ys, d = some ⟨0, 0⟩) ∧ courseLoads ys = [] := by
  intro start
  have began : ((start.run (Sample.postponing 0) 0).1.toOption.map fun b =>
      (b.context.course?.map (·.ends),
        deadlines ((b.next Sample.telling).exchanges (Sample.postponing 0) 1))) =
      some (some (some ⟨0, 0⟩), [some ⟨0, 0⟩]) := by decide +kernel
  have went := Dialogue.goes_run (Sample.postponing 0) start 0
  cases started : (start.run (Sample.postponing 0) 0).1 with
  | error f =>
    rw [started] at began
    cases began
  | ok b =>
    rw [started] at began went
    obtain ⟨found, told⟩ := Prod.mk.inj (Option.some.inj began)
    obtain ⟨x, held, ends⟩ := Option.map_eq_some_iff.1 found
    refine ⟨b, rfl, told, fun ys b' continued => ?_⟩
    obtain ⟨-, -, later⟩ := (one_descriptor (e := Sample.telling) went).2.2 b rfl
    obtain ⟨same, unloaded⟩ := (later ys b' continued).1 x held
    exact ⟨ends ▸ same, unloaded Calculator.frugal_weighted⟩

/-- A batch whose descriptor could not be fetched at its start asks for it again with every
learner. Once it is found, the grades of one batch are announced with one deadline and then
with another. -/
theorem deadlines_differ_after_missed_fetch :
    let answer := Sample.postponing 1
    let start := Batch.start Sample.twice (.ofKey Sample.key) .forceUpdate
    ∃ b, (start.run answer 0).1 = .ok b ∧ b.context.course?.isNone ∧
      let first := b.next Sample.telling
      let second := (first.run answer 1).1.2.next Sample.telling
      let exchanged := second.exchanges answer (first.run answer 1).2
      deadlines (first.exchanges answer 1) = [some ⟨1, 0⟩] ∧
        deadlines exchanged = [some ⟨2, 0⟩] ∧
        (courseLoads (start.exchanges answer 0 ++ first.exchanges answer 1 ++ exchanged)).length =
          3 := by
  intro answer start
  have began : ((start.run answer 0).1.toOption.map fun b =>
      let first := b.next Sample.telling
      let second := (first.run answer 1).1.2.next Sample.telling
      let exchanged := second.exchanges answer (first.run answer 1).2
      (b.context.course?.isNone, deadlines (first.exchanges answer 1), deadlines exchanged,
        (courseLoads (start.exchanges answer 0 ++ first.exchanges answer 1 ++
          exchanged)).length)) = some (true, [some ⟨1, 0⟩], [some ⟨2, 0⟩], 3) := by
    decide +kernel
  cases begun : (start.run answer 0).1 with
  | error f =>
    rw [begun] at began
    cases began
  | ok b =>
    rw [begun] at began
    have same := Option.some.inj began
    simp only [Prod.mk.injEq] at same
    exact ⟨b, rfl, same⟩

end Batch

end Gradebook
