/-
# Gradebook.Proofs.Racing — calls that run at the same time

Nothing keeps calls for the same learner and course apart: each reads a row at one moment and
writes one at a later moment, with anything in between. `Race.Step` lets one call of many
exchange one request with its surroundings. The store is one, kept in memory, and serves one
request at a time; the clock is one and never goes back; everything else a call is replied may
be anything.

`Race.Sane` is what a step keeps (`Sane.step`). The rows of the store are the last ones landed;
and what makes each of them whole is said of the calls: whatever row a call has been replied was
in order when it was, and is no later than any reading of the clock that the call makes after
(`Flight.Sane`). So the moments in a row are in order though the row it was written over may
have been replaced meanwhile.

`rows_are_whole` is the statement for every race that can be reached.
-/
import Gradebook.Proofs.Performances
import Mathlib.Logic.Relation

namespace Gradebook

set_option autoImplicit false

open GradeEngine (Prepared)

/-! ## Rows in order -/

namespace StoredGrade

/-- The moments of a row are in order. -/
structure Timely (row : StoredGrade) : Prop where
  created : row.createdAt ≤ row.modifiedAt
  passed : ∀ t, row.passedAt = some t → row.createdAt ≤ t ∧ t ≤ row.modifiedAt

/-- A row over one in order, which is no later than the clock, is in order. -/
theorem timely_of_records {row : StoredGrade} {learner : LearnerId} {b : GradeBreakdown}
    {previous : Option StoredGrade} {now : Instant} {c : Context}
    (records : row.Records learner b previous now c)
    (before : ∀ p, previous = some p → p.Timely ∧ p.modifiedAt ≤ now) : row.Timely := by
  have created : row.createdAt ≤ now := by
    rw [records.createdAt]
    cases previous with
    | none => exact Instant.le_refl now
    | some p =>
      obtain ⟨timely, earlier⟩ := before p rfl
      exact Instant.le_trans timely.created earlier
  refine ⟨records.modifiedAt ▸ created, fun t passed => ?_⟩
  rw [records.modifiedAt]
  rw [records.passedAt] at passed
  split at passed
  · cases since : previous.bind (·.passedAt) with
    | none =>
      rw [since] at passed
      cases passed
      exact ⟨created, Instant.le_refl now⟩
    | some u =>
      rw [since] at passed
      cases passed
      obtain ⟨p, rfl, held⟩ := Option.bind_eq_some_iff.1 since
      obtain ⟨timely, earlier⟩ := before p rfl
      obtain ⟨after, ahead⟩ := timely.passed _ held
      have same : row.createdAt = p.createdAt := records.createdAt
      exact ⟨same ▸ after, Instant.le_trans ahead earlier⟩
  · cases passed

end StoredGrade

/-! ## The race -/

/-- A call that resolves one learner on inputs: `create` is the strategy that serves current
grades, `update` the one that computes. -/
structure Call where
  engine : GradeEngine
  learner : Learner
  inputs : CourseInputs
  strategy : Strategy

namespace Call

def dialogue (call : Call) : Dialogue (Except Failure ResolvedGrade) :=
  match call.strategy with
  | .createIfStale => call.engine.create call.learner call.inputs
  | .forceUpdate => call.engine.update call.learner call.inputs

theorem dialogue_eq (call : Call) : call.dialogue = GradeEngine.within call.learner call.inputs
    (call.engine.resolveHere call.learner call.strategy) := by
  rw [dialogue]
  cases call.strategy <;> rfl

end Call

/-- A call with what it has exchanged so far and what is left of it. -/
structure Flight where
  call : Call
  said : List Exchange
  rest : Dialogue (Except Failure ResolvedGrade)

/-- Calls at the same time, on one store and one clock. -/
structure Race where
  flights : List Flight
  rows : MemoryRows
  /-- The latest reading of the clock. -/
  clock : Instant
  /-- The rows that landed in the store, in order, each with the number of its call. -/
  landed : List (Nat × StoredGrade)

namespace Race

/-- All calls before their first request, and no row. -/
def start (calls : List Call) (clock : Instant) : Race where
  flights := calls.map fun call => ⟨call, [], call.dialogue⟩
  rows := []
  clock := clock
  landed := []

/-- The race after an exchange of one call. -/
def after (race : Race) (n : Nat) (flight : Flight) (x : Exchange)
    (rest : Dialogue (Except Failure ResolvedGrade)) : Race where
  flights := race.flights.set n ⟨flight.call, flight.said ++ [x], rest⟩
  rows := x.rowsAfter race.rows
  clock := x.reading?.getD race.clock
  landed := race.landed ++ x.row?.toList.map (n, ·)

/-- One call exchanges one request: rows are found as they are, unless the store fails, and the
clock does not go back. -/
inductive Step : Race → Race → Prop where
  | exchange {race : Race} {n : Nat} {flight : Flight} {x : Exchange}
      {rest : Dialogue (Except Failure ResolvedGrade)} (inFlight : race.flights[n]? = some flight)
      (asks : flight.rest.Goes [x] rest) (truthful : x.Truthful race.rows)
      (onTime : ∀ t, x.reading? = some t → race.clock ≤ t) : Step race (race.after n flight x rest)

/-- What can be reached from calls that start together. -/
def Reachable (calls : List Call) (clock : Instant) : Race → Prop :=
  Relation.ReflTransGen Step (start calls clock)

/-- The last row that landed for a learner in a course. -/
def lastLanded? (race : Race) (learner : LearnerId) (key : CourseKey) : Option StoredGrade :=
  (race.landed.reverse.find? fun l => l.2.learner = learner ∧ l.2.courseKey = key).map (·.2)

end Race

/-! ## Rows that one call built -/

namespace Flight

/-- The row is the work of this one call: what it says is the breakdown that the call decided
on, and its stamps are those of the call's own context, that is, of what the caller supplied or
the loader replied to this call. -/
def Built (f : Flight) (row : StoredGrade) : Prop :=
  ∃ c₀ b c content, Context.ofInputs (some f.call.learner.id) f.call.inputs = .ok c₀ ∧
    f.call.engine.Decides f.call.learner f.call.strategy c₀ f.said b ∧
    row.Keeps f.call.learner.id c₀.key b ∧
    c₀.FilledBy f.said c ∧ c.content? = some content ∧
    row.policyHash = content.gradingPolicy.hash ∧
    c.edition? = some (row.contentVersion, row.contentEditedAt)

/-- What a call in flight is known by: a row it was replied was in order, and is no later than
any reading of the clock the call made after. -/
structure Sane (f : Flight) (clock : Instant) : Prop where
  went : f.call.dialogue.Goes f.said f.rest
  read : ∀ t ∈ readings f.said, t ≤ clock
  found : ∀ learner key row, ⟨.findRow learner key, .ok (some row)⟩ ∈ f.said →
    row.Timely ∧ row.modifiedAt ≤ clock
  earlier : ∀ before after learner key row,
    f.said = before ++ ⟨.findRow learner key, .ok (some row)⟩ :: after →
    ∀ t ∈ readings after, row.modifiedAt ≤ t

/-- What a call has built stays its work as it goes on. -/
theorem Built.on {f : Flight} {row : StoredGrade} (h : f.Built row) (x : Exchange)
    (rest : Dialogue (Except Failure ResolvedGrade)) :
    Built ⟨f.call, f.said ++ [x], rest⟩ row := by
  obtain ⟨c₀, b, c, content, opened, decides, keeps, filled, held, hash, edition⟩ := h
  exact ⟨c₀, b, c, content, opened, decides.append [x], keeps, filled.append [x], held, hash,
    edition⟩

/-- What is written once stands in one place only. -/
theorem split_unique {xs ys xs' ys' : List Exchange} {row row' : StoredGrade}
    (same : xs ++ ⟨.putRow row, .ok ()⟩ :: ys = xs' ++ ⟨.putRow row', .ok ()⟩ :: ys')
    (first : written xs' = []) (last : written ys' = []) : xs = xs' ∧ row = row' := by
  rcases List.append_eq_append_iff.1 same with ⟨as, rfl, rest⟩ | ⟨as, rfl, rest⟩
  · cases as with
    | nil =>
      cases rest
      exact ⟨(List.append_nil _).symm, rfl⟩
    | cons x as =>
      obtain ⟨rfl, -⟩ := List.cons.inj rest
      rw [written_append, written_put] at first
      cases (List.append_eq_nil_iff.1 first).2
  · cases as with
    | nil =>
      cases rest
      exact ⟨List.append_nil _, rfl⟩
    | cons x as =>
      rw [List.cons_append] at rest
      obtain ⟨-, rfl⟩ := List.cons.inj rest
      rw [written_append, written_put] at last
      cases (List.append_eq_nil_iff.1 last).2

/-- A call that gets a row written has prepared it. -/
theorem prepared_of_put {f : Flight} {row : StoredGrade}
    {rest : Dialogue (Except Failure ResolvedGrade)} (went : f.call.dialogue.Goes f.said f.rest)
    (put : f.rest.Goes [⟨.putRow row, .ok ()⟩] rest) :
    ∃ c₀ b previous now c, Context.ofInputs (some f.call.learner.id) f.call.inputs = .ok c₀ ∧
      Prepared f.call.engine f.call.learner f.call.strategy c₀ f.said b previous now row c := by
  -- Let the call go on to an end: what it has exchanged then begins with what it has by now.
  obtain ⟨ys, o, ended⟩ := Dialogue.goes_somewhere rest
  have whole : f.call.dialogue.Goes (f.said ++ ⟨.putRow row, .ok ()⟩ :: ys) (.done o) :=
    Dialogue.goes_append.2 ⟨f.rest, went, Dialogue.goes_append.2 ⟨rest, put, ended⟩⟩
  rw [Call.dialogue_eq] at whole
  rcases GradeEngine.goes_within whole with ⟨x, -, silent, -⟩ | ⟨c₀, c, opened, resolved⟩
  · cases (List.append_eq_nil_iff.1 silent).2
  · rcases (GradeEngine.exchanged resolved).upsert with
      none | ⟨xs, zs, b, previous, now, row', c₁, same, prepared, announces⟩
    · rw [written_append, written_put] at none
      cases (List.append_eq_nil_iff.1 none).2
    · have early := written_hidden prepared.hidden
      obtain ⟨rfl, rfl⟩ := split_unique same early (written_announces announces)
      exact ⟨c₀, b, previous, now, c₁, opened, prepared⟩

/-- The row that a call gets written is its work, in order, and no later than the clock. -/
theorem built_of_put {f : Flight} {row : StoredGrade} {clock : Instant}
    {rest : Dialogue (Except Failure ResolvedGrade)} (sane : f.Sane clock)
    (put : f.rest.Goes [⟨.putRow row, .ok ()⟩] rest) :
    f.Built row ∧ row.Timely ∧ row.modifiedAt ≤ clock := by
  obtain ⟨c₀, b, previous, now, c, opened, prepared⟩ := prepared_of_put sane.went put
  have records := prepared.records
  refine ⟨?_, ?_, ?_⟩
  · have start : c₀.Sound := Context.sound_ofInputs opened
    obtain ⟨content, held, hash⟩ := prepared.filled.sound start _ records.policyHash
    exact ⟨c₀, b, c, content, opened, prepared.decides, prepared.filled.key ▸ records.toKeeps,
      prepared.filled, held, hash, records.edition⟩
  · refine StoredGrade.timely_of_records records fun p same => ?_
    cases same
    obtain ⟨before, after, said, -, -, replied⟩ := prepared.replied
    obtain ⟨us, vs, rfl⟩ := List.append_of_mem replied
    rw [List.append_assoc, List.cons_append] at said
    have found : ⟨.findRow f.call.learner.id c₀.key, .ok (some p)⟩ ∈ f.said := by simp [said]
    refine ⟨(sane.found _ _ p found).1, sane.earlier us _ _ _ p said now ?_⟩
    rw [readings_append]
    exact List.mem_append_right _ List.mem_cons_self
  · rw [records.modifiedAt]
    exact sane.read now (prepared.readings ▸ List.mem_singleton_self now)

/-! ### One exchange of a call -/

theorem Sane.later {f : Flight} {clock clock' : Instant} (sane : f.Sane clock)
    (later : clock ≤ clock') : f.Sane clock' where
  went := sane.went
  read t read := Instant.le_trans (sane.read t read) later
  found learner key row replied := by
    obtain ⟨timely, earlier⟩ := sane.found learner key row replied
    exact ⟨timely, Instant.le_trans earlier later⟩
  earlier := sane.earlier

theorem clock_later {clock : Instant} {x : Exchange}
    (onTime : ∀ t, x.reading? = some t → clock ≤ t) : clock ≤ x.reading?.getD clock := by
  cases read : x.reading? with
  | none => exact Instant.le_refl clock
  | some t => exact onTime t read

theorem reading?_of_mem {x : Exchange} {t : Instant} (h : t ∈ readings [x]) :
    x.reading? = some t := by
  obtain ⟨y, member, now⟩ := List.mem_filterMap.1 h
  cases List.mem_singleton.1 member
  exact now

/-- A call stays known by what it is known by, if the row it is replied, if any, is in order and
no later than the clock. -/
theorem Sane.on {f : Flight} {clock : Instant} {x : Exchange}
    {rest : Dialogue (Except Failure ResolvedGrade)} (sane : f.Sane clock)
    (asks : f.rest.Goes [x] rest) (onTime : ∀ t, x.reading? = some t → clock ≤ t)
    (replied : ∀ learner key row, x = ⟨.findRow learner key, .ok (some row)⟩ →
      row.Timely ∧ row.modifiedAt ≤ clock) :
    Sane ⟨f.call, f.said ++ [x], rest⟩ (x.reading?.getD clock) := by
  have later := sane.later (clock_later onTime)
  refine ⟨Dialogue.goes_append.2 ⟨f.rest, sane.went, asks⟩, fun t read => ?_,
    fun learner key row found => ?_, fun before after learner key row said t read => ?_⟩
  · rw [readings_append] at read
    rcases List.mem_append.1 read with old | new
    · exact later.read t old
    · rw [reading?_of_mem new]
      exact Instant.le_refl t
  · rcases List.mem_append.1 found with old | new
    · exact later.found learner key row old
    · obtain ⟨timely, earlier⟩ := replied learner key row (List.mem_singleton.1 new).symm
      exact ⟨timely, Instant.le_trans earlier (clock_later onTime)⟩
  · -- The reading is one made before this exchange, or this exchange itself.
    rcases List.eq_nil_or_concat after with rfl | ⟨after', y, rfl⟩
    · cases read
    · rw [List.concat_eq_append, ← List.cons_append, ← List.append_assoc] at said
      obtain ⟨earlier, last⟩ := List.append_inj' said rfl
      cases last
      rw [List.concat_eq_append, readings_append] at read
      rcases List.mem_append.1 read with old | new
      · exact sane.earlier before after' learner key row earlier t old
      · have found : ⟨.findRow learner key, .ok (some row)⟩ ∈ f.said := by simp [earlier]
        exact Instant.le_trans (sane.found learner key row found).2
          (onTime t (reading?_of_mem new))

end Flight

/-! ## Races that can be reached -/

namespace Race

/-- What every race is known by: the store has the rows that landed last, and every row that
landed is the work of its call and in order. -/
structure Sane (race : Race) (calls : List Call) : Prop where
  calls : race.flights.map (·.call) = calls
  flights : ∀ f ∈ race.flights, f.Sane race.clock
  landed : ∀ n row, (n, row) ∈ race.landed → ∃ f, race.flights[n]? = some f ∧ f.Built row ∧
    row.Timely ∧ row.modifiedAt ≤ race.clock
  rows : ∀ learner key, race.rows.find? learner key = race.lastLanded? learner key

theorem lastLanded?_mem {race : Race} {learner : LearnerId} {key : CourseKey} {row : StoredGrade}
    (h : race.lastLanded? learner key = some row) : ∃ n, (n, row) ∈ race.landed := by
  obtain ⟨⟨n, row⟩, found, rfl⟩ := Option.map_eq_some_iff.1 h
  exact ⟨n, List.mem_reverse.1 (List.mem_of_find?_eq_some found)⟩

/-- What lands is the last that landed, for its learner and course. -/
theorem lastLanded?_after (race : Race) (n : Nat) (flight : Flight) (x : Exchange)
    (rest : Dialogue (Except Failure ResolvedGrade)) (learner : LearnerId) (key : CourseKey) :
    (race.after n flight x rest).lastLanded? learner key = match x.row? with
      | some row => if row.learner = learner ∧ row.courseKey = key then some row
        else race.lastLanded? learner key
      | none => race.lastLanded? learner key := by
  rw [lastLanded?, after]
  cases x.row? with
  | none => simp [lastLanded?]
  | some row =>
    by_cases own : row.learner = learner ∧ row.courseKey = key
    · simp [own]
    · simp [own, lastLanded?]

theorem sane_start (calls : List Call) (clock : Instant) : (start calls clock).Sane calls where
  calls := by
    rw [start, List.map_map]
    exact List.map_id calls
  flights f member := by
    obtain ⟨call, -, rfl⟩ := List.mem_map.1 member
    exact ⟨.here _, fun t read => (nomatch read), fun _ _ _ found => (nomatch found),
      fun before after _ _ _ said => by cases before <;> cases said⟩
  landed n row landed := nomatch landed
  rows learner key := rfl

section Step

variable {race : Race} {calls : List Call} {n : Nat} {flight : Flight} {x : Exchange}
  {rest : Dialogue (Except Failure ResolvedGrade)} (inFlight : race.flights[n]? = some flight)
include inFlight

/-- An exchange does not change whose call it is. -/
theorem calls_after : (race.after n flight x rest).flights.map (·.call) =
    race.flights.map (·.call) := by
  rw [after, List.map_set]
  refine List.ext_getElem? fun m => ?_
  by_cases same : n = m
  · subst same
    have inside : n < (race.flights.map (·.call)).length := by
      rw [List.length_map]
      exact (List.getElem?_eq_some_iff.1 inFlight).1
    rw [List.getElem?_set_self inside, List.getElem?_map, inFlight]
    rfl
  · exact List.getElem?_set_ne same

/-- The row landed, if any, is the work of the call, and all others are of the calls they were. -/
theorem landed_after (sane : race.Sane calls) (own : flight.Sane race.clock)
    (asks : flight.rest.Goes [x] rest) (later : race.clock ≤ x.reading?.getD race.clock) {m : Nat}
    {row : StoredGrade} (landed : (m, row) ∈ (race.after n flight x rest).landed) :
    ∃ f, (race.after n flight x rest).flights[m]? = some f ∧ f.Built row ∧ row.Timely ∧
      row.modifiedAt ≤ x.reading?.getD race.clock := by
  have inside : n < race.flights.length := (List.getElem?_eq_some_iff.1 inFlight).1
  have goneOn : (race.after n flight x rest).flights[n]? =
      some ⟨flight.call, flight.said ++ [x], rest⟩ := List.getElem?_set_self inside
  rcases List.mem_append.1 landed with old | new
  · obtain ⟨f, there, built, timely, earlier⟩ := sane.landed m row old
    have before := Instant.le_trans earlier later
    by_cases same : n = m
    · subst same
      cases inFlight.symm.trans there
      exact ⟨_, goneOn, built.on x rest, timely, before⟩
    · exact ⟨f, (List.getElem?_set_ne same).trans there, built, timely, before⟩
  · obtain ⟨row', put, pair⟩ := List.mem_map.1 new
    cases pair
    obtain rfl := Exchange.row?_eq_some (Option.mem_toList.1 put)
    obtain ⟨built, timely, earlier⟩ := Flight.built_of_put own asks
    exact ⟨_, goneOn, built.on _ rest, timely, earlier⟩

end Step

/-- **One exchange of one call** keeps all that. -/
theorem Sane.step {race race' : Race} {calls : List Call} (sane : race.Sane calls)
    (step : Step race race') : race'.Sane calls := by
  cases step with
  | @exchange n flight x rest inFlight asks truthful onTime =>
    have own := sane.flights flight (List.mem_of_getElem? inFlight)
    have later : race.clock ≤ x.reading?.getD race.clock := Flight.clock_later onTime
    have replied : ∀ learner key row, x = ⟨.findRow learner key, .ok (some row)⟩ →
        row.Timely ∧ row.modifiedAt ≤ race.clock := by
      rintro learner key row rfl
      have there : some row = race.lastLanded? learner key :=
        truthful.trans (sane.rows learner key)
      obtain ⟨n, landed⟩ := lastLanded?_mem there.symm
      obtain ⟨-, -, -, timely, earlier⟩ := sane.landed n row landed
      exact ⟨timely, earlier⟩
    refine ⟨(calls_after inFlight).trans sane.calls, fun f member => ?_,
      fun m row => landed_after inFlight sane own asks later, fun learner key => ?_⟩
    · rcases List.mem_or_eq_of_mem_set member with old | rfl
      · exact (sane.flights f old).later later
      · exact own.on asks onTime replied
    · rw [lastLanded?_after, after, Exchange.rowsAfter_eq]
      cases x.row? with
      | none => exact sane.rows learner key
      | some row =>
        simp only [Option.map_some, Option.getD_some, MemoryRows.find?_put, sane.rows]

theorem Sane.run {race : Race} {calls : List Call} {clock : Instant}
    (reached : Reachable calls clock race) : race.Sane calls := by
  induction reached with
  | refl => exact sane_start calls clock
  | tail _ step ih => exact ih.step step

/-- **No race mixes a row.** Whatever calls run at the same time, from an empty store and with a
clock that does not go back: every row that ever landed in the store was built by one call
alone, and the moments in it are in order; and the row in the store for a learner in a course
is the last one landed for them. -/
theorem rows_are_whole (calls : List Call) (clock : Instant) (race : Race)
    (reached : Reachable calls clock race) :
    (∀ n row, (n, row) ∈ race.landed → ∃ f, race.flights[n]? = some f ∧
        calls[n]? = some f.call ∧ f.Built row ∧ row.Timely) ∧
      ∀ learner key, race.rows.find? learner key = race.lastLanded? learner key := by
  have sane := Sane.run reached
  refine ⟨fun n row landed => ?_, sane.rows⟩
  obtain ⟨f, there, built, timely, -⟩ := sane.landed n row landed
  refine ⟨f, there, ?_, built, timely⟩
  rw [← sane.calls, List.getElem?_map, there]
  rfl

/-! ### Races that are played -/

/-- Everything is served, the course from its definition, and time goes by from one reading of
the clock to the next. -/
def serve (d : CourseDefinition) (race : Race) : (r : Request) → r.Reply
  | .loadCourse _ => .ok d.course
  | .loadContent _ => .ok d.content
  | .findRow learner key => .ok (race.rows.find? learner key)
  | .putRow _ => .ok ()
  | .scoresOf _ _ => .ok ∅
  | .groups _ _ built => built
  | .deliver _ _ => .succeeded
  | .clock => ⟨race.clock.seconds + 1, 0⟩
  | .clear _ | .computing _ | .log _ => ()

/-- Let a call exchange one request, if there is such a call and it has one. -/
def advance (d : CourseDefinition) (race : Race) (n : Nat) : Race :=
  match race.flights[n]? with
  | some ⟨call, said, .ask r next⟩ =>
    let reply := race.serve d r
    race.after n ⟨call, said, .ask r next⟩ ⟨r, reply⟩ (next reply)
  | _ => race

/-- Let calls go on in this order. -/
def play (d : CourseDefinition) (race : Race) (order : List Nat) : Race :=
  order.foldl (advance d) race

theorem reachable_play {calls : List Call} {clock : Instant} (d : CourseDefinition)
    (order : List Nat) {race : Race} (reached : Reachable calls clock race) :
    Reachable calls clock (race.play d order) := by
  induction order generalizing race with
  | nil => exact reached
  | cons n order ih =>
    refine ih ?_
    rw [advance]
    split
    · next call said r next inFlight =>
      refine reached.tail (.exchange inFlight (.on (.here _)) ?_ fun t read => ?_)
      · cases r <;> first | exact rfl | trivial
      · cases r with
        | clock =>
          cases read
          exact .inl (Int.lt_succ _)
        | _ => cases read
    · exact reached

/-- Two updates of one learner. The first reads the clock and is then overtaken by the second,
which finds no row either; the row in the end is that of the first, of an earlier time. -/
theorem rows_are_whole_overtaken :
    let engine (b : GradeBreakdown) : GradeEngine := ⟨{}, .scripted b false {}, []⟩
    let call (b : GradeBreakdown) : Call :=
      ⟨engine b, Sample.learner, .ofKey Sample.key, .forceUpdate⟩
    let calls := [call ⟨0.0, none, false, true, []⟩, call ⟨1.0, some "Pass", true, true, []⟩]
    let race := (start calls ⟨0, 0⟩).play (Sample.course none ["hw1"])
      [0, 0, 0, 1, 1, 1, 1, 1, 1, 0, 0, 0]
    (∀ n row, (n, row) ∈ race.landed → ∃ f, race.flights[n]? = some f ∧
        calls[n]? = some f.call ∧ f.Built row ∧ row.Timely) ∧
      (∀ learner key, race.rows.find? learner key = race.lastLanded? learner key) ∧
      race.landed.map (fun l => (l.1, l.2.passed, l.2.modifiedAt.seconds)) =
        [(1, true, 2), (0, false, 1)] := by
  intro engine call calls race
  have reached : Reachable calls ⟨0, 0⟩ race := reachable_play _ _ .refl
  obtain ⟨whole, last⟩ := rows_are_whole calls ⟨0, 0⟩ race reached
  exact ⟨whole, last, by decide +kernel⟩

end Race

end Gradebook
