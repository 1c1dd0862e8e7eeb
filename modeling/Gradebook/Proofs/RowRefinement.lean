/-
# Gradebook.Proofs.RowRefinement — encoded rows answer like rows in memory

A client puts rows, looks them up, insists on them, counts them, and has the store closed
and opened again, which takes encoded rows through the text of their database
(`RowRequest`). `answers_encoded` says that a store of encoded rows gives it the answers of
a store of rows in memory, whatever the course keys are, as long as the rows that are put
read back.

What carries it: the key of a row tells learners and courses apart, since the learner's
number takes eight bytes whatever it is (`keyOf_inj`), so the encoded rows hold under each
key the text of the row in memory and nothing else (`Mirrors`).
-/
import Gradebook.Proofs.StoredTexts

namespace Gradebook

set_option autoImplicit false

namespace EncodedRows

/-- **Rows of different learners or courses are under different keys.** -/
theorem keyOf_inj {learner other : LearnerId} {key key' : CourseKey}
    (h : keyOf learner key = keyOf other key') : learner = other ∧ key = key' := by
  obtain ⟨number, text⟩ := List.append_inj h rfl
  refine ⟨?_, ?_⟩
  · cases learner
    cases other
    exact congrArg LearnerId.mk (Text.word_inj number)
  · cases key
    cases key'
    exact congrArg CourseKey.mk (Text.utf8_inj text)

end EncodedRows

/-! ## How many entries there are -/

namespace Assoc

theorem length_put {κ ν : Type} [DecidableEq κ] (key : κ) (value : ν) (entries : Assoc κ ν) :
    (put key value entries).length =
      if (find? key entries).isSome then entries.length else entries.length + 1 := by
  induction entries with
  | nil => rfl
  | cons e rest ih =>
    rw [put, find?_cons]
    split
    · rfl
    · rw [List.length_cons, ih, List.length_cons]
      split <;> rfl

end Assoc

namespace ByteTable

open Text (Bytes before)

theorem lookup_eq_none {key : Bytes} {entries : List (Bytes × String)}
    (h : ∀ e ∈ entries, before key e.1 = true) : lookup key entries = none := by
  induction entries with
  | nil => rfl
  | cons e rest ih =>
    have differ : ¬e.1 = key := fun same => by
      have := h e List.mem_cons_self
      rw [same, Text.before_irrefl] at this
      cases this
    rw [lookup, if_neg differ, ih fun f member => h f (List.mem_cons_of_mem _ member)]

theorem length_place (key : Bytes) (value : String) {entries : List (Bytes × String)}
    (ascending : entries.Pairwise fun a b => before a.1 b.1 = true) :
    (place key value entries).length =
      if (lookup key entries).isSome then entries.length else entries.length + 1 := by
  induction entries with
  | nil => rfl
  | cons e rest ih =>
    obtain ⟨first, others⟩ := List.pairwise_cons.1 ascending
    rw [place]
    split
    · next earlier =>
      have none : lookup key (e :: rest) = none := lookup_eq_none fun f member => by
        rcases List.mem_cons.1 member with rfl | member
        · exact earlier
        · exact Text.before_trans earlier (first f member)
      rw [none]
      rfl
    · next notEarlier =>
      split
      · next later =>
        have differ : ¬e.1 = key := fun same => by
          rw [same, Text.before_irrefl] at later
          cases later
        rw [lookup, if_neg differ, List.length_cons, List.length_cons, ih others]
        split <;> rfl
      · next notLater =>
        have same : e.1 = key := (Text.eq_of_not_before (Bool.eq_false_iff.2 notEarlier)
          (Bool.eq_false_iff.2 notLater)).symm
        rw [lookup, if_pos same]
        rfl

theorem size_put (t : ByteTable) (key : Bytes) (value : String) :
    (t.put key value).size = if (t.find? key).isSome then t.size else t.size + 1 :=
  length_place key value t.ascending

end ByteTable

/-! ## Requests and answers -/

/-- What a client asks of a store of rows. -/
inductive RowRequest where
  | put (row : StoredGrade)
  | find (learner : LearnerId) (key : CourseKey)
  | get (learner : LearnerId) (key : CourseKey)
  | count
  /-- Close the store and open it again; its database keeps scores too. -/
  | reopen (beside : EncodedScores)

inductive RowAnswer where
  | done
  | found (row : Except StorageError (Option StoredGrade))
  | got (row : Except GradeError StoredGrade)
  | counted (n : Nat)
  /-- The database did not read back. -/
  | lost

namespace RowStore

/-- The store after it was closed and opened again. Rows in memory just stay. -/
def reopened? (beside : EncodedScores) : RowStore → Option RowStore
  | .memory rows => some (.memory rows)
  | .encoded rows =>
    (Database.ofText? (Database.toText ⟨rows, beside⟩)).map fun db => .encoded db.rows

def answer (s : RowStore) : RowRequest → RowAnswer × RowStore
  | .put row => (.done, s.put row)
  | .find learner key => (.found (s.find? learner key), s)
  | .get learner key => (.got (s.get learner key), s)
  | .count => (.counted s.size, s)
  | .reopen beside => match s.reopened? beside with
    | some s => (.done, s)
    | none => (.lost, s)

def answers (s : RowStore) : List RowRequest → List RowAnswer
  | [] => []
  | r :: rest => (s.answer r).1 :: (s.answer r).2.answers rest

theorem reopened?_eq (beside : EncodedScores) (s : RowStore) : s.reopened? beside = some s := by
  cases s with
  | memory rows => rfl
  | encoded rows => rw [reopened?, Database.ofText?_toText, Option.map_some]

end RowStore

/-! ## The refinement -/

/-- The encoded rows hold the texts of the rows in memory, all of which read back. -/
structure EncodedRows.Mirrors (encoded : EncodedRows) (rows : MemoryRows) : Prop where
  text : ∀ learner key, encoded.table.find? (keyOf learner key) =
    (rows.find? learner key).map encode
  readsBack : ∀ learner key, ∀ row ∈ rows.find? learner key, row.ReadsBack
  size : encoded.table.size = rows.length

namespace EncodedRows.Mirrors

theorem empty : Mirrors {} [] where
  text _ _ := rfl
  readsBack _ _ _ found := nomatch found
  size := rfl

variable {encoded : EncodedRows} {rows : MemoryRows} (h : encoded.Mirrors rows)
include h

theorem find? (learner : LearnerId) (key : CourseKey) :
    encoded.find? learner key = .ok (rows.find? learner key) := by
  rw [EncodedRows.find?, h.text]
  cases found : rows.find? learner key with
  | none => rfl
  | some row =>
    simp only [Option.map_some, decode_encode (h.readsBack learner key row found)]
    rfl

theorem put {row : StoredGrade} (good : row.ReadsBack) :
    (encoded.put row).Mirrors (rows.put row) where
  text learner key := by
    simp only [EncodedRows.put, MemoryRows.put, MemoryRows.find?, ByteTable.find?_put,
      Assoc.find?_put, Prod.mk.injEq]
    by_cases same : row.learner = learner ∧ row.courseKey = key
    · rw [if_pos same, if_pos (by rw [same.1, same.2])]
      rfl
    · rw [if_neg same, if_neg fun keys => same (keyOf_inj keys)]
      exact h.text learner key
  readsBack learner key found member := by
    simp only [MemoryRows.put, MemoryRows.find?, Assoc.find?_put] at member
    split at member
    · cases member
      exact good
    · exact h.readsBack learner key found member
  size := by
    have known : (encoded.table.find? (keyOf row.learner row.courseKey)).isSome =
        (rows.find? row.learner row.courseKey).isSome := by rw [h.text, Option.isSome_map]
    rw [EncodedRows.put, MemoryRows.put, ByteTable.size_put, Assoc.length_put, known, h.size]
    rfl

/-- One request is answered alike, and leaves the stores alike. -/
theorem answer (r : RowRequest) (good : ∀ row, r = .put row → row.ReadsBack) :
    ∃ a encoded' rows', (RowStore.encoded encoded).answer r = (a, .encoded encoded') ∧
      (RowStore.memory rows).answer r = (a, .memory rows') ∧ encoded'.Mirrors rows' := by
  cases r with
  | put row => exact ⟨.done, _, _, rfl, rfl, h.put (good row rfl)⟩
  | find learner key =>
    refine ⟨_, encoded, rows, ?_, rfl, h⟩
    simp only [RowStore.answer, RowStore.find?, h.find?]
  | get learner key =>
    refine ⟨_, encoded, rows, ?_, rfl, h⟩
    simp only [RowStore.answer, RowStore.get, RowStore.find?, h.find?]
  | count =>
    refine ⟨_, encoded, rows, ?_, rfl, h⟩
    simp only [RowStore.answer, RowStore.size, h.size]
  | reopen beside =>
    refine ⟨.done, encoded, rows, ?_, rfl, h⟩
    simp only [RowStore.answer, RowStore.reopened?_eq]

theorem answers (requests : List RowRequest)
    (good : ∀ row, .put row ∈ requests → row.ReadsBack) :
    (RowStore.encoded encoded).answers requests = (RowStore.memory rows).answers requests := by
  induction requests generalizing encoded rows with
  | nil => rfl
  | cons r rest ih =>
    obtain ⟨a, encoded', rows', left, right, h'⟩ :=
      h.answer r fun row same => good row (same ▸ List.mem_cons_self)
    simp only [RowStore.answers, left, right]
    rw [ih h' fun row member => good row (List.mem_cons_of_mem _ member)]

end EncodedRows.Mirrors

/-- **Encoded rows answer like rows in memory.** Whatever rows that read back are put, looked
up, insisted on and counted, and however often the store is closed and opened again in
between, the answers are the same, for all learners and all texts as course keys; and no row
is under the key of another learner or course. -/
theorem RowStore.answers_encoded (requests : List RowRequest)
    (good : ∀ row, .put row ∈ requests → row.ReadsBack) :
    (RowStore.encoded {}).answers requests = (RowStore.memory []).answers requests ∧
      ∀ learner other key key', EncodedRows.keyOf learner key = EncodedRows.keyOf other key' ↔
        learner = other ∧ key = key' :=
  ⟨EncodedRows.Mirrors.empty.answers requests good, fun _ _ _ _ =>
    ⟨EncodedRows.keyOf_inj, fun ⟨learner, key⟩ => by rw [learner, key]⟩⟩

namespace RowRefinement.Sample

/-- A row with a fraction of a second, an absent time and a half for its percent. -/
def row (learner : UInt64) (key : String) : StoredGrade :=
  ⟨⟨learner⟩, ⟨key⟩, some "v1", some ⟨1700000000, 123456789⟩, ⟨"4f"⟩, 0.5, "B", none, true,
    ⟨1483228799, 1500000000⟩, ⟨1700000000, 5⟩⟩

/-- Course keys that a key could confuse with each other or with a learner's number. -/
def requests : List RowRequest :=
  [.put (row 1 "\x00é"), .put (row 1 "\x00"), .put (row 256 ""), .reopen {}, .put (row 1 "\x00é"),
    .find ⟨1⟩ ⟨"\x00é"⟩, .get ⟨1⟩ ⟨""⟩, .count]

theorem readsBack_row (learner : UInt64) (key : String) : (row learner key).ReadsBack where
  inCalendar := by
    refine ⟨?_, ?_, ?_, ?_⟩
    · rintro _ ⟨⟩
      decide
    · rintro _ ⟨⟩
    · show Instant.Representable ⟨1483228799, 1500000000⟩
      decide
    · show Instant.Representable ⟨1700000000, 5⟩
      decide
  percent := by
    have half : (Double.ofFloat 0.5).readBack? = some ⟨0x3fe0000000000000⟩ := by decide +kernel
    exact (congrArg (Option.map Double.value) half).trans rfl

theorem answers_encoded_requests :
    (∀ row, .put row ∈ requests → row.ReadsBack) ∧
      (RowStore.encoded {}).answers requests = (RowStore.memory []).answers requests := by
  have good : ∀ row, .put row ∈ requests → row.ReadsBack := by
    intro row member
    simp only [requests, List.mem_cons, RowRequest.put.injEq, List.not_mem_nil, or_false,
      reduceCtorEq, false_or] at member
    rcases member with rfl | rfl | rfl | rfl <;> exact readsBack_row _ _
  exact ⟨good, (RowStore.answers_encoded requests good).1⟩

end RowRefinement.Sample

end Gradebook
