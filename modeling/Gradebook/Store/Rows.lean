/-
# Gradebook.Store.Rows — one stored grade per learner and course

Rows are kept in memory, or encoded: as a JSON text under the eight bytes of the
learner's number followed by the course key. Encoded rows can fail to read back.
-/
import Gradebook.Assoc
import Gradebook.Document.Grades
import Gradebook.Error
import Gradebook.Store.ByteTable

namespace Gradebook

set_option autoImplicit false

/-- Rows by learner and course. -/
abbrev MemoryRows : Type := Assoc (LearnerId × CourseKey) StoredGrade

namespace MemoryRows

def find? (rows : MemoryRows) (learner : LearnerId) (key : CourseKey) : Option StoredGrade :=
  Assoc.find? (learner, key) rows

def put (rows : MemoryRows) (row : StoredGrade) : MemoryRows :=
  Assoc.put (row.learner, row.courseKey) row rows

end MemoryRows

/-- Rows as texts. -/
structure EncodedRows where
  table : ByteTable := ∅

namespace EncodedRows

/-- The key of the row of a learner in a course. -/
def keyOf (learner : LearnerId) (key : CourseKey) : Text.Bytes :=
  Text.word learner.number ++ Text.utf8 key.text

def encode (row : StoredGrade) : String := Json.write row.toTree

def decode (text : String) : Except StorageError StoredGrade :=
  (Json.decode (StoredGrade.ofTree .exchange) text).mapError .undecodable

def find? (rows : EncodedRows) (learner : LearnerId) (key : CourseKey) :
    Except StorageError (Option StoredGrade) :=
  match rows.table.find? (keyOf learner key) with
  | none => .ok none
  | some text => (decode text).map some

def put (rows : EncodedRows) (row : StoredGrade) : EncodedRows :=
  ⟨rows.table.put (keyOf row.learner row.courseKey) (encode row)⟩

end EncodedRows

/-- The rows of a store. -/
inductive RowStore where
  | memory (rows : MemoryRows)
  | encoded (rows : EncodedRows)

namespace RowStore

def find? : RowStore → LearnerId → CourseKey → Except StorageError (Option StoredGrade)
  | .memory rows, learner, key => .ok (rows.find? learner key)
  | .encoded rows, learner, key => rows.find? learner key

def put : RowStore → StoredGrade → RowStore
  | .memory rows, row => .memory (rows.put row)
  | .encoded rows, row => .encoded (rows.put row)

/-- The rows are kept as they are. -/
def InMemory : RowStore → Prop
  | .memory _ => True
  | .encoded _ => False

theorem inMemory_put {s : RowStore} (h : s.InMemory) (row : StoredGrade) :
    (s.put row).InMemory := by
  cases s with
  | memory rows => trivial
  | encoded rows => exact h

/-- A row kept as it is is found again, and hides no other. -/
theorem find?_put {s : RowStore} (h : s.InMemory) (row : StoredGrade) (learner : LearnerId)
    (key : CourseKey) : (s.put row).find? learner key =
      if row.learner = learner ∧ row.courseKey = key then .ok (some row)
      else s.find? learner key := by
  cases s with
  | encoded rows => exact h.elim
  | memory rows =>
    simp only [put, find?, MemoryRows.find?, MemoryRows.put, Assoc.find?_put, Prod.mk.injEq]
    split <;> rfl

def size : RowStore → Nat
  | .memory rows => rows.length
  | .encoded rows => rows.table.size

/-- A lookup that insists on a row. -/
def get (s : RowStore) (learner : LearnerId) (key : CourseKey) : Except GradeError StoredGrade :=
  match s.find? learner key with
  | .error e => .error (.storage e)
  | .ok none => .error (.notFound learner key)
  | .ok (some row) => .ok row

end RowStore

end Gradebook
