/-
# Gradebook.Store.Scores — the scores of a learner in a course

Scores are kept in memory, or encoded: as a JSON text under the course key, a zero
byte, the eight bytes of the learner's number, a zero byte and the block name. The
scores of a learner in a course are then the entries whose keys begin alike.
-/
import Gradebook.Assoc
import Gradebook.Document.Grades
import Gradebook.Error
import Gradebook.Store.ByteTable

namespace Gradebook

set_option autoImplicit false

/-- Scores by block, by learner and course. -/
abbrev MemoryScores : Type := Assoc (LearnerId × CourseKey) (Dictionary Score)

namespace MemoryScores

def scoresOf (s : MemoryScores) (learner : LearnerId) (key : CourseKey) : Dictionary Score :=
  (Assoc.find? (learner, key) s).getD ∅

/-- The last score recorded for a block counts. -/
def record (s : MemoryScores) (learner : LearnerId) (key : CourseKey) (block : BlockId)
    (score : Score) : MemoryScores :=
  Assoc.put (learner, key) ((s.scoresOf learner key).insert block score) s

end MemoryScores

/-- Scores as texts. -/
structure EncodedScores where
  table : ByteTable := ∅

namespace EncodedScores

/-- How the keys of all scores of a learner in a course begin. -/
def start (learner : LearnerId) (key : CourseKey) : Text.Bytes :=
  Text.utf8 key.text ++ 0 :: (Text.word learner.number ++ [0])

def encode (score : Score) : String := Json.write score.toTree

def decode (text : String) : Except StorageError Score :=
  (Json.decode (Score.ofTree .exchange) text).mapError .undecodable

def record (s : EncodedScores) (learner : LearnerId) (key : CourseKey) (block : BlockId)
    (score : Score) : EncodedScores :=
  ⟨s.table.put (start learner key ++ Text.utf8 block) (encode score)⟩

/-- The block named by the part of a key behind its beginning. -/
def blockOf (skipped : Nat) (key : Text.Bytes) : Except StorageError BlockId :=
  match Text.ofUtf8? (key.drop skipped) with
  | some block => .ok block
  | none => .error (.undecodable "invalid utf-8 sequence")

def decodeEntry (skipped : Nat) (e : Text.Bytes × String) :
    Except StorageError (BlockId × Score) := do
  let block ← blockOf skipped e.1
  let score ← decode e.2
  .ok (block, score)

def scoresOf (s : EncodedScores) (learner : LearnerId) (key : CourseKey) :
    Except StorageError (Dictionary Score) := do
  let start := start learner key
  let entries ← (s.table.scan start).mapM (decodeEntry start.length)
  .ok (.ofList entries)

end EncodedScores

/-- The scores of a store. -/
inductive ScoreStore where
  | memory (scores : MemoryScores)
  | encoded (scores : EncodedScores)

namespace ScoreStore

def scoresOf : ScoreStore → LearnerId → CourseKey → Except StorageError (Dictionary Score)
  | .memory s, learner, key => .ok (s.scoresOf learner key)
  | .encoded s, learner, key => s.scoresOf learner key

def record : ScoreStore → LearnerId → CourseKey → BlockId → Score → ScoreStore
  | .memory s, learner, key, block, score => .memory (s.record learner key block score)
  | .encoded s, learner, key, block, score => .encoded (s.record learner key block score)

def size : ScoreStore → Nat
  | .memory s => s.foldl (fun n e => n + e.2.size) 0
  | .encoded s => s.table.size

/-- The scores are kept as they are. -/
def InMemory : ScoreStore → Prop
  | .memory _ => True
  | .encoded _ => False

theorem inMemory_record {s : ScoreStore} (h : s.InMemory) (learner : LearnerId) (key : CourseKey)
    (block : BlockId) (score : Score) : (s.record learner key block score).InMemory := by
  cases s with
  | memory scores => trivial
  | encoded scores => exact h

/-- A score recorded in memory is one of its learner in its course, and of nobody else. -/
theorem scoresOf_record {s : ScoreStore} (h : s.InMemory) (learner other : LearnerId)
    (key key' : CourseKey) (block : BlockId) (score : Score) :
    (s.record learner key block score).scoresOf other key' =
      if learner = other ∧ key = key' then (s.scoresOf learner key).map (·.insert block score)
      else s.scoresOf other key' := by
  cases s with
  | encoded scores => exact h.elim
  | memory scores =>
    simp only [record, scoresOf, MemoryScores.record, MemoryScores.scoresOf, Assoc.find?_put,
      Prod.mk.injEq]
    split <;> rfl

end ScoreStore

end Gradebook
