/-
# Gradebook.Digest.Blake3 — the BLAKE3 digest of a byte sequence

The input is cut into chunks of 1024 bytes, the chunks are the leaves of a
binary tree whose left subtrees are full, and the root is compressed with a flag
of its own. `digest` is the first 32 bytes of the root's output.
-/
import Gradebook.Digest.Compression
import Gradebook.Text.Bytes

namespace Gradebook.Digest

open Gradebook.Text (Bytes)

set_option autoImplicit false

/-- Four bytes, least significant first. -/
def littleWord (bytes : Bytes) : UInt32 := bytes.foldr (fun b n => (n <<< 8) ||| b.toUInt32) 0

/-- The sixteen words of a block, zeros after its last byte. -/
def blockWords (bytes : Bytes) : Words :=
  (Array.range 16).map fun i => littleWord ((bytes.drop (4 * i)).take 4)

/-- The last node of a chunk: every block but the last is compressed into the
chaining value of the next. -/
def chunkNode (counter : UInt64) (chaining : Words) (flags : UInt32) (bytes : Bytes) : Node :=
  if bytes.length ≤ 64 then
    ⟨chaining, blockWords bytes, counter, bytes.length.toUInt32, flags ||| chunkEnd⟩
  else
    let node : Node := ⟨chaining, blockWords (bytes.take 64), counter, 64, flags⟩
    chunkNode counter (node.compress 0) 0 (bytes.drop 64)
termination_by bytes.length
decreasing_by simp only [List.length_drop]; omega

/-- The bytes of a left subtree: as many full chunks as the largest power of two
that leaves a byte for the right one. -/
def leftLength (n : Nat) : Nat := 1024 * Nat.pow 2 ((n - 1) / 1024).log2

theorem leftLength_pos (n : Nat) : 0 < leftLength n :=
  Nat.mul_pos (by decide) (Nat.two_pow_pos _)

theorem leftLength_lt {n : Nat} (h : 1024 < n) : leftLength n < n := by
  have hk : (n - 1) / 1024 ≠ 0 := by omega
  have := Nat.log2_self_le hk
  rw [leftLength, Nat.pow_eq]
  omega

/-- The node of the subtree over some bytes, whose first chunk has number `counter`. -/
def subtree (counter : UInt64) (bytes : Bytes) : Node :=
  if _h : bytes.length ≤ 1024 then chunkNode counter initial chunkStart bytes
  else
    let left := leftLength bytes.length
    let leftNode := subtree counter (bytes.take left)
    let rightNode := subtree (counter + (left / 1024).toUInt64) (bytes.drop left)
    ⟨initial, leftNode.compress 0 ++ rightNode.compress 0, 0, 64, parent⟩
termination_by bytes.length
decreasing_by
  · have := leftLength_lt (Nat.lt_of_not_le _h)
    simp only [List.length_take]
    omega
  · have := leftLength_pos bytes.length
    simp only [List.length_drop]
    omega

def littleBytes (n : UInt32) : Bytes :=
  [n.toUInt8, (n >>> 8).toUInt8, (n >>> 16).toUInt8, (n >>> 24).toUInt8]

/-- The 32-byte digest. -/
def digest (bytes : Bytes) : Bytes :=
  ((subtree 0 bytes).compress root).toList.flatMap littleBytes

end Gradebook.Digest
