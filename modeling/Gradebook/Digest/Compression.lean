/-
# Gradebook.Digest.Compression — the BLAKE3 compression function

A node of the hash tree is a chaining value, a block of sixteen words, a
counter, the number of bytes in the block and a set of flags. Compressing it
mixes these into sixteen words; the first eight, folded with the last eight,
are its chaining value.
-/

namespace Gradebook.Digest

set_option autoImplicit false

abbrev Words : Type := Array UInt32

/-- The initial chaining value. -/
def initial : Words :=
  #[0x6a09e667, 0xbb67ae85, 0x3c6ef372, 0xa54ff53a, 0x510e527f, 0x9b05688c, 0x1f83d9ab, 0x5be0cd19]

/-- Where each message word of the next round comes from. -/
def permutation : Array Nat := #[2, 6, 3, 10, 7, 0, 4, 13, 1, 11, 12, 5, 9, 14, 15, 8]

def chunkStart : UInt32 := 1
def chunkEnd : UInt32 := 2
def parent : UInt32 := 4
def root : UInt32 := 8

def wordAt (words : Words) (i : Nat) : UInt32 := words.getD i 0

def rotateRight (x : UInt32) (n : UInt32) : UInt32 := (x >>> n) ||| (x <<< (32 - n))

/-- The quarter round on words `a`, `b`, `c`, `d` with two message words. -/
def mix (v : Words) (a b c d : Nat) (x y : UInt32) : Words :=
  let va := wordAt v a + wordAt v b + x
  let vd := rotateRight (wordAt v d ^^^ va) 16
  let vc := wordAt v c + vd
  let vb := rotateRight (wordAt v b ^^^ vc) 12
  let va := va + vb + y
  let vd := rotateRight (vd ^^^ va) 8
  let vc := vc + vd
  let vb := rotateRight (vb ^^^ vc) 7
  (((v.setIfInBounds a va).setIfInBounds b vb).setIfInBounds c vc).setIfInBounds d vd

/-- Columns, then diagonals. -/
def round (v m : Words) : Words :=
  let v := mix v 0 4 8 12 (wordAt m 0) (wordAt m 1)
  let v := mix v 1 5 9 13 (wordAt m 2) (wordAt m 3)
  let v := mix v 2 6 10 14 (wordAt m 4) (wordAt m 5)
  let v := mix v 3 7 11 15 (wordAt m 6) (wordAt m 7)
  let v := mix v 0 5 10 15 (wordAt m 8) (wordAt m 9)
  let v := mix v 1 6 11 12 (wordAt m 10) (wordAt m 11)
  let v := mix v 2 7 8 13 (wordAt m 12) (wordAt m 13)
  mix v 3 4 9 14 (wordAt m 14) (wordAt m 15)

def permute (m : Words) : Words := permutation.map (wordAt m)

/-- `n` rounds, the message words permuted between them. -/
def rounds : Nat → Words → Words → Words
  | 0, v, _ => v
  | n + 1, v, m => rounds n (round v m) (permute m)

/-- A node of the hash tree before it is compressed. -/
structure Node where
  chaining : Words
  block : Words
  counter : UInt64
  length : UInt32
  flags : UInt32

/-- The chaining value of a node, with further flags added. -/
def Node.compress (node : Node) (extra : UInt32) : Words :=
  let start := node.chaining ++ initial.extract 0 4 ++
    #[node.counter.toUInt32, (node.counter >>> 32).toUInt32, node.length, node.flags ||| extra]
  let v := rounds 7 start node.block
  (Array.range 8).map fun i => wordAt v i ^^^ wordAt v (i + 8)

end Gradebook.Digest
