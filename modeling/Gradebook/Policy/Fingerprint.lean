/-
# Gradebook.Policy.Fingerprint — one hash for one policy

A policy is written as bytes in a form that determines it: every count is eight
bytes, every text is preceded by its length, every double is its bit pattern.
Graders stand in order, cutoffs by ascending letter. The fingerprint is the
digest of those bytes.
-/
import Gradebook.Identity
import Gradebook.Policy
import Gradebook.Digest.Blake3

namespace Gradebook

open Gradebook.Text (Bytes word utf8 hex)

set_option autoImplicit false

namespace PolicyHash

def ofDigest (digest : Bytes) : PolicyHash := ⟨hex digest⟩

end PolicyHash

namespace GradingPolicy

/-- A text preceded by its length in bytes. -/
def textBytes (s : String) : Bytes := word s.utf8ByteSize.toUInt64 ++ utf8 s

def doubleBytes (x : Double) : Bytes := word x.bits

def graderBytes (g : AssignmentType) : Bytes :=
  textBytes g.kind ++ textBytes g.shortLabel ++ doubleBytes g.weight ++ word g.minCount ++
    word g.dropCount

def cutoffBytes (e : String × Double) : Bytes := textBytes e.1 ++ doubleBytes e.2

/-- The bytes that the fingerprint digests. -/
def bytes (p : GradingPolicy) : Bytes :=
  utf8 "grading_policy" ++ word p.graders.length.toUInt64 ++ p.graders.flatMap graderBytes ++
    word p.cutoffs.size.toUInt64 ++ p.cutoffs.entries.flatMap cutoffBytes

/-- The fingerprint of a policy. -/
def hash (p : GradingPolicy) : PolicyHash := .ofDigest (Digest.digest p.bytes)

/-- Equal fingerprints are equal digests. -/
theorem digest_eq_of_hash_eq {p q : GradingPolicy} (h : p.hash = q.hash) :
    Digest.digest p.bytes = Digest.digest q.bytes :=
  Text.hex_inj (congrArg PolicyHash.text h)

end GradingPolicy

end Gradebook
