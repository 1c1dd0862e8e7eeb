/-
# Gradebook.Cache — data derived from course content, kept per course

Grouping the blocks of a course is done once and kept with the content version it
was done for. Another version replaces the entry; `clear` removes it and counts.
A `Transaction` clears its course exactly once, at its first release.
-/
import Gradebook.Assoc
import Gradebook.Course

namespace Gradebook

set_option autoImplicit false

/-- The groups of one course and the version they belong to. -/
structure CacheEntry where
  version : Option String
  groups : GradedBlocks

/-- At most one entry per course, and how often entries were cleared. -/
structure DerivedCache where
  entries : Assoc CourseKey CacheEntry := []
  invalidations : Nat := 0

namespace DerivedCache

/-- The groups kept for exactly this version. -/
def hit? (c : DerivedCache) (key : CourseKey) (version : Option String) : Option GradedBlocks :=
  match Assoc.find? key c.entries with
  | some entry => if entry.version = version then some entry.groups else none
  | none => none

/-- The groups for a version, built and kept on a miss; the flag says whether they
were built. -/
def groups (c : DerivedCache) (key : CourseKey) (version : Option String)
    (build : Unit → GradedBlocks) : GradedBlocks × Bool × DerivedCache :=
  match c.hit? key version with
  | some groups => (groups, false, c)
  | none =>
    let built := build ()
    (built, true, { c with entries := Assoc.put key ⟨version, built⟩ c.entries })

def contains (c : DerivedCache) (key : CourseKey) : Bool := Assoc.contains key c.entries

/-- Forget the groups of a course. It counts even when there were none. -/
def clear (c : DerivedCache) (key : CourseKey) : DerivedCache :=
  ⟨Assoc.erase key c.entries, c.invalidations + 1⟩

end DerivedCache

/-- The care of one course's entry, given up by clearing it. -/
structure Transaction where
  key : CourseKey
  released : Bool := false
  deriving DecidableEq, Repr

namespace Transaction

/-- Clear the course; later releases do nothing. -/
def release (t : Transaction) (c : DerivedCache) : Transaction × DerivedCache :=
  if t.released then (t, c) else ({ t with released := true }, c.clear t.key)

end Transaction

end Gradebook
