/-
# Gradebook.Store.ByteTable — texts under byte keys, in key order

The durable form of a store: every value is a text, every key a byte sequence, and
entries are kept in the order of the keys. `find?_put` gives the lookups after a
write, `mem_scan` the entries of a scan: those whose key begins with the given
bytes and no others.
-/
import Gradebook.Text.Bytes

namespace Gradebook

set_option autoImplicit false

namespace Text

theorem before_irrefl (a : Bytes) : before a a = false := by
  induction a with
  | nil => rfl
  | cons x xs ih => simp [before, ih, UInt8.lt_irrefl]

theorem before_trans {a b c : Bytes} (h : before a b = true) (k : before b c = true) :
    before a c = true := by
  induction a generalizing b c with
  | nil => cases b <;> cases c <;> simp_all [before]
  | cons x xs ih =>
    cases b with
    | nil => simp [before] at h
    | cons y ys =>
      cases c with
      | nil => simp [before] at k
      | cons z zs =>
        simp only [before, UInt8.lt_iff_toNat_lt] at h k ⊢
        grind

theorem before_asymm {a b : Bytes} (h : before a b = true) : ¬before b a = true := fun k => by
  have := before_trans h k
  rw [before_irrefl] at this
  exact Bool.false_ne_true this

theorem eq_of_not_before {a b : Bytes} (h : before a b = false) (k : before b a = false) :
    a = b := by
  induction a generalizing b with
  | nil => cases b <;> simp_all [before]
  | cons x xs ih =>
    cases b with
    | nil => simp [before] at k
    | cons y ys =>
      simp only [before, UInt8.lt_iff_toNat_lt] at h k
      have : x.toNat = y.toNat := by grind
      have same : x = y := UInt8.toNat_inj.1 this
      subst same
      simp only [Nat.lt_irrefl, if_false] at h k
      rw [ih h k]

end Text

/-- Texts under byte keys, each key once, in ascending order. -/
structure ByteTable where
  entries : List (Text.Bytes × String)
  ascending : entries.Pairwise fun a b => Text.before a.1 b.1 = true

namespace ByteTable

open Text (Bytes before)

/-- Put an entry at its place, replacing an entry of the same key. -/
def place (key : Bytes) (value : String) : List (Bytes × String) → List (Bytes × String)
  | [] => [(key, value)]
  | e :: rest =>
    if before key e.1 then (key, value) :: e :: rest
    else if before e.1 key then e :: place key value rest
    else (key, value) :: rest

theorem mem_place {key : Bytes} {value : String} {entries : List (Bytes × String)}
    {e : Bytes × String} (h : e ∈ place key value entries) : e = (key, value) ∨ e ∈ entries := by
  induction entries with
  | nil => simpa [place] using h
  | cons f rest ih =>
    simp only [place] at h
    split at h
    · simpa using h
    · split at h
      · rcases List.mem_cons.1 h with h | h
        · exact .inr (by simp [h])
        · rcases ih h with h | h
          · exact .inl h
          · exact .inr (by simp [h])
      · rcases List.mem_cons.1 h with h | h
        · exact .inl h
        · exact .inr (by simp [h])

theorem ascending_place (key : Bytes) (value : String) {entries : List (Bytes × String)}
    (h : entries.Pairwise fun a b => before a.1 b.1 = true) :
    (place key value entries).Pairwise fun a b => before a.1 b.1 = true := by
  induction entries with
  | nil => simp [place]
  | cons f rest ih =>
    have ⟨head, tail⟩ := List.pairwise_cons.1 h
    simp only [place]
    split
    · next lt =>
      refine List.pairwise_cons.2 ⟨fun e he => ?_, h⟩
      rcases List.mem_cons.1 he with rfl | he
      · exact lt
      · exact Text.before_trans lt (head e he)
    · split
      · next lt =>
        refine List.pairwise_cons.2 ⟨fun e he => ?_, ih tail⟩
        rcases mem_place he with rfl | he
        · exact lt
        · exact head e he
      · next ge le =>
        refine List.pairwise_cons.2 ⟨fun e he => ?_, tail⟩
        rw [Text.eq_of_not_before (Bool.eq_false_iff.2 ge) (Bool.eq_false_iff.2 le)]
        exact head e he

def empty : ByteTable := ⟨[], .nil⟩

instance : EmptyCollection ByteTable := ⟨empty⟩

instance : Inhabited ByteTable := ⟨empty⟩

def put (t : ByteTable) (key : Bytes) (value : String) : ByteTable :=
  ⟨place key value t.entries, ascending_place key value t.ascending⟩

/-- The value under a key in a list of entries. -/
def lookup (key : Bytes) : List (Bytes × String) → Option String
  | [] => none
  | e :: rest => if e.1 = key then some e.2 else lookup key rest

def find? (t : ByteTable) (key : Bytes) : Option String := lookup key t.entries

/-- The entries whose key begins with the given bytes, in order. -/
def scan (t : ByteTable) (start : Bytes) : List (Bytes × String) :=
  t.entries.filter fun e => Text.startsWith start e.1

def size (t : ByteTable) : Nat := t.entries.length

theorem lookup_place (key other : Bytes) (value : String) (entries : List (Bytes × String)) :
    lookup other (place key value entries) =
      if key = other then some value else lookup other entries := by
  induction entries with
  | nil => simp [place, lookup]
  | cons e rest ih =>
    simp only [place]
    split
    · simp [lookup]
    · split
      · next lt =>
        simp only [lookup, ih]
        by_cases same : e.1 = other
        · have : ¬key = other := fun h => by
            rw [same, h, Text.before_irrefl] at lt
            exact absurd lt (by simp)
          simp [same, this]
        · simp [same]
      · next ge le =>
        have same := Text.eq_of_not_before (Bool.eq_false_iff.2 ge) (Bool.eq_false_iff.2 le)
        simp only [lookup, same]
        split <;> rfl

theorem find?_put (t : ByteTable) (key other : Bytes) (value : String) :
    (t.put key value).find? other = if key = other then some value else t.find? other :=
  lookup_place key other value t.entries

theorem mem_scan {t : ByteTable} {start : Bytes} {e : Bytes × String} :
    e ∈ t.scan start ↔ e ∈ t.entries ∧ Text.startsWith start e.1 = true := by
  simp [scan]

end ByteTable

end Gradebook
