/-
# Gradebook.Dictionary — finite maps from texts, in ascending key order

Cutoffs, grouped blocks and log modules are maps whose order can be seen: they
are written, hashed and searched by ascending key (the order of code points,
which is the order of the UTF-8 bytes). A `Dictionary` carries that order in its
type, so a key has one entry and a lookup finds it (`mem_entries`).
-/

namespace Gradebook

set_option autoImplicit false

/-- A finite map from texts, its entries in ascending key order. -/
structure Dictionary (ν : Type) where
  entries : List (String × ν)
  ascending : entries.Pairwise fun a b => a.1 < b.1

namespace Dictionary

variable {ν : Type}

/-- Put an entry at its place, replacing an entry of the same key. -/
def place (key : String) (value : ν) : List (String × ν) → List (String × ν)
  | [] => [(key, value)]
  | entry :: rest =>
    if key < entry.1 then (key, value) :: entry :: rest
    else if entry.1 < key then entry :: place key value rest
    else (key, value) :: rest

theorem mem_place {key : String} {value : ν} {entries : List (String × ν)} {e : String × ν}
    (h : e ∈ place key value entries) : e = (key, value) ∨ e ∈ entries := by
  induction entries with
  | nil => simpa [place] using h
  | cons entry rest ih =>
    simp only [place] at h
    split at h
    · simpa using h
    · split at h
      · rcases List.mem_cons.1 h with h | h
        · exact .inr (by simp [h])
        · rcases ih h with h | h
          · exact .inl h
          · exact .inr (by simp [h])
      · rcases List.mem_cons.1 h with h | h
        · exact .inl h
        · exact .inr (by simp [h])

theorem eq_of_not_lt {a b : String} (h : ¬a < b) (k : ¬b < a) : a = b :=
  String.le_antisymm (String.not_lt.1 k) (String.not_lt.1 h)

theorem ascending_place (key : String) (value : ν) {entries : List (String × ν)}
    (h : entries.Pairwise fun a b => a.1 < b.1) :
    (place key value entries).Pairwise fun a b => a.1 < b.1 := by
  induction entries with
  | nil => simp [place]
  | cons entry rest ih =>
    have ⟨head, tail⟩ := List.pairwise_cons.1 h
    simp only [place]
    split
    · next lt =>
      refine List.pairwise_cons.2 ⟨fun e he => ?_, h⟩
      rcases List.mem_cons.1 he with rfl | he
      · exact lt
      · exact String.lt_trans lt (head e he)
    · split
      · next lt =>
        refine List.pairwise_cons.2 ⟨fun e he => ?_, ih tail⟩
        rcases mem_place he with rfl | he
        · exact lt
        · exact head e he
      · next ge le =>
        refine List.pairwise_cons.2 ⟨fun e he => ?_, tail⟩
        rw [eq_of_not_lt ge le]
        exact head e he

def empty : Dictionary ν := ⟨[], .nil⟩

instance : EmptyCollection (Dictionary ν) := ⟨empty⟩

instance : Inhabited (Dictionary ν) := ⟨empty⟩

/-- The entry of a key is replaced. -/
def insert (d : Dictionary ν) (key : String) (value : ν) : Dictionary ν :=
  ⟨place key value d.entries, ascending_place key value d.ascending⟩

def find? (d : Dictionary ν) (key : String) : Option ν := d.entries.lookup key

/-- Of two entries of one key the later one stays. -/
def ofList (entries : List (String × ν)) : Dictionary ν :=
  entries.foldl (fun d e => d.insert e.1 e.2) empty

def keys (d : Dictionary ν) : List String := d.entries.map (·.1)

def values (d : Dictionary ν) : List ν := d.entries.map (·.2)

def size (d : Dictionary ν) : Nat := d.entries.length

@[ext] theorem ext {a b : Dictionary ν} (h : a.entries = b.entries) : a = b := by
  cases a
  cases b
  cases h
  rfl

instance [BEq ν] : BEq (Dictionary ν) := ⟨fun a b => a.entries == b.entries⟩

instance [DecidableEq ν] : DecidableEq (Dictionary ν) := fun a b =>
  decidable_of_iff (a.entries = b.entries) ⟨ext, fun h => h ▸ rfl⟩

instance [Repr ν] : Repr (Dictionary ν) := ⟨fun d n => reprPrec d.entries n⟩

theorem lookup_entry (key : String) (entry : String × ν) (rest : List (String × ν)) :
    (entry :: rest).lookup key = if key = entry.1 then some entry.2 else rest.lookup key := by
  rw [List.lookup_cons]
  by_cases h : key = entry.1
  · simp [h]
  · simp [h, beq_eq_false_iff_ne.2 h]

theorem lookup_place (key other : String) (value : ν) (entries : List (String × ν)) :
    (place key value entries).lookup other =
      if other = key then some value else entries.lookup other := by
  induction entries with
  | nil => simp [place, lookup_entry]
  | cons entry rest ih =>
    simp only [place]
    split
    · rw [lookup_entry]
    · split
      · next lt =>
        rw [lookup_entry, lookup_entry, ih]
        by_cases e : other = key
        · have : ¬other = entry.1 := fun h => String.lt_irrefl _ ((h.symm.trans e) ▸ lt)
          simp [e, e ▸ this]
        · simp [e]
      · next ge le =>
        rw [lookup_entry, lookup_entry, eq_of_not_lt ge le]
        split <;> rfl

theorem find?_insert (d : Dictionary ν) (key other : String) (value : ν) :
    (d.insert key value).find? other = if other = key then some value else d.find? other :=
  lookup_place key other value d.entries

theorem mem_entries {d : Dictionary ν} {key : String} {value : ν} :
    (key, value) ∈ d.entries ↔ d.find? key = some value := by
  obtain ⟨entries, ascending⟩ := d
  show _ ↔ entries.lookup key = some value
  induction entries with
  | nil => simp
  | cons entry rest ih =>
    obtain ⟨first, ascending⟩ := List.pairwise_cons.1 ascending
    rw [lookup_entry, List.mem_cons, ih ascending]
    by_cases same : key = entry.1
    · have elsewhere : rest.lookup key ≠ some value := fun found => by
        have later := first _ ((ih ascending).2 found)
        exact String.lt_irrefl _ (same ▸ later)
      rw [if_pos same, or_iff_left elsewhere, Option.some.injEq, eq_comm]
      exact ⟨fun whole => congrArg Prod.snd whole, fun held => Prod.ext same.symm held⟩
    · rw [if_neg same, or_iff_right fun whole => same (congrArg Prod.fst whole)]

@[simp] theorem find?_empty (key : String) : (empty : Dictionary ν).find? key = none := rfl

end Dictionary

end Gradebook
