/-
# Gradebook.Assoc — finite maps as lists of entries

Rows, course definitions and cached groups are looked up by key and never listed
in an order that shows. An association list with at most one entry per key does:
`put` replaces an entry where it stands, `find?_put` and `find?_erase` say all
there is to say about lookups, `keys_put` about the entries there are.
-/

namespace Gradebook

set_option autoImplicit false

abbrev Assoc (κ ν : Type) : Type := List (κ × ν)

namespace Assoc

variable {κ ν : Type} [DecidableEq κ]

def find? (key : κ) : Assoc κ ν → Option ν
  | [] => none
  | e :: rest => if e.1 = key then some e.2 else find? key rest

/-- Replace the entry of a key, or add one at the end. -/
def put (key : κ) (value : ν) : Assoc κ ν → Assoc κ ν
  | [] => [(key, value)]
  | e :: rest => if e.1 = key then (key, value) :: rest else e :: put key value rest

/-- Remove the entries of a key. -/
def erase (key : κ) (entries : Assoc κ ν) : Assoc κ ν := entries.filter fun e => e.1 ≠ key

def contains (key : κ) (entries : Assoc κ ν) : Bool := (entries.find? key).isSome

def keys (entries : Assoc κ ν) : List κ := entries.map (·.1)

@[simp] theorem find?_nil (key : κ) : find? key ([] : Assoc κ ν) = none := rfl

theorem find?_cons (key : κ) (e : κ × ν) (rest : Assoc κ ν) :
    find? key (e :: rest) = if e.1 = key then some e.2 else find? key rest := rfl

theorem find?_put (key other : κ) (value : ν) (entries : Assoc κ ν) :
    find? other (put key value entries) =
      if key = other then some value else find? other entries := by
  induction entries with
  | nil => simp [put, find?_cons]
  | cons e rest ih =>
    simp only [put]
    split
    · next same =>
      subst same
      simp only [find?_cons]
      split <;> rfl
    · next differ =>
      simp only [find?_cons, ih]
      split
      · next h =>
        subst h
        rw [if_neg (fun h => differ h.symm)]
      · rfl

@[simp] theorem find?_put_self (key : κ) (value : ν) (entries : Assoc κ ν) :
    find? key (put key value entries) = some value := by simp [find?_put]

theorem find?_put_of_ne {key other : κ} (h : key ≠ other) (value : ν) (entries : Assoc κ ν) :
    find? other (put key value entries) = find? other entries := by simp [find?_put, h]

theorem find?_erase (key other : κ) (entries : Assoc κ ν) :
    find? other (erase key entries) = if key = other then none else find? other entries := by
  induction entries with
  | nil => simp [erase]
  | cons e rest ih =>
    simp only [erase, List.filter_cons] at ih ⊢
    by_cases same : e.1 = key
    · simp only [same, ne_eq, not_true_eq_false, decide_false, Bool.false_eq_true, if_false, ih,
        find?_cons]
      split <;> rfl
    · simp only [same, ne_eq, not_false_eq_true, decide_true, if_true, find?_cons, ih]
      by_cases h : e.1 = other
      · have : ¬key = other := fun k => same (h.trans k.symm)
        simp [h, this]
      · simp [h]

theorem keys_put (key : κ) (value : ν) (entries : Assoc κ ν) :
    keys (put key value entries) =
      if key ∈ keys entries then keys entries else keys entries ++ [key] := by
  induction entries with
  | nil => simp [put, keys]
  | cons e rest ih =>
    simp only [put]
    split
    · next same => simp [keys, same]
    · next differ =>
      simp only [keys, List.map_cons, List.mem_cons] at ih ⊢
      have : ¬key = e.1 := fun h => differ h.symm
      simp only [this, false_or, ih]
      by_cases h : key ∈ rest.map (·.1) <;> simp [h]

theorem nodup_keys_put {entries : Assoc κ ν} (nodup : (keys entries).Nodup) (key : κ) (value : ν) :
    (keys (put key value entries)).Nodup := by
  rw [keys_put]
  split
  · exact nodup
  · next fresh =>
    refine List.nodup_append.2 ⟨nodup, by simp, ?_⟩
    rintro other old _ (_ | ⟨_, ⟨⟩⟩) rfl
    exact fresh old

theorem find?_isSome_iff {key : κ} {entries : Assoc κ ν} :
    (∃ value, find? key entries = some value) ↔ key ∈ keys entries := by
  induction entries with
  | nil => simp [keys]
  | cons e rest ih =>
    simp only [find?_cons, keys, List.map_cons, List.mem_cons]
    by_cases same : e.1 = key
    · simp [same]
    · have other : key ≠ e.1 := fun h => same h.symm
      rw [if_neg same, ih]
      simp [other, keys]

end Assoc

end Gradebook
