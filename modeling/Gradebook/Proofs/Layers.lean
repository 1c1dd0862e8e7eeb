/-
# Gradebook.Proofs.Layers — what is left of values laid over each other

A tree that is laid over another says something of the paths into it, or nothing
(`Layer.said`): a plain value at a path stands there, and whatever stands above or below a path
keeps any plain value from standing at it. Entries laid later have the last word
(`plain?_merge`).

Key expressions that only name, and hold no list positions, are nested tables
(`assignAt_names`). So a stack of layers is the merge of all their entries, and at each path
stands what the last layer that says something of it says (`plain?_stack`).
-/
import Gradebook.Assoc
import Gradebook.Settings.Layer

namespace Gradebook

set_option autoImplicit false

namespace Layer

/-! ## Tables -/

/-- Entries are found and put as in any finite map. -/
theorem find?_eq_assoc (key : String) (entries : List (String × Tree)) :
    find? key entries = Assoc.find? key entries := by
  induction entries with
  | nil => rfl
  | cons e rest ih =>
    rw [find?, Assoc.find?_cons, ih]

theorem put_eq_assoc (key : String) (value : Tree) (entries : List (String × Tree)) :
    put key value entries = Assoc.put key value entries := by
  induction entries with
  | nil => rfl
  | cons e rest ih =>
    rw [put, Assoc.put, ih]

theorem find?_put (key name : String) (value : Tree) (entries : List (String × Tree)) :
    find? name (put key value entries) = if key = name then some value else find? name entries := by
  rw [find?_eq_assoc, find?_eq_assoc, put_eq_assoc, Assoc.find?_put]

@[simp] theorem entriesOf_table (entries : List (String × Tree)) :
    entriesOf (.table entries) = entries := rfl

/-- The value at a path of names. -/
def at? : List String → Tree → Option Tree
  | [], t => some t
  | name :: rest, t => (find? name (entriesOf t)).bind (at? rest)

/-- A value that is no table. -/
def isPlain : Tree → Bool
  | .table _ => false
  | _ => true

/-- The plain value at a path of names, if one stands there. -/
def plain? (path : List String) (t : Tree) : Option Tree := (at? path t).filter isPlain

theorem plain?_cons (name : String) (rest : List String) (t : Tree) :
    plain? (name :: rest) t = (find? name (entriesOf t)).bind (plain? rest) := by
  unfold plain?
  rw [at?]
  cases find? name (entriesOf t) <;> rfl

@[simp] theorem plain?_empty (path : List String) : plain? path (.table []) = none := by
  cases path with
  | nil => rfl
  | cons name rest => rw [plain?_cons]; rfl

/-! ## What a tree says when it is laid -/

mutual

/-- What a tree says of a path when it is laid: nothing, that a plain value stands there, or
that none does. -/
def said : Tree → List String → Option (Option Tree)
  | .table [], [] => none
  | .table (_ :: _), [] => some none
  | .table entries, name :: rest => saidIn entries name rest
  | .list items, [] => some (some (.list items))
  | .list _, _ :: _ => some none
  | .leaf value left, [] => some (some (.leaf value left))
  | .leaf _ _, _ :: _ => some none

/-- What entries say of a path, the last one first. -/
def saidIn : List (String × Tree) → String → List String → Option (Option Tree)
  | [], _, _ => none
  | (key, value) :: more, name, rest =>
    (saidIn more name rest).or (if Text.lowercase key = name then said value rest else none)

end

theorem saidIn_append (early late : List (String × Tree)) (name : String) (rest : List String) :
    saidIn (early ++ late) name rest = (saidIn late name rest).or (saidIn early name rest) := by
  induction early with
  | nil => simp [saidIn]
  | cons e more ih =>
    obtain ⟨key, value⟩ := e
    rw [List.cons_append, saidIn, saidIn, ih, Option.or_assoc]

theorem merge_append (early late : List (String × Tree)) (below : Tree) :
    merge (early ++ late) below = merge late (merge early below) := by
  induction early generalizing below with
  | nil => rfl
  | cons e more ih => exact ih _

/-- What stands below counts for its entries only. -/
theorem assign_entriesOf (key : String) (value : Tree) {below other : Tree}
    (same : entriesOf below = entriesOf other) : assign key value below = assign key value other := by
  cases value <;> simp only [assign, same]

/-- Laying entries makes a table. -/
theorem merge_table (entries : List (String × Tree)) (below : List (String × Tree)) :
    ∃ merged, merge entries (.table below) = .table merged := by
  induction entries generalizing below with
  | nil => exact ⟨below, rfl⟩
  | cons e more ih =>
    obtain ⟨key, value⟩ := e
    cases value <;> exact ih _

theorem plain?_nil_merge (entries : List (String × Tree)) (below : Tree) :
    plain? [] (merge entries below) = (said (.table entries) []).getD (plain? [] below) := by
  cases entries with
  | nil => rfl
  | cons e more =>
    obtain ⟨key, value⟩ := e
    have table : ∃ laid, assign key value below = .table laid := by
      cases value <;> exact ⟨_, rfl⟩
    obtain ⟨laid, made⟩ := table
    obtain ⟨merged, made'⟩ := merge_table more laid
    rw [merge, made, made']
    rfl

mutual

/-- **A value laid under a key has the last word on what lies under that key.** -/
theorem plain?_assign (key : String) : (value below : Tree) → (name : String) →
    (rest : List String) → plain? (name :: rest) (assign key value below) =
      (if Text.lowercase key = name then said value rest else none).getD
        (plain? (name :: rest) below)
  | .table incoming, below, name, rest => by
    simp only [assign, plain?_cons, entriesOf_table, find?_put]
    split
    · next same =>
      subst same
      have inner : plain? rest ((find? (Text.lowercase key) (entriesOf below)).getD (.table [])) =
          (find? (Text.lowercase key) (entriesOf below)).bind (plain? rest) := by
        cases find? (Text.lowercase key) (entriesOf below) <;> simp
      rw [Option.bind_some, ← inner]
      cases rest with
      | nil => exact plain?_nil_merge incoming _
      | cons next rest =>
        rw [plain?_merge incoming _ next rest, said]
    · rfl
  | .list items, below, name, rest => by
    simp only [assign, plain?_cons, entriesOf_table, find?_put]
    split
    · cases rest <;> rfl
    · rfl
  | .leaf value left, below, name, rest => by
    simp only [assign, plain?_cons, entriesOf_table, find?_put]
    split
    · cases rest <;> rfl
    · rfl

/-- **Entries laid over a value have the last word**, the later ones first. -/
theorem plain?_merge : (entries : List (String × Tree)) → (below : Tree) → (name : String) →
    (rest : List String) → plain? (name :: rest) (merge entries below) =
      (saidIn entries name rest).getD (plain? (name :: rest) below)
  | [], below, name, rest => rfl
  | (key, value) :: more, below, name, rest => by
    rw [merge, plain?_merge more _ name rest, plain?_assign key value below name rest, saidIn]
    cases saidIn more name rest <;> simp

end

/-! ## No name twice -/

/-- No table at the end of names has a name twice. -/
def Tidy (t : Tree) : Prop :=
  ∀ path entries, at? path t = some (.table entries) → (entries.map (·.1)).Nodup

theorem tidy_empty : Tidy (.table []) := by
  intro path entries found
  cases path with
  | nil =>
    cases found
    exact List.nodup_nil
  | cons name rest => cases found

/-- What is found in a tidy tree is tidy. -/
theorem Tidy.find? {t found : Tree} (tidy : Tidy t) {name : String}
    (here : find? name (entriesOf t) = some found) : Tidy found := by
  intro path entries inner
  apply tidy (name :: path) entries
  rw [at?, here]
  exact inner

theorem Tidy.nodup {t : Tree} (tidy : Tidy t) : ((entriesOf t).map (·.1)).Nodup := by
  cases t with
  | table entries => exact tidy [] entries rfl
  | list | leaf => exact List.nodup_nil

theorem Tidy.put {below value : Tree} (tidy : Tidy below) (tidy' : Tidy value) (key : String) :
    Tidy (.table (put key value (entriesOf below))) := by
  intro path entries found
  cases path with
  | nil =>
    cases found
    rw [put_eq_assoc]
    exact Assoc.nodup_keys_put tidy.nodup key value
  | cons name rest =>
    rw [at?, entriesOf_table, find?_put] at found
    split at found
    · exact tidy' rest entries found
    · exact tidy (name :: rest) entries found

theorem tidy_of_not_table {t : Tree} (plain : isPlain t = true) : Tidy t := by
  intro path entries found
  cases path with
  | nil =>
    cases found
    cases plain
  | cons name rest =>
    cases t with
    | table entries => cases plain
    | list | leaf => cases found

mutual

theorem tidy_assign (key : String) : (value below : Tree) → Tidy below →
    Tidy (assign key value below)
  | .table incoming, below, tidy => by
    refine tidy.put (tidy_merge incoming _ ?_) _
    cases found : find? (Text.lowercase key) (entriesOf below) with
    | none => exact tidy_empty
    | some t => exact tidy.find? found
  | .list items, below, tidy => tidy.put (tidy_of_not_table rfl) _
  | .leaf value left, below, tidy => tidy.put (tidy_of_not_table rfl) _

theorem tidy_merge : (entries : List (String × Tree)) → (below : Tree) → Tidy below →
    Tidy (merge entries below)
  | [], _, tidy => tidy
  | (key, value) :: more, below, tidy => tidy_merge more _ (tidy_assign key value below tidy)

end

/-! ## Layers of named values -/

/-- The names in a key expression. -/
def namesOf (key : String) : List String :=
  (hopsOf key).filterMap fun
    | .name name => some name
    | .position _ => none

def Hop.isName : Hop → Bool
  | .name _ => true
  | .position _ => false

/-- No key expression of the layer holds a list position. -/
def ByName (layer : Layer) : Prop := ∀ e ∈ layer, ∀ hop ∈ hopsOf e.1, hop.isName = true

/-- A value under nested names, as the one entry of a table. -/
def nest : List String → Tree → List (String × Tree)
  | [], _ => []
  | [name], value => [(name, value)]
  | name :: next :: rest, value => [(name, .table (nest (next :: rest) value))]

/-- The entries of a layer as nested tables. -/
def nested (layer : Layer) : List (String × Tree) := layer.flatMap fun e => nest (namesOf e.1) e.2

/-- Laying a value at the end of names is laying nested tables. -/
theorem assignAt_names (value : Tree) (names : List String) (below : Tree) :
    assignAt value (names.map .name) below = .ok (merge (nest names value) below) := by
  induction names generalizing below with
  | nil => rfl
  | cons name rest ih =>
    cases rest with
    | nil => rfl
    | cons next rest =>
      -- what is missing is null to the one and an empty table to the other
      have missing (found : Option Tree) :
          merge (nest (next :: rest) value) (found.getD .null) =
            merge (nest (next :: rest) value) (found.getD (.table [])) := by
        cases found with
        | some t => rfl
        | none => cases rest <;> exact assign_entriesOf next _ rfl
      simp only [List.map_cons] at ih
      simp only [List.map_cons, assignAt, ih, nest, merge, assign, ← missing]
      rfl

theorem map_name_namesOf {key : String} (named : ∀ hop ∈ hopsOf key, hop.isName = true) :
    hopsOf key = (namesOf key).map .name := by
  unfold namesOf
  generalize hopsOf key = hops at named
  induction hops with
  | nil => rfl
  | cons hop rest ih =>
    cases hop with
    | name name => simpa using ih fun hop member => named hop (List.mem_cons_of_mem _ member)
    | position index => cases named (.position index) List.mem_cons_self

theorem laidOver_named {layer : Layer} (named : ByName layer) (below : Tree) :
    layer.laidOver below = .ok (merge (nested layer) below) := by
  induction layer generalizing below with
  | nil => rfl
  | cons e rest ih =>
    rw [laidOver, List.foldlM_cons, map_name_namesOf (named e List.mem_cons_self), assignAt_names]
    have others : ByName rest := fun e member => named e (List.mem_cons_of_mem _ member)
    simp only [nested, List.flatMap_cons, merge_append]
    exact ih others _

/-- Layers of named values never overrun a list: they are merged. -/
theorem stack_named {layers : List Layer} (named : ∀ layer ∈ layers, ByName layer) :
    stack layers = .ok (merge (layers.flatMap nested) (.table [])) := by
  unfold stack
  generalize Tree.table [] = below
  induction layers generalizing below with
  | nil => rfl
  | cons layer rest ih =>
    rw [List.foldlM_cons, laidOver_named (named layer List.mem_cons_self), List.flatMap_cons,
      merge_append]
    exact ih (fun layer member => named layer (List.mem_cons_of_mem _ member)) _

/-- What a layer says of a path. -/
def saidBy (layer : Layer) : List String → Option (Option Tree)
  | [] => none
  | name :: rest => saidIn (nested layer) name rest

/-- The plain value that the last layer to say something of a path puts there. -/
def lastOf (layers : List Layer) (path : List String) : Option Tree :=
  (layers.reverse.findSome? (saidBy · path)).join

theorem saidIn_layers (layers : List Layer) (name : String) (rest : List String) :
    saidIn (layers.flatMap nested) name rest =
      layers.reverse.findSome? (saidBy · (name :: rest)) := by
  induction layers with
  | nil => rfl
  | cons layer others ih =>
    rw [List.flatMap_cons, saidIn_append, ih, List.reverse_cons, List.findSome?_append]
    congr 1
    simp [saidBy]

/-- **The last layer that says something of a path is right.** -/
theorem plain?_stack {layers : List Layer} (named : ∀ layer ∈ layers, ByName layer) :
    ∃ entries, stack layers = .ok (.table entries) ∧ Tidy (.table entries) ∧
      ∀ name rest, plain? (name :: rest) (.table entries) = lastOf layers (name :: rest) := by
  obtain ⟨entries, merged⟩ := merge_table (layers.flatMap nested) []
  refine ⟨entries, by rw [stack_named named, merged], ?_, ?_⟩
  · rw [← merged]
    exact tidy_merge _ _ tidy_empty
  intro name rest
  rw [← merged]
  rw [plain?_merge, plain?_empty, lastOf]
  rw [saidIn_layers]
  cases layers.reverse.findSome? (saidBy · (name :: rest)) <;> rfl

end Layer

end Gradebook
