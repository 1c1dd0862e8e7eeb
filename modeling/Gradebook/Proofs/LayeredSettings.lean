/-
# Gradebook.Proofs.LayeredSettings — every setting is that of the last layer to set it

Settings are read from what layers come to, and each of them comes from one place there: by
name in the table of its section, or by position where a section is a list (`settingOf`). At
that place stands what the last layer that says something of it says (`Layer.plain?_stack`), and
a setting of which none says anything has its default (`Settings.Follow`).
-/
import Gradebook.Proofs.Layers
import Gradebook.Proofs.ScoreKeys
import Gradebook.Settings.Sources

namespace Gradebook

set_option autoImplicit false

open Document (Reader Field fields orElse)

namespace Document

variable {α : Type}

/-! ## Fields of a record -/

/-- The value of a field that is there. -/
def Field.tree? : Field → Option Tree
  | .given t => some t
  | _ => none

/-- The value of a field, by name in a table or by position in a list. -/
def inRecord (t : Tree) (name : String) (position : Nat) : Option Tree :=
  match t with
  | .table entries => Layer.find? name entries
  | .list items => items[position]?
  | .leaf _ _ => none

/-- A value is read from what is found for it, or is the default if nothing is. -/
def Stands (found : Option Tree) (read : Reader α) (default value : α) : Prop :=
  match found with
  | some t => read t = .ok value
  | none => value = default

theorem stands_of_orElse {default value : α} {read : Reader α} {f : Field}
    (h : orElse default read f = .ok value) : Stands f.tree? read default value := by
  cases f with
  | given t => exact h
  | leftOut | cutOff =>
    cases h
    rfl

theorem find?_eq_head? (name : String) (entries : List (String × Tree)) :
    Layer.find? name entries = (entriesOf name entries).head? := by
  induction entries with
  | nil => rfl
  | cons e rest ih =>
    unfold entriesOf at ih ⊢
    rw [Layer.find?, List.filter_cons]
    by_cases same : e.1 = name
    · simp [same]
    · simp [same, ih]

theorem tree?_fieldOf {entries : List (String × Tree)} {name : String} {f : Field}
    (h : fieldOf entries name = .ok f) : f.tree? = Layer.find? name entries := by
  rw [find?_eq_head?]
  unfold fieldOf at h
  split at h
  · next none_there =>
    cases h
    rw [none_there]
    rfl
  · next t one =>
    cases h
    rw [one]
    rfl
  · cases h

theorem getElem?_mapM {ε β γ : Type} {f : β → Except ε γ} {xs : List β} {ys : List γ}
    (h : xs.mapM f = .ok ys) {i : Nat} {x : β} (at_i : xs[i]? = some x) :
    ∃ y, ys[i]? = some y ∧ f x = .ok y := by
  induction xs generalizing ys i with
  | nil => cases at_i
  | cons first rest ih =>
    rw [List.mapM_cons] at h
    obtain ⟨y, head, h⟩ := ok_of_bind h
    obtain ⟨others, tail, h⟩ := ok_of_bind h
    cases h
    cases i with
    | zero =>
      cases at_i
      exact ⟨y, rfl, head⟩
    | succ i => exact ih tail at_i

/-- The fields of a record of settings, one by one. -/
theorem tree?_fields {names : List String} {t : Tree} {fs : List Field}
    (h : fields .settings names t = .ok fs) {i : Nat} {name : String}
    (at_i : names[i]? = some name) : ∃ f, fs[i]? = some f ∧ f.tree? = inRecord t name i := by
  cases t with
  | table entries =>
    obtain ⟨f, here, found⟩ := getElem?_mapM h at_i
    exact ⟨f, here, tree?_fieldOf found⟩
  | list items =>
    have inside : i < names.length := (List.getElem?_eq_some_iff.1 at_i).1
    cases h
    simp only [inRecord, Field.tree?]
    -- the list is cut or filled up to the number of fields
    by_cases short : i < items.length
    · refine ⟨.given items[i], ?_, by simp [short]⟩
      rw [List.append_eq, List.getElem?_append_left (by simp; omega)]
      simp [short, inside]
    · have past : min names.length items.length ≤ i := by omega
      refine ⟨.cutOff, ?_, by simp [short]⟩
      simp [List.getElem?_append_right, past, List.getElem?_replicate]
      omega
  | leaf value left =>
    cases value with
    | moment s =>
      cases h
      exact ⟨.leftOut, by rw [List.getElem?_map, at_i]; rfl, rfl⟩
    | _ => cases h

/-- A field read with a default, seen from the record it was read from. -/
theorem stands_field {names : List String} {t : Tree} {fs : List Field} {i : Nat} {name : String}
    {f : Field} {default value : α} {read : Reader α} (record : fields .settings names t = .ok fs)
    (at_i : names[i]? = some name) (here : fs[i]? = some f)
    (h : orElse default read f = .ok value) : Stands (inRecord t name i) read default value := by
  obtain ⟨f', here', found⟩ := tree?_fields record at_i
  cases here.symm.trans here'
  rw [← found]
  exact stands_of_orElse h

/-! ## Entries of a table -/

/-- Entries put into a dictionary one by one, none of them under the name of another. -/
theorem stands_entries {read : Reader α} {ts : List (String × Tree)} {pairs : List (String × α)}
    (h : entries read ts = .ok pairs) (nodup : (ts.map (·.1)).Nodup) (name : String)
    (d : Dictionary α) :
    Stands (Layer.find? name ts) (fun t => (read t).map some) (d.find? name)
      ((pairs.foldl (fun d e => d.insert e.1 e.2) d).find? name) := by
  induction ts generalizing pairs d with
  | nil =>
    cases h
    rfl
  | cons e rest ih =>
    obtain ⟨key, t⟩ := e
    obtain ⟨value, head, h⟩ := ok_of_bind h
    obtain ⟨others, tail, h⟩ := ok_of_bind h
    cases h
    obtain ⟨fresh, nodup⟩ := List.nodup_cons.1 nodup
    have later := ih tail nodup (d.insert key value)
    rw [Dictionary.find?_insert] at later
    rw [List.foldl_cons, Layer.find?]
    by_cases same : key = name
    · subst same
      have gone : Layer.find? key rest = none := by
        refine Option.eq_none_iff_forall_ne_some.2 fun t found => fresh ?_
        rw [Layer.find?_eq_assoc] at found
        exact Assoc.find?_isSome_iff.1 ⟨t, found⟩
      rw [gone, if_pos rfl] at later
      rw [if_pos rfl]
      show (read t).map some = .ok _
      rw [head, later]
      rfl
    · rw [if_neg same]
      rwa [if_neg (Ne.symm same)] at later

/-- A dictionary holds what stands under each name of its table, and nothing else. -/
theorem stands_dictionary {read : Reader α} {ts : List (String × Tree)} {d : Dictionary α}
    (h : dictionary read (.table ts) = .ok d) (nodup : (ts.map (·.1)).Nodup) (name : String) :
    Stands (Layer.find? name ts) (fun t => (read t).map some) none (d.find? name) := by
  cases read_all : entries read ts with
  | error misfit =>
    rw [dictionary, read_all] at h
    cases h
  | ok pairs =>
    rw [dictionary, read_all] at h
    cases h
    exact stands_entries read_all nodup name .empty

end Document

open Document (Stands inRecord stands_field ok_of_bind)

/-! ## The settings of a section -/

/-- Where the fields of a record are found, by name and position. -/
abbrev Places : Type := String → Nat → Option Tree

structure StorageSettings.Stand (places : Places) (s : StorageSettings) : Prop where
  storePath : Stands (places "store_path" 0) (Document.text .settings) ".coursegrade/store"
    s.storePath
  coursesPath : Stands (places "courses_path" 1) (Document.text .settings) "courses" s.coursesPath

structure GradeFlags.Stand (places : Places) (f : GradeFlags) : Prop where
  persistentGradesEnabled : Stands (places "persistent_grades_enabled" 0)
    (Document.truth .settings) true f.persistentGradesEnabled
  enabledForAllCourses : Stands (places "enabled_for_all_courses" 1) (Document.truth .settings)
    true f.enabledForAllCourses
  persistentGradesCourses : Stands (places "persistent_grades_courses" 2)
    (Document.list (Document.text .settings)) [] f.persistentGradesCourses
  assumeZeroIfAbsent : Stands (places "assume_zero_if_absent" 3) (Document.truth .settings) false
    f.assumeZeroIfAbsent
  assumeZeroCourses : Stands (places "assume_zero_courses" 4)
    (Document.list (Document.text .settings)) [] f.assumeZeroCourses
  writeOnlyIfEngaged : Stands (places "write_only_if_engaged" 5) (Document.truth .settings) false
    f.writeOnlyIfEngaged

/-- All settings of the section but the levels of single modules. -/
structure LogSettings.Stand (places : Places) (s : LogSettings) : Prop where
  enabled : Stands (places "enabled" 0) (Document.truth .settings) true s.enabled
  level : Stands (places "level" 1) (Document.text .settings) "info" s.level
  format : Stands (places "format" 2) (Document.text .settings) "text" s.format
  output : Stands (places "output" 3) (Document.text .settings) "stderr" s.output
  file : Stands (places "file" 4) (Document.text .settings) ".coursegrade/coursegrade.log" s.file
  color : Stands (places "color" 5) (Document.truth .settings) true s.color

theorem StorageSettings.stand_ofTree {t : Tree} {s : StorageSettings}
    (h : ofTree .settings t = .ok s) : s.Stand (inRecord t) := by
  obtain ⟨fs, record, h⟩ := ok_of_bind h
  split at h
  · obtain ⟨store, first, h⟩ := ok_of_bind h
    obtain ⟨courses, second, h⟩ := ok_of_bind h
    cases h
    exact ⟨stands_field record rfl rfl first, stands_field record rfl rfl second⟩
  · cases h

theorem GradeFlags.stand_ofTree {t : Tree} {f : GradeFlags} (h : ofTree .settings t = .ok f) :
    f.Stand (inRecord t) := by
  obtain ⟨fs, record, h⟩ := ok_of_bind h
  split at h
  · obtain ⟨enabled, first, h⟩ := ok_of_bind h
    obtain ⟨forAll, second, h⟩ := ok_of_bind h
    obtain ⟨courses, third, h⟩ := ok_of_bind h
    obtain ⟨zero, fourth, h⟩ := ok_of_bind h
    obtain ⟨zeroCourses, fifth, h⟩ := ok_of_bind h
    obtain ⟨engaged, sixth, h⟩ := ok_of_bind h
    cases h
    exact ⟨stands_field record rfl rfl first, stands_field record rfl rfl second,
      stands_field record rfl rfl third, stands_field record rfl rfl fourth,
      stands_field record rfl rfl fifth, stands_field record rfl rfl sixth⟩
  · cases h

theorem LogSettings.stand_ofTree {t : Tree} {s : LogSettings} (h : ofTree .settings t = .ok s) :
    s.Stand (inRecord t) ∧ Stands (inRecord t "modules" 6)
      (Document.dictionary (Document.text .settings)) ∅ s.modules := by
  obtain ⟨fs, record, h⟩ := ok_of_bind h
  split at h
  · obtain ⟨enabled, first, h⟩ := ok_of_bind h
    obtain ⟨level, second, h⟩ := ok_of_bind h
    obtain ⟨format, third, h⟩ := ok_of_bind h
    obtain ⟨output, fourth, h⟩ := ok_of_bind h
    obtain ⟨file, fifth, h⟩ := ok_of_bind h
    obtain ⟨color, sixth, h⟩ := ok_of_bind h
    obtain ⟨modules, seventh, h⟩ := ok_of_bind h
    cases h
    refine ⟨?_, stands_field record rfl rfl seventh⟩
    exact ⟨stands_field record rfl rfl first, stands_field record rfl rfl second,
      stands_field record rfl rfl third, stands_field record rfl rfl fourth,
      stands_field record rfl rfl fifth, stands_field record rfl rfl sixth⟩
  · cases h

theorem Settings.stand_ofTree {t : Tree} {s : Settings} (h : ofTree .settings t = .ok s) :
    Stands (inRecord t "storage" 0) (StorageSettings.ofTree .settings) {} s.storage ∧
      Stands (inRecord t "grades" 1) (GradeFlags.ofTree .settings) {} s.grades ∧
      Stands (inRecord t "logging" 2) (LogSettings.ofTree .settings) {} s.logging := by
  obtain ⟨fs, record, h⟩ := ok_of_bind h
  split at h
  · obtain ⟨storage, first, h⟩ := ok_of_bind h
    obtain ⟨grades, second, h⟩ := ok_of_bind h
    obtain ⟨logging, third, h⟩ := ok_of_bind h
    cases h
    exact ⟨stands_field record rfl rfl first, stands_field record rfl rfl second,
      stands_field record rfl rfl third⟩
  · cases h

/-! ## Plain values at other places -/

/-- A reader of values that are no tables. -/
def PlainOnly {α : Type} (read : Document.Reader α) : Prop :=
  ∀ entries value, read (.table entries) ≠ .ok value

theorem plainOnly_truth (m : Manner) : PlainOnly (Document.truth m) := nofun

theorem plainOnly_text (m : Manner) : PlainOnly (Document.text m) := nofun

theorem plainOnly_list {α : Type} (read : Document.Reader α) : PlainOnly (Document.list read) :=
  nofun

/-- A reader of plain values reads the same if tables are taken away. -/
theorem PlainOnly.stands {α : Type} {read : Document.Reader α} (plain : PlainOnly read)
    {found : Option Tree} {default value : α} (h : Stands found read default value) :
    Stands (found.bind (Layer.plain? [])) read default value := by
  cases found with
  | none => exact h
  | some t =>
    cases t with
    | table inside => exact absurd h (plain inside value)
    | list | leaf => exact h

/-- What is read of plain values at some places is read at others. -/
def Carries (places others : Places) : Prop :=
  ∀ {α : Type} {read : Document.Reader α} {default value : α} (name : String) (position : Nat),
    PlainOnly read → Stands (places name position) read default value →
      Stands (others name position) read default value

section Carried

variable {places others : Places} (carries : Carries places others)
include carries

theorem StorageSettings.Stand.carry {s : StorageSettings} (h : s.Stand places) :
    s.Stand others where
  storePath := carries _ _ (plainOnly_text _) h.storePath
  coursesPath := carries _ _ (plainOnly_text _) h.coursesPath

theorem GradeFlags.Stand.carry {f : GradeFlags} (h : f.Stand places) : f.Stand others where
  persistentGradesEnabled := carries _ _ (plainOnly_truth _) h.persistentGradesEnabled
  enabledForAllCourses := carries _ _ (plainOnly_truth _) h.enabledForAllCourses
  persistentGradesCourses := carries _ _ (plainOnly_list _) h.persistentGradesCourses
  assumeZeroIfAbsent := carries _ _ (plainOnly_truth _) h.assumeZeroIfAbsent
  assumeZeroCourses := carries _ _ (plainOnly_list _) h.assumeZeroCourses
  writeOnlyIfEngaged := carries _ _ (plainOnly_truth _) h.writeOnlyIfEngaged

theorem LogSettings.Stand.carry {s : LogSettings} (h : s.Stand places) : s.Stand others where
  enabled := carries _ _ (plainOnly_truth _) h.enabled
  level := carries _ _ (plainOnly_text _) h.level
  format := carries _ _ (plainOnly_text _) h.format
  output := carries _ _ (plainOnly_text _) h.output
  file := carries _ _ (plainOnly_text _) h.file
  color := carries _ _ (plainOnly_truth _) h.color

end Carried

/-! ## The place of a setting -/

namespace Layer

/-- Where layers put the settings of a section: under their names in its table, or at their
positions if the section is a list. -/
def settingOf (layers : List Layer) (part : String) : Places := fun name position =>
  match lastOf layers [part] with
  | some (.list items) => items[position]?
  | _ => lastOf layers [part, name]

/-- The levels of single modules where layers put them: one by one, or as a whole if the section
is a list. -/
def Modules (layers : List Layer) (modules : Dictionary String) : Prop :=
  match lastOf layers ["logging"] with
  | some (.list items) =>
    Stands items[6]? (Document.dictionary (Document.text .settings)) ∅ modules
  | _ => ∀ name, Stands (lastOf layers ["logging", "modules", name])
      (fun t => (Document.text .settings t).map some) none (modules.find? name)

/-- The entries of a tree at whose paths stands what layers say last. -/
structure Final (layers : List Layer) (entries : List (String × Tree)) : Prop where
  tidy : Tidy (.table entries)
  plain : ∀ name rest, plain? (name :: rest) (.table entries) = lastOf layers (name :: rest)

namespace Final

variable {layers : List Layer} {entries : List (String × Tree)} (final : Final layers entries)
include final

theorem lastOf_part (part : String) (rest : List String) :
    lastOf layers (part :: rest) = (find? part entries).bind (plain? rest) := by
  rw [← final.plain, plain?_cons, entriesOf_table]

/-- What stands in the record of a section stands where the layers put it. -/
theorem carries_record {part : String} {t : Tree} (found : find? part entries = some t) :
    Carries (inRecord t) (settingOf layers part) := by
  intro α read default value name position plain h
  unfold settingOf
  rw [final.lastOf_part, final.lastOf_part, found, Option.bind_some, Option.bind_some, plain?_cons]
  -- a list stands as a whole under the name of its section, and has no values under further names
  cases t with
  | table fields => exact plain.stands h
  | list items => exact h
  | leaf scalar left => exact h

/-- Of a section that is not there nothing is said. -/
theorem carries_missing {part : String} (missing : find? part entries = none) :
    Carries (fun _ _ => none) (settingOf layers part) := by
  intro α read default value name position plain h
  unfold settingOf
  rw [final.lastOf_part, final.lastOf_part, missing]
  exact h

/-- The settings of a section stand where the layers put them, or are the defaults. -/
theorem stand_part {σ : Type} {part : String} {read : Document.Reader σ} {default value : σ}
    {Stand : Places → σ → Prop} (h : Stands (find? part entries) read default value)
    (ofTree : ∀ t, read t = .ok value → Stand (inRecord t) value)
    (defaults : Stand (fun _ _ => none) default)
    (carry : ∀ {places others : Places}, Carries places others → Stand places value →
      Stand others value) : Stand (settingOf layers part) value := by
  cases found : find? part entries with
  | none =>
    rw [found] at h
    refine carry (final.carries_missing found) ?_
    rwa [show value = default from h]
  | some t =>
    rw [found] at h
    exact carry (final.carries_record found) (ofTree t h)

theorem modules {s : LogSettings}
    (h : Stands (find? "logging" entries) (LogSettings.ofTree .settings) {} s) :
    Modules layers s.modules := by
  unfold Modules
  simp only [final.lastOf_part]
  cases found : find? "logging" entries with
  | none =>
    rw [found] at h
    rw [show s = {} from h]
    exact fun name => rfl
  | some t =>
    rw [found] at h
    have modules := (LogSettings.stand_ofTree h).2
    cases t with
    | table fields =>
      intro name
      change Stands (plain? ["modules", name] (.table fields)) _ none (s.modules.find? name)
      rw [plain?_cons, entriesOf_table]
      simp only [inRecord] at modules
      cases there : find? "modules" fields with
      | none =>
        rw [there] at modules
        rw [show s.modules = ∅ from modules]
        rfl
      | some t =>
        rw [there] at modules
        cases t with
        | table levels =>
          have nodup := ((final.tidy.find? found).find? there).nodup
          have plain : PlainOnly fun t => (Document.text .settings t).map some := nofun
          rw [Option.bind_some, plain?_cons]
          exact plain.stands (Document.stands_dictionary modules nodup name)
        | list | leaf => cases modules
    | list items => exact modules
    | leaf scalar left =>
      rw [show s.modules = ∅ from modules]
      exact fun name => rfl

end Final

end Layer

open Layer (settingOf)

/-- **Every setting has the value that the last layer to set it gives it**, or its default if none
does. -/
structure Settings.Follow (layers : List Layer) (s : Settings) : Prop where
  storage : s.storage.Stand (settingOf layers "storage")
  grades : s.grades.Stand (settingOf layers "grades")
  logging : s.logging.Stand (settingOf layers "logging")
  modules : Layer.Modules layers s.logging.modules

/-- What layers of named values come to follows them. -/
theorem Settings.follow_of_ofLayers {layers : List Layer}
    (named : ∀ layer ∈ layers, Layer.ByName layer) {s : Settings} (h : ofLayers layers = .ok s) :
    s.Follow layers := by
  obtain ⟨entries, stacked, tidy, plain⟩ := Layer.plain?_stack named
  have final : Layer.Final layers entries := ⟨tidy, plain⟩
  have read : ofTree .settings (.table entries) = .ok s := by
    rw [ofLayers, stacked] at h
    change (ofTree .settings (.table entries)).mapError _ = .ok s at h
    cases read : ofTree .settings (.table entries) <;> rw [read] at h <;> cases h
    rfl
  obtain ⟨storage, grades, logging⟩ := stand_ofTree read
  exact {
    storage := final.stand_part storage (fun _ => StorageSettings.stand_ofTree)
      ⟨rfl, rfl⟩ fun carries => StorageSettings.Stand.carry carries
    grades := final.stand_part grades (fun _ => GradeFlags.stand_ofTree)
      ⟨rfl, rfl, rfl, rfl, rfl, rfl⟩ fun carries => GradeFlags.Stand.carry carries
    logging := final.stand_part logging (fun _ h => (LogSettings.stand_ofTree h).1)
      ⟨rfl, rfl, rfl, rfl, rfl, rfl⟩ fun carries => LogSettings.Stand.carry carries
    modules := final.modules logging }

end Gradebook
