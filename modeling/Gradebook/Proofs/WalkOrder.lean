/-
# Gradebook.Proofs.WalkOrder — opening a directory in one order or another

`Files.walk` lists a directory in the order of the names, a file system lists it as it likes:
`Catalog.openAlong` opens along any enumeration of the files. An overwriting index keeps the
last file of the enumeration for each course (`find?_indexed_last`), so

* every enumeration of a directory of valid course files opens, with the same courses;
* each file is served, and all enumerations make the same index, exactly if no two files
  define one course;
* all enumerations answer loads alike exactly if files that define one course agree.

Two files that define one course differently are refused by no enumeration: one of them is
dropped, and which one the enumeration decides (`Catalog.Sample.order_decides_course`).
-/
import Gradebook.Proofs.CatalogKeys
import Mathlib.Data.List.Sort

namespace Gradebook

set_option autoImplicit false

namespace Catalog

open CourseDefinition (inFile)

/-! ## Indexing along a list of paths -/

section Indexed

variable {read : String → Except ContentError CourseDefinition} {paths : List String}
  {before index : Assoc CourseKey String}

/-- Files that can be read can be indexed. -/
theorem indexed_ok (valid : ∀ path ∈ paths, ∃ d, read path = .ok d)
    (before : Assoc CourseKey String) : ∃ index, indexed read before paths = .ok index := by
  induction paths generalizing before with
  | nil => exact ⟨before, rfl⟩
  | cons path rest ih =>
    obtain ⟨d, reads⟩ := valid path List.mem_cons_self
    obtain ⟨index, built⟩ := ih (fun later member => valid later (List.mem_cons_of_mem _ member))
      (Assoc.put d.key path before)
    refine ⟨index, ?_⟩
    simp only [indexed, reads]
    exact built

/-- The courses of an index are those that were there before and those that are defined. -/
theorem mem_keys_indexed (built : indexed read before paths = .ok index) (key : CourseKey) :
    key ∈ Assoc.keys index ↔
      key ∈ Assoc.keys before ∨ ∃ path ∈ paths, ∃ d, read path = .ok d ∧ d.key = key := by
  induction paths generalizing before with
  | nil =>
    cases built
    simp
  | cons path rest ih =>
    unfold indexed at built
    split at built
    · cases built
    · next d reads =>
      have put : key ∈ Assoc.keys (Assoc.put d.key path before) ↔
          key ∈ Assoc.keys before ∨ d.key = key := by
        rw [Assoc.keys_put]
        by_cases known : d.key ∈ Assoc.keys before
        · rw [if_pos known]
          constructor
          · exact .inl
          · rintro (old | rfl)
            · exact old
            · exact known
        · rw [if_neg known, List.mem_append, List.mem_singleton, eq_comm (a := key)]
      rw [ih built, put, or_assoc]
      simp [reads]

/-- An index has one entry for each course. -/
theorem nodup_keys_indexed (built : indexed read before paths = .ok index)
    (nodup : (Assoc.keys before).Nodup) : (Assoc.keys index).Nodup := by
  induction paths generalizing before with
  | nil =>
    cases built
    exact nodup
  | cons path rest ih =>
    unfold indexed at built
    split at built
    · cases built
    · next d reads =>
      exact ih built (Assoc.nodup_keys_put nodup d.key path)

/-- What no later file defines is kept. -/
theorem find?_indexed_kept {key : CourseKey} (built : indexed read before paths = .ok index)
    (spared : ∀ path ∈ paths, ∀ d, read path = .ok d → d.key ≠ key) :
    Assoc.find? key index = Assoc.find? key before := by
  induction paths generalizing before with
  | nil =>
    cases built
    rfl
  | cons path rest ih =>
    unfold indexed at built
    split at built
    · cases built
    · next d reads =>
      rw [ih built fun later member => spared later (List.mem_cons_of_mem _ member)]
      exact Assoc.find?_put_of_ne (spared path List.mem_cons_self d reads) path before

/-- **The last file that defines a course is indexed for it.** -/
theorem find?_indexed_last {early late : List String} {path : String} {d : CourseDefinition}
    (built : indexed read before (early ++ path :: late) = .ok index)
    (reads : read path = .ok d)
    (last : ∀ later ∈ late, ∀ d', read later = .ok d' → d'.key ≠ d.key) :
    Assoc.find? d.key index = some path := by
  induction early generalizing before with
  | nil =>
    simp only [List.nil_append, indexed, reads] at built
    rw [find?_indexed_kept built last]
    exact Assoc.find?_put_self d.key path before
  | cons first rest ih =>
    rw [List.cons_append] at built
    unfold indexed at built
    split at built
    · cases built
    · exact ih built

end Indexed

/-! ## Opening along an enumeration -/

/-- The catalog of a directory whose files are enumerated in this order. -/
def openAlong (files : Files) (root : String) (paths : List String) :
    Except ContentError Catalog :=
  (indexed (inFile files) [] (paths.filter isCourseFile)).map fun index => ⟨root, index⟩

theorem openAt_eq_openAlong (files : Files) (root : String) :
    openAt files root = openAlong files root (files.walk root) := rfl

/-- A course file of a directory, and what it defines. -/
structure Defines (files : Files) (root path : String) (d : CourseDefinition) : Prop where
  walked : path ∈ files.walk root
  isCourseFile : isCourseFile path = true
  reads : inFile files path = .ok d

/-- Every course file of a directory is a valid definition. -/
def Valid (files : Files) (root : String) : Prop :=
  ∀ path ∈ files.walk root, isCourseFile path = true → ∃ d, inFile files path = .ok d

/-- No two files define one course. -/
def OneFileEach (files : Files) (root : String) : Prop :=
  ∀ p q d d', Defines files root p d → Defines files root q d' → d.key = d'.key → p = q

/-- Files that define one course agree on it. -/
def Consistent (files : Files) (root : String) : Prop :=
  ∀ p q d d', Defines files root p d → Defines files root q d' → d.key = d'.key → d = d'

/-- A catalog serves every course file of a directory. -/
def ServesAll (c : Catalog) (files : Files) (root : String) : Prop :=
  ∀ path d, Defines files root path d → ∃ key, Assoc.find? key c.index = some path

section Opened

variable {files : Files} {root : String} {paths : List String} {c : Catalog}

theorem openAlong_ok (valid : Valid files root) (order : paths.Perm (files.walk root)) :
    ∃ c, openAlong files root paths = .ok c := by
  have reads : ∀ path ∈ paths.filter isCourseFile, ∃ d, inFile files path = .ok d := by
    intro path member
    obtain ⟨listed, course⟩ := List.mem_filter.1 member
    exact valid path (order.mem_iff.1 listed) course
  obtain ⟨index, built⟩ := indexed_ok reads []
  exact ⟨⟨root, index⟩, by rw [openAlong, built]; rfl⟩

theorem indexed_of_openAlong (opened : openAlong files root paths = .ok c) :
    c.root = root ∧ indexed (inFile files) [] (paths.filter isCourseFile) = .ok c.index := by
  unfold openAlong at opened
  cases built : indexed (inFile files) [] (paths.filter isCourseFile) with
  | error e =>
    rw [built] at opened
    cases opened
  | ok index =>
    rw [built] at opened
    cases opened
    exact ⟨rfl, rfl⟩

variable (order : paths.Perm (files.walk root)) (opened : openAlong files root paths = .ok c)
include order opened

/-- A course is served from a file that defines it. -/
theorem defines_of_find? {key : CourseKey} {path : String}
    (found : Assoc.find? key c.index = some path) :
    ∃ d, Defines files root path d ∧ d.key = key := by
  rcases indexed_reads (indexed_of_openAlong opened).2 found with nowhere | ⟨member, d, reads, same⟩
  · cases nowhere
  · obtain ⟨listed, course⟩ := List.mem_filter.1 member
    exact ⟨d, ⟨order.mem_iff.1 listed, course, reads⟩, same⟩

theorem mem_keys_openAlong (key : CourseKey) :
    key ∈ Assoc.keys c.index ↔ ∃ path d, Defines files root path d ∧ d.key = key := by
  rw [mem_keys_indexed (indexed_of_openAlong opened).2]
  constructor
  · rintro (nowhere | ⟨path, member, d, reads, same⟩)
    · cases nowhere
    · obtain ⟨listed, course⟩ := List.mem_filter.1 member
      exact ⟨path, d, ⟨order.mem_iff.1 listed, course, reads⟩, same⟩
  · rintro ⟨path, d, defines, same⟩
    have member := List.mem_filter.2 ⟨order.mem_iff.2 defines.walked, defines.isCourseFile⟩
    exact .inr ⟨path, member, d, defines.reads, same⟩

/-- A course that is defined is served from one of the files that define it. -/
theorem find?_of_defines {path : String} {d : CourseDefinition}
    (defines : Defines files root path d) :
    ∃ p d', Assoc.find? d.key c.index = some p ∧ Defines files root p d' ∧ d'.key = d.key := by
  have known := (mem_keys_openAlong order opened d.key).2 ⟨path, d, defines, rfl⟩
  obtain ⟨p, found⟩ := Assoc.find?_isSome_iff.2 known
  obtain ⟨d', defines', same⟩ := defines_of_find? order opened found
  exact ⟨p, d', found, defines', same⟩

/-- **Every file is served exactly if no two define one course.** -/
theorem servesAll_iff : c.ServesAll files root ↔ OneFileEach files root := by
  constructor
  · intro all p q d d' first second same
    have own {path : String} {x : CourseDefinition} (defines : Defines files root path x) :
        Assoc.find? x.key c.index = some path := by
      obtain ⟨key, found⟩ := all path x defines
      obtain ⟨y, defines', rfl⟩ := defines_of_find? order opened found
      cases defines.reads.symm.trans defines'.reads
      exact found
    have shared := own first
    rw [same, own second] at shared
    exact (Option.some.inj shared).symm
  · intro single path d defines
    obtain ⟨p, d', found, defines', same⟩ := find?_of_defines order opened defines
    cases single p path d' d defines' defines same
    exact ⟨d.key, found⟩

end Opened

section TwoOrders

variable {files : Files} {root : String} {paths others : List String} {c c' : Catalog}
  (order : paths.Perm (files.walk root)) (order' : others.Perm (files.walk root))
  (opened : openAlong files root paths = .ok c) (opened' : openAlong files root others = .ok c')
include order order' opened opened'

/-- The courses do not depend on the order. -/
theorem courseKeys_eq : c.courseKeys = c'.courseKeys := by
  have same : (Assoc.keys c.index).Perm (Assoc.keys c'.index) := by
    apply (List.perm_ext_iff_of_nodup
      (nodup_keys_indexed (indexed_of_openAlong opened).2 List.nodup_nil)
      (nodup_keys_indexed (indexed_of_openAlong opened').2 List.nodup_nil)).2
    intro key
    rw [mem_keys_openAlong order opened, mem_keys_openAlong order' opened']
  have sorted (keys : List CourseKey) :
      (keys.mergeSort fun a b => decide (a.text ≤ b.text)).Pairwise fun a b => a.text ≤ b.text := by
    refine (List.pairwise_mergeSort ?_ ?_ keys).imp of_decide_eq_true
    · simp only [decide_eq_true_eq]
      exact fun a b c => String.le_trans
    · simp only [Bool.or_eq_true, decide_eq_true_eq]
      exact fun a b => String.le_total a.text b.text
  refine List.Perm.eq_of_pairwise ?_ (sorted _) (sorted _) ?_
  · intro a b _ _ below above
    cases a
    exact congrArg CourseKey.mk (String.le_antisymm below above)
  · exact (List.mergeSort_perm _ _).trans (same.trans (List.mergeSort_perm _ _).symm)

/-- A course is served along both orders, each time from a file that defines it, or along
neither. -/
theorem served_along_both (key : CourseKey) :
    (Assoc.find? key c.index = none ∧ Assoc.find? key c'.index = none) ∨
      ∃ p q d d', Assoc.find? key c.index = some p ∧ Assoc.find? key c'.index = some q ∧
        Defines files root p d ∧ Defines files root q d' ∧ d.key = d'.key := by
  cases found : Assoc.find? key c.index with
  | none =>
    cases found' : Assoc.find? key c'.index with
    | none => exact .inl ⟨rfl, rfl⟩
    | some q =>
      obtain ⟨d, defines, rfl⟩ := defines_of_find? order' opened' found'
      obtain ⟨p, -, served, -⟩ := find?_of_defines order opened defines
      cases found.symm.trans served
  | some p =>
    obtain ⟨d, defines, rfl⟩ := defines_of_find? order opened found
    obtain ⟨q, d', served, defines', same⟩ := find?_of_defines order' opened' defines
    exact .inr ⟨p, q, d, d', rfl, served, defines, defines', same.symm⟩

/-- Where files that define one course agree, all orders serve what they agree on. -/
theorem definition_of_consistent (consistent : Consistent files root) :
    c.definition files = c'.definition files := by
  have root_eq : c.root = c'.root :=
    (indexed_of_openAlong opened).1.trans (indexed_of_openAlong opened').1.symm
  funext key
  simp only [definition, root_eq]
  rcases served_along_both order order' opened opened' key with
    ⟨none_here, none_there⟩ | ⟨p, q, d, d', here, there, defines, defines', same⟩
  · rw [none_here, none_there]
  · simp only [here, there, defines.reads, defines'.reads]
    exact congrArg Except.ok (consistent p q d d' defines defines' same)

/-- Where no two files define one course, all orders make one index: whatever becomes of the
files, loads are answered alike. -/
theorem definition_of_oneFileEach (single : OneFileEach files root) :
    c.definition = c'.definition := by
  have root_eq : c.root = c'.root :=
    (indexed_of_openAlong opened).1.trans (indexed_of_openAlong opened').1.symm
  have index_eq (key : CourseKey) : Assoc.find? key c.index = Assoc.find? key c'.index := by
    rcases served_along_both order order' opened opened' key with
      ⟨none_here, none_there⟩ | ⟨p, q, d, d', here, there, defines, defines', same⟩
    · rw [none_here, none_there]
    · rw [here, there, single p q d d' defines defines' same]
  funext now key
  simp only [definition, root_eq, index_eq]

end TwoOrders

/-! ## What the order decides -/

/-- Two catalogs answer loads alike while the directory is in one state. -/
structure LoadsAlike (c c' : Catalog) (files : Files) : Prop where
  course : ∀ (w : World) (key : CourseKey),
    ({ w with source := .catalog c files }.loadCourse key).1 =
      ({ w with source := .catalog c' files }.loadCourse key).1
  content : ∀ (w : World) (key : CourseKey),
    ({ w with source := .catalog c files }.loadContent key).1 =
      ({ w with source := .catalog c' files }.loadContent key).1

theorem loadsAlike_of_definition {c c' : Catalog} {files : Files}
    (same : c.definition files = c'.definition files) : LoadsAlike c c' files where
  course w key := by
    simp only [World.loadCourse, ContentSource.definition, same]
    cases w.faults.course <;> rfl
  content w key := by
    simp only [World.loadContent, ContentSource.definition, same]
    cases w.faults.content <;> rfl

/-- The two views of a definition together are all of it. -/
theorem LoadsAlike.defined {c c' : Catalog} {files : Files} (alike : LoadsAlike c c' files)
    {key : CourseKey} {d d' : CourseDefinition} (defined : c.definition files key = .ok d)
    (defined' : c'.definition files key = .ok d') : d = d' := by
  have course := alike.course {} key
  have content := alike.content {} key
  simp only [World.loadCourse, World.loadContent, ContentSource.definition, defined,
    defined', Except.map, Except.mapError, Except.ok.injEq] at course content
  cases d
  cases d'
  simp only [CourseDefinition.course, CourseDefinition.content, Course.mk.injEq,
    ContentStructure.mk.injEq] at course content
  obtain ⟨key, name, ends, version, editedOn, policy⟩ := course
  obtain ⟨-, -, -, -, blocks⟩ := content
  subst key name ends version editedOn policy blocks
  rfl

/-- Some enumeration comes to a file last, and then serves what it defines. -/
theorem openAlong_last {files : Files} {root path : String} {d : CourseDefinition}
    (valid : Valid files root) (defines : Defines files root path d) :
    ∃ paths c, paths.Perm (files.walk root) ∧ openAlong files root paths = .ok c ∧
      c.definition files d.key = .ok d := by
  have order : ((files.walk root).erase path ++ [path]).Perm (files.walk root) :=
    (List.perm_append_singleton _ _).trans (List.perm_cons_erase defines.walked).symm
  obtain ⟨c, opened⟩ := openAlong_ok valid order
  refine ⟨_, c, order, opened, ?_⟩
  have built := (indexed_of_openAlong opened).2
  rw [List.filter_append, List.filter_singleton, defines.isCourseFile] at built
  have last : Assoc.find? d.key c.index = some path := by
    apply find?_indexed_last built defines.reads
    intro later member
    cases member
  exact definition_ok.2 ⟨path, last, defines.reads⟩

/-- **What opening a directory owes to the order of its files.** Whatever the order in which
the files of a directory of valid definitions are enumerated, it opens, with the same courses.
All orders answer loads alike exactly if files that define one course agree. A catalog serves
every file exactly if no two files define one course, and then all orders answer loads alike
however the files change later. -/
theorem opening_order_exact {files : Files} {root : String} (valid : Valid files root) :
    (∀ paths, paths.Perm (files.walk root) → ∃ c, openAlong files root paths = .ok c) ∧
    (∀ paths others c c', paths.Perm (files.walk root) → others.Perm (files.walk root) →
      openAlong files root paths = .ok c → openAlong files root others = .ok c' →
      c.courseKeys = c'.courseKeys ∧ (c.ServesAll files root ↔ OneFileEach files root) ∧
        (OneFileEach files root → ∀ now, LoadsAlike c c' now)) ∧
    ((∀ paths others c c', paths.Perm (files.walk root) → others.Perm (files.walk root) →
      openAlong files root paths = .ok c → openAlong files root others = .ok c' →
      LoadsAlike c c' files) ↔ Consistent files root) := by
  refine ⟨fun paths order => openAlong_ok valid order, ?_, ?_, ?_⟩
  · intro paths others c c' order order' opened opened'
    refine ⟨courseKeys_eq order order' opened opened', servesAll_iff order opened, ?_⟩
    intro single now
    have same := definition_of_oneFileEach order order' opened opened' single
    exact loadsAlike_of_definition (congrFun same now)
  · intro alike p q d d' first second same
    obtain ⟨paths, c, order, opened, defined⟩ := openAlong_last valid first
    obtain ⟨others, c', order', opened', defined'⟩ := openAlong_last valid second
    rw [← same] at defined'
    exact (alike paths others c c' order order' opened opened').defined defined defined'
  · intro consistent paths others c c' order order' opened opened'
    exact loadsAlike_of_definition
      (definition_of_consistent order order' opened opened' consistent)

namespace Sample

/-- A course file that says no more than the version of the course. -/
def versionText (key version : String) : String :=
  "key=\"" ++ key ++ "\"\nversion=\"" ++ version ++ "\"\n"

/-- A directory with two course files. -/
def directoryOf (first second : String) : Files :=
  { contents := [(["courses", "a.toml"], .text first), (["courses", "b.toml"], .text second)] }

theorem walk_directoryOf (first second : String) :
    ((directoryOf first second).walk "courses").Perm ["courses/a.toml", "courses/b.toml"] := by
  have parts : Path.parts "courses" = ["courses"] := by decide +kernel
  have relative : Path.isAbsolute "courses" = false := by decide +kernel
  have located : (directoryOf first second).locate? "courses" = some ["courses"] := by
    simp [Files.locate?, Files.startOf, parts, relative, Files.follow, Files.isDirectory,
      directoryOf]
  have path_a : Path.join "courses" "a.toml" = "courses/a.toml" := by decide +kernel
  have path_b : Path.join "courses" "b.toml" = "courses/b.toml" := by decide +kernel
  simp only [Files.walk, located]
  refine (List.mergeSort_perm _ _).trans ?_
  simp [directoryOf, path_a, path_b]

theorem valid_directoryOf {first second : String}
    (reads : ∀ path ∈ ["courses/a.toml", "courses/b.toml"],
      (inFile (directoryOf first second) path).toOption.isSome = true) :
    Valid (directoryOf first second) "courses" := by
  intro path member _
  have read := reads path ((walk_directoryOf first second).mem_iff.1 member)
  cases defined : inFile (directoryOf first second) path with
  | error e =>
    rw [defined] at read
    cases read
  | ok d => exact ⟨d, rfl⟩

/-- Of two files for the courses a and b no order keeps one back. -/
theorem opening_order_exact_two_courses :
    let files := directoryOf (versionText "a" "1") (versionText "b" "2")
    Valid files "courses" ∧
      ∃ c c', openAlong files "courses" ["courses/a.toml", "courses/b.toml"] = .ok c ∧
        openAlong files "courses" ["courses/b.toml", "courses/a.toml"] = .ok c' ∧
        c.courseKeys = c'.courseKeys ∧ c.ServesAll files "courses" ∧
        ∀ now, LoadsAlike c c' now := by
  intro files
  have order := (walk_directoryOf (versionText "a" "1") (versionText "b" "2")).symm
  have valid : Valid files "courses" := valid_directoryOf (by decide +kernel)
  have single : OneFileEach files "courses" := by
    have keys : ∀ p ∈ ["courses/a.toml", "courses/b.toml"],
        ∀ q ∈ ["courses/a.toml", "courses/b.toml"],
        (inFile files p).toOption.map (·.key) = (inFile files q).toOption.map (·.key) → p = q := by
      decide +kernel
    intro p q d d' first second same
    apply keys p (order.mem_iff.2 first.walked) q (order.mem_iff.2 second.walked)
    rw [first.reads, second.reads]
    exact congrArg some same
  obtain ⟨opens, two, -⟩ := opening_order_exact valid
  have order' : ["courses/b.toml", "courses/a.toml"].Perm (files.walk "courses") :=
    (List.Perm.swap _ _ _).trans order
  obtain ⟨c, opened⟩ := opens _ order
  obtain ⟨c', opened'⟩ := opens _ order'
  obtain ⟨keys, serves, alike⟩ := two _ _ c c' order order' opened opened'
  exact ⟨valid, c, c', opened, opened', keys, serves.2 single, alike single⟩

/-- **The order decides what a course is.** Both files define the course k, and are valid.
Along either order the directory opens, with the one course k; its version is that of the file
that comes last, and the other file is not served. -/
theorem order_decides_course :
    let files := directoryOf (versionText "k" "1") (versionText "k" "2")
    Valid files "courses" ∧
      ["courses/a.toml", "courses/b.toml"].Perm (files.walk "courses") ∧
      ["courses/b.toml", "courses/a.toml"].Perm (files.walk "courses") ∧
      ∃ c c', openAlong files "courses" ["courses/a.toml", "courses/b.toml"] = .ok c ∧
        openAlong files "courses" ["courses/b.toml", "courses/a.toml"] = .ok c' ∧
        c.courseKeys = [⟨"k"⟩] ∧ c'.courseKeys = [⟨"k"⟩] ∧
        (c.definition files ⟨"k"⟩).toOption.map (·.content.version) = some (some "2") ∧
        (c'.definition files ⟨"k"⟩).toOption.map (·.content.version) = some (some "1") ∧
        (∀ key, Assoc.find? key c.index ≠ some "courses/a.toml") ∧
        (∀ key, Assoc.find? key c'.index ≠ some "courses/b.toml") := by
  intro files
  have order := (walk_directoryOf (versionText "k" "1") (versionText "k" "2")).symm
  have opens (paths : List String) (path : String) (indexed : ((openAlong files "courses" paths).map
      fun c => (c.root, c.index)).toOption = some ("courses", [(⟨"k"⟩, path)])) :
      openAlong files "courses" paths = .ok ⟨"courses", [(⟨"k"⟩, path)]⟩ := by
    cases opened : openAlong files "courses" paths with
    | error e =>
      rw [opened] at indexed
      cases indexed
    | ok c =>
      obtain ⟨root, index⟩ := c
      rw [opened] at indexed
      cases indexed
      rfl
  have unserved (path other : String) (differ : path ≠ other) (key : CourseKey) :
      Assoc.find? key [((⟨"k"⟩ : CourseKey), path)] ≠ some other := by
    rw [Assoc.find?_cons]
    split
    · intro same
      exact differ (Option.some.inj same)
    · intro same
      cases same
  exact ⟨valid_directoryOf (by decide +kernel), order, (List.Perm.swap _ _ _).trans order, _, _,
    opens _ "courses/b.toml" (by decide +kernel), opens _ "courses/a.toml" (by decide +kernel),
    by decide +kernel, by decide +kernel, by decide +kernel, by decide +kernel,
    unserved _ _ (by decide), unserved _ _ (by decide)⟩

end Sample

end Catalog

end Gradebook
