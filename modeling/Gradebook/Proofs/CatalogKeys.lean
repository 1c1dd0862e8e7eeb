/-
# Gradebook.Proofs.CatalogKeys — which course a catalog serves

A catalog notes once which file defines which course, and reads that file again at every load.
The policy is checked again, the course key is not. So what is served for a key is whatever
its file defines now: a definition of the course asked for exactly as long as no file indexed
for a course has come to define another (`Catalog.Keeps`). It holds of the files the catalog was
opened on (`Catalog.keeps_openAt`), and an edit can end it
(`Catalog.edited_file_serves_other_course`).

Sessions over a directory that changes at will, but keeps its keys, never mix courses: a grade
computed for a course comes from content that was served for that course, from groups of such
content, and from the scores in that course (`Session.computed_within_course`).
-/
import Gradebook.Proofs.BatchSnapshot

namespace Gradebook

set_option autoImplicit false

/-! ## What is served -/

namespace Catalog

open CourseDefinition (inFile)

/-- A file is indexed for the course it was read to define. -/
theorem indexed_reads {read : String → Except ContentError CourseDefinition}
    {paths : List String} {before index : Assoc CourseKey String}
    (h : indexed read before paths = .ok index) {key : CourseKey} {path : String}
    (found : Assoc.find? key index = some path) :
    Assoc.find? key before = some path ∨ path ∈ paths ∧ ∃ d, read path = .ok d ∧ d.key = key := by
  induction paths generalizing before with
  | nil =>
    cases h
    exact .inl found
  | cons next rest ih =>
    unfold indexed at h
    split at h
    · cases h
    · next d reads =>
      rcases ih h with earlier | ⟨later, defines⟩
      · rw [Assoc.find?_put] at earlier
        split at earlier
        · next same =>
          cases earlier
          exact .inr ⟨List.mem_cons_self, d, reads, same⟩
        · exact .inl earlier
      · exact .inr ⟨List.mem_cons_of_mem _ later, defines⟩

/-- A catalog indexes files of the directory it was opened on, each for the course that it
defined then. -/
theorem defined_openAt {files : Files} {root : String} {c : Catalog}
    (opened : openAt files root = .ok c) {key : CourseKey} {path : String}
    (found : Assoc.find? key c.index = some path) :
    path ∈ files.walk root ∧ ∃ d, inFile files path = .ok d ∧ d.key = key := by
  unfold openAt at opened
  cases built : indexed (inFile files) [] ((files.walk root).filter isCourseFile) with
  | error e =>
    rw [built] at opened
    cases opened
  | ok index =>
    rw [built] at opened
    cases opened
    rcases indexed_reads built found with nowhere | ⟨walked, defines⟩
    · cases nowhere
    · exact ⟨(List.mem_filter.1 walked).1, defines⟩

/-- No file indexed for a course has come to define another one. -/
def Keeps (c : Catalog) (files : Files) : Prop :=
  ∀ key path d, Assoc.find? key c.index = some path → inFile files path = .ok d → d.key = key

theorem keeps_openAt {files : Files} {root : String} {c : Catalog}
    (opened : openAt files root = .ok c) : c.Keeps files := by
  intro key path d found reads
  obtain ⟨-, d₀, defined, same⟩ := defined_openAt opened found
  cases defined.symm.trans reads
  exact same

theorem Keeps.key_eq {c : Catalog} {files : Files} (keeps : c.Keeps files) {key : CourseKey}
    {d : CourseDefinition} (defined : c.definition files key = .ok d) : d.key = key := by
  obtain ⟨path, found, reads⟩ := definition_ok.1 defined
  exact keeps key path d found reads

end Catalog

namespace World

variable {w : World} {key : CourseKey}

/-- A load that succeeds gives a view of the definition on offer. -/
theorem defined_of_loadCourse {x : Course} (h : (w.loadCourse key).1 = .ok x) :
    ∃ d, w.source.definition key = .ok d ∧ x = d.course := by
  unfold loadCourse at h
  split at h
  · cases h
  · cases defined : w.source.definition key with
    | error e =>
      rw [defined] at h
      cases h
    | ok d =>
      rw [defined] at h
      cases h
      exact ⟨d, rfl, rfl⟩

theorem defined_of_loadContent {x : ContentStructure} (h : (w.loadContent key).1 = .ok x) :
    ∃ d, w.source.definition key = .ok d ∧ x = d.content := by
  unfold loadContent at h
  split at h
  · cases h
  · cases defined : w.source.definition key with
    | error e =>
      rw [defined] at h
      cases h
    | ok d =>
      rw [defined] at h
      cases h
      exact ⟨d, rfl, rfl⟩

end World

namespace Catalog

open CourseDefinition (inFile)

/-- The file indexed for the course, which defined it when the catalog was opened, now has this
definition, with a policy that is valid. -/
def Served (c : Catalog) (opening files : Files) (key : CourseKey) (d : CourseDefinition) : Prop :=
  d.gradingPolicy.validate = .ok () ∧ ∃ path d₀, Assoc.find? key c.index = some path ∧
    inFile opening path = .ok d₀ ∧ d₀.key = key ∧ inFile files path = .ok d

theorem served_of_definition {opening files : Files} {root : String} {c : Catalog}
    (opened : openAt opening root = .ok c) {key : CourseKey} {d : CourseDefinition}
    (defined : c.definition files key = .ok d) : c.Served opening files key d := by
  obtain ⟨path, found, reads⟩ := definition_ok.1 defined
  obtain ⟨-, d₀, reads₀, same⟩ := defined_openAt opened found
  exact ⟨CourseDefinition.valid_of_inFile reads, path, d₀, found, reads₀, same, reads⟩

/-- The contents that a catalog serves under their own key while the directory is in one of
these states. -/
def Serves (c : Catalog) (states : Files → Prop) (x : ContentStructure) : Prop :=
  ∃ files d, states files ∧ c.definition files x.courseKey = .ok d ∧ d.content = x

/-- As long as the directory keeps its keys, nothing else is on offer. -/
theorem offers_serves {c : Catalog} {states : Files → Prop}
    (keeps : ∀ files, states files → c.Keeps files) {files : Files} (state : states files) :
    (ContentSource.catalog c files).Offers (c.Serves states) := by
  intro key d defined
  have same : d.content.courseKey = key := (keeps files state).key_eq defined
  exact ⟨files, d, state, same ▸ defined, rfl⟩

end Catalog

/-! ## Whole sessions -/

/-- Content supplied names the course that the inputs agree on. -/
theorem CourseInputs.courseKey_of_agreedKey {i : CourseInputs} {key : CourseKey}
    {x : ContentStructure} (agreed : i.agreedKey = .ok key) (content : i.content = some x) :
    x.courseKey = key := by
  have among : x.courseKey ∈ i.keys := by simp [keys, content]
  unfold agreedKey at agreed
  split at agreed
  · cases agreed
  · next first others named =>
    split at agreed
    · cases agreed
    · next alike =>
      cases agreed
      rw [named] at among
      rcases List.mem_cons.1 among with same | other
      · exact same
      · simpa using List.find?_eq_none.1 alike _ other

/-- The step supplies content only as served before, and leaves it to the catalog where content
comes from. -/
structure Step.Brings (c : Catalog) (states : Files → Prop) (step : Step) : Prop where
  inputs : ∀ i x, step.inputs? = some i → i.content = some x → c.Serves states x
  undefined : ∀ d, step ≠ .define d
  published : ∀ source, step = .publish source →
    ∃ files, states files ∧ source = .catalog c files

namespace Session

variable {c : Catalog} {states : Files → Prop}

/-- The content of every context is of its course, and comes from the catalog. -/
structure Sorted (c : Catalog) (states : Files → Prop) (s : Session) : Prop where
  source : ∃ files, states files ∧ s.world.source = .catalog c files
  contexts : ∀ holder cx x, s.contextAt? holder = some cx → cx.content? = some x →
    x.courseKey = cx.key
  among : s.Among (c.Serves states)
  weighted : s.engine.calculator = .weighted

variable (keeps : ∀ files, states files → c.Keeps files)

include keeps in
theorem brings_within {step : Step} (brings : step.Brings c states) :
    step.Within (c.Serves states) where
  inputs := brings.inputs
  defined d of := (brings.undefined d of).elim
  published source of := by
    obtain ⟨files, state, rfl⟩ := brings.published source of
    exact Catalog.offers_serves keeps state

section Step

variable {s : Session} (sorted : s.Sorted c states)

include keeps sorted in
/-- What a context has at hand, or will load, is of its course. -/
theorem courseKey_of_contentOf {cx : Context}
    (held : ∀ x, cx.content? = some x → x.courseKey = cx.key) {x : ContentStructure}
    (found : s.world.contentOf cx = .ok x) : x.courseKey = cx.key := by
  rw [World.contentOf] at found
  cases content : cx.content? with
  | some y =>
    rw [content] at found
    cases found
    exact held x content
  | none =>
    rw [content] at found
    obtain ⟨d, defined, rfl⟩ := World.defined_of_loadContent found
    obtain ⟨files, state, source⟩ := sorted.source
    rw [source] at defined
    exact (keeps files state).key_eq defined

theorem courseKey_ofInputs {learner : Option LearnerId} {i : CourseInputs} {cx : Context}
    (opened : Context.ofInputs learner i = .ok cx) {x : ContentStructure}
    (content : cx.content? = some x) : x.courseKey = cx.key :=
  CourseInputs.courseKey_of_agreedKey (Context.agreedKey_of_ofInputs opened)
    ((content?_ofInputs opened).symm.trans content)

include keeps in
theorem Sorted.step (sorted : s.Sorted c states) {step : Step} (brings : step.Brings c states) :
    (s.step step).2.Sorted c states where
  source := by
    cases resolving : s.resolving? step with
    | some graded =>
      rw [(sameSource_of_resolving resolving).source]
      exact sorted.source
    | none =>
      cases (step_passed resolving).1 with
      | quiet h => exact h.source ▸ sorted.source
      | defined d of h => exact (brings.undefined d of).elim
      | published source of h =>
        obtain ⟨files, state, same⟩ := brings.published source of
        exact ⟨files, state, by rw [h, same]⟩
      | cleared | scored | disturbed | clocked => next h => exact h ▸ sorted.source
  contexts := by
    intro holder cx x held content
    cases step_stems held with
    | kept before follows =>
      rw [follows.grows.key]
      exact courseKey_of_contentOf keeps sorted (fun y => sorted.contexts _ _ y before)
        (follows.content x content)
    | forked learner before => exact (sorted.contexts _ _ x before content :)
    | opened inputs opened => exact courseKey_ofInputs opened content
    | started inputs opened follows started =>
      rw [follows.grows.key]
      exact courseKey_of_contentOf keeps sorted (fun y => courseKey_ofInputs opened)
        (follows.content x content)
  among := sorted.among.step (brings_within keeps brings) sorted.weighted
  weighted := by rw [step_engine, sorted.weighted]

include keeps in
theorem Sorted.run (sorted : s.Sorted c states) {steps : List Step}
    (brings : ∀ step ∈ steps, step.Brings c states) : (s.run steps).2.Sorted c states :=
  run_keeps (fun _ step inside sorted => sorted.step keeps (brings step inside)) sorted

include keeps in
/-- **A computed grade is of one course.** -/
theorem computed_within_course (sorted : s.Sorted c states) {step : Step}
    (brings : step.Brings c states) {g : ResolvedGrade}
    (answered : (s.step step).1.grade? = some g) {persisted : Bool}
    (computed : g.source = .computed persisted) :
    ∃ x y scores, c.Serves states x ∧ x.courseKey = g.courseKey ∧
      c.Serves states y ∧ y.courseKey = g.courseKey ∧
      (s.world.scoresOf g.learner g.courseKey).1 = .ok scores ∧
      g = .ofBreakdown g.learner g.courseKey
        (Calculation.breakdown x.gradingPolicy y.gradedBlocksByFormat scores) persisted := by
  obtain ⟨learner, σ, cx, k, resolving, worked, rfl⟩ :=
    computed_of_answer sorted.weighted answered computed
  obtain ⟨-, -, found, -, scores, groups⟩ := World.computation_ok worked
  have served := content_resolving sorted.among (brings_within keeps brings) resolving found
  have own : k.content.courseKey = cx.key := by
    refine courseKey_of_contentOf keeps sorted (fun x content => ?_) found
    rcases context_of_resolving resolving with ⟨i, -, opened⟩ | ⟨holder, held, kept, rfl | rfl⟩
    · exact courseKey_ofInputs opened content
    · exact sorted.contexts holder cx x kept content
    · exact sorted.contexts holder held x kept content
  obtain ⟨y, served', course, -, derived⟩ := World.groupsFor_from sorted.among.cache served
  have grouped : k.groups = y.gradedBlocksByFormat := by
    rw [groups, World.groups_groupsFor, derived]
  refine ⟨k.content, y, k.scores, served, own, served', course.trans own, own ▸ scores, ?_⟩
  rw [← grouped]
  rfl

end Step

/-- Nothing has been done yet over a directory that keeps its keys. -/
theorem Idle.sorted {c : Catalog} {states : Files → Prop}
    (keeps : ∀ files, states files → c.Keeps files) {s : Session} (idle : s.Idle)
    (empty : s.world.cache.entries = []) (weighted : s.engine.calculator = .weighted)
    {files : Files} (state : states files) (source : s.world.source = .catalog c files) :
    s.Sorted c states where
  source := ⟨files, state, source⟩
  contexts holder _ _ held := by cases (idle.contextAt? holder).symm.trans held
  among := idle.among empty (source ▸ Catalog.offers_serves keeps state)
  weighted := weighted

end Session

/-- **A catalog serves the course it is asked for as long as its files keep their keys.** Opened
on any directory, and over whatever becomes of the files:

* a load that succeeds gives what the file that defined the course at opening defines now, with
  a valid policy;
* every load for a key gives that course exactly if no indexed file has come to define another
  one, as is so of the directory it was opened on;
* while that is so, whatever is done, a grade computed for a course comes from content served
  for that course, groups of such content, and the learner's scores in that course. -/
theorem catalog_serves_own_course {opening : Files} {root : String} {c : Catalog}
    (opened : Catalog.openAt opening root = .ok c) :
    (∀ (w : World) files key, w.source = .catalog c files →
      (∀ x, (w.loadCourse key).1 = .ok x → ∃ d, c.Served opening files key d ∧ x = d.course) ∧
      ∀ x, (w.loadContent key).1 = .ok x → ∃ d, c.Served opening files key d ∧ x = d.content) ∧
    (∀ files, c.Keeps files ↔ ∀ (w : World) key, w.source = .catalog c files →
      (∀ x, (w.loadCourse key).1 = .ok x → x.key = key) ∧
      ∀ x, (w.loadContent key).1 = .ok x → x.courseKey = key) ∧
    c.Keeps opening ∧
    ∀ states : Files → Prop, (∀ files, states files → c.Keeps files) →
      ∀ (s : Session) files, s.Idle → s.world.cache.entries = [] →
      s.engine.calculator = .weighted → states files → s.world.source = .catalog c files →
      ∀ (steps : List Step) (step : Step), (∀ st ∈ steps, st.Brings c states) →
      step.Brings c states →
      let before := (s.run steps).2
      ∀ g persisted, (before.step step).1.grade? = some g → g.source = .computed persisted →
        ∃ x y scores, c.Serves states x ∧ x.courseKey = g.courseKey ∧
          c.Serves states y ∧ y.courseKey = g.courseKey ∧
          (before.world.scoresOf g.learner g.courseKey).1 = .ok scores ∧
          g = .ofBreakdown g.learner g.courseKey
            (Calculation.breakdown x.gradingPolicy y.gradedBlocksByFormat scores) persisted := by
  refine ⟨fun w files key source => ⟨fun x loaded => ?_, fun x loaded => ?_⟩,
    fun files => ⟨fun keeps w key source => ⟨fun x loaded => ?_, fun x loaded => ?_⟩,
      fun own key path d found reads => ?_⟩, Catalog.keeps_openAt opened,
    fun states keeps s files idle empty weighted state source steps step brings here => ?_⟩
  · obtain ⟨d, defined, rfl⟩ := World.defined_of_loadCourse loaded
    rw [source] at defined
    exact ⟨d, Catalog.served_of_definition opened defined, rfl⟩
  · obtain ⟨d, defined, rfl⟩ := World.defined_of_loadContent loaded
    rw [source] at defined
    exact ⟨d, Catalog.served_of_definition opened defined, rfl⟩
  · obtain ⟨d, defined, rfl⟩ := World.defined_of_loadCourse loaded
    rw [source] at defined
    exact keeps.key_eq defined
  · obtain ⟨d, defined, rfl⟩ := World.defined_of_loadContent loaded
    rw [source] at defined
    exact keeps.key_eq defined
  · let w : World := { source := .catalog c files }
    have defined : w.source.definition key = .ok d := Catalog.definition_ok.2 ⟨path, found, reads⟩
    have loaded : (w.loadCourse key).1 = .ok d.course := by
      simp only [World.loadCourse, defined]
      rfl
    exact (own w key rfl).1 d.course loaded
  · have sorted := (idle.sorted keeps empty weighted state source).run keeps brings
    exact fun g persisted answered computed =>
      Session.computed_within_course keeps sorted here answered computed

namespace Catalog.Sample

/-- A course file with one block of homework. -/
def text (key block : String) : String :=
  "key=\"" ++ key ++ "\"\nblocks=[\x7bid=\"" ++ block ++ "\",format=\"H\",graded=true\x7d]\n" ++
    "[grading_policy]\ncutoffs.P=0.5\ngraders=[\x7btype=\"H\",weight=1\x7d]\n"

/-- A directory with one course file. -/
def directory (text : String) : Files := { contents := [(["courses", "a.toml"], .text text)] }

/-- The catalog of the directory while its file defines the course a. -/
def catalog : Catalog := ⟨"courses", [(⟨"a"⟩, "courses/a.toml")]⟩

theorem openAt_directory : openAt (directory (text "a" "hw1")) "courses" = .ok catalog := by
  have evaluated : ((openAt (directory (text "a" "hw1")) "courses").toOption.map
      fun c => (c.root, c.index)) = some (catalog.root, catalog.index) := by decide +kernel
  cases opened : openAt (directory (text "a" "hw1")) "courses" with
  | error e =>
    rw [opened] at evaluated
    cases evaluated
  | ok c =>
    obtain ⟨root, index⟩ := c
    rw [opened] at evaluated
    cases evaluated
    rfl

/-- A learner with full marks on a block of a course, over the directory with this text. -/
def session (text : String) (key : CourseKey) (block : BlockId) : Session where
  engine := Gradebook.Sample.engine
  world := ({ source := .catalog catalog (directory text) } : World).record ⟨1⟩ key block
    Gradebook.Sample.score

/-- The file gets another block and stays the file of its course. -/
theorem catalog_serves_reworked_file :
    let states (files : Files) :=
      files = directory (text "a" "hw1") ∨ files = directory (text "a" "essay")
    let s := session (text "a" "hw1") ⟨"a"⟩ "hw1"
    let create : Step := .create Gradebook.Sample.learner (.ofKey ⟨"a"⟩)
    let before := (s.run [create, .publish (.catalog catalog (directory (text "a" "essay")))]).2
    ∃ g, (before.step create).1.grade? = some g ∧ g.courseKey = ⟨"a"⟩ ∧
      ∃ x y scores, catalog.Serves states x ∧ x.courseKey = g.courseKey ∧
        catalog.Serves states y ∧ y.courseKey = g.courseKey ∧
        (before.world.scoresOf g.learner g.courseKey).1 = .ok scores ∧
        g = .ofBreakdown g.learner g.courseKey
          (Calculation.breakdown x.gradingPolicy y.gradedBlocksByFormat scores) false := by
  intro states s create before
  have named (block : String) (h : (CourseDefinition.inFile (directory (text "a" block))
      "courses/a.toml").toOption.map (·.key) = some ⟨"a"⟩) :
      catalog.Keeps (directory (text "a" block)) := by
    intro key path d found reads
    simp only [catalog, Assoc.find?_cons, Assoc.find?_nil] at found
    split at found
    · next same =>
      cases found
      rw [reads] at h
      exact (Option.some.inj h).trans same
    · cases found
  have keeps (files : Files) (state : states files) : catalog.Keeps files := by
    rcases state with rfl | rfl
    · exact named "hw1" (by decide +kernel)
    · exact named "essay" (by decide +kernel)
  have creates : (Step.create Gradebook.Sample.learner (.ofKey ⟨"a"⟩)).Brings catalog states := by
    refine ⟨fun i x same content => ?_, fun d same => ?_, fun source same => ?_⟩
    · cases same
      cases content
    · cases same
    · cases same
  have brings : ∀ st ∈ [create, .publish (.catalog catalog (directory (text "a" "essay")))],
      st.Brings catalog states := by
    intro st among
    rcases List.mem_cons.1 among with rfl | last
    · exact creates
    · rw [List.mem_singleton.1 last]
      refine ⟨fun i x same => ?_, fun d same => ?_, fun source same => ?_⟩
      · cases same
      · cases same
      · cases same
        exact ⟨_, .inr rfl, rfl⟩
  have graded : ((before.step create).1.grade?.map fun g => (g.courseKey, g.source)) =
      some (⟨"a"⟩, .computed false) := by decide +kernel
  obtain ⟨g, answered, same⟩ := Option.map_eq_some_iff.1 graded
  obtain ⟨course, computed⟩ := Prod.mk.inj same
  refine ⟨g, answered, course, ?_⟩
  exact (catalog_serves_own_course openAt_directory).2.2.2 states keeps s _ ⟨rfl, rfl⟩ rfl rfl
    (.inl rfl) rfl _ create brings creates g false answered computed

/-- **An edited file serves another course.** Once the file of the course a has come to define b,
loads for a give b, and a learner without a score in a passes it on the score in b. -/
theorem edited_file_serves_other_course :
    openAt (directory (text "a" "hw1")) "courses" = .ok catalog ∧
    let s := session (text "b" "hw2") ⟨"b"⟩ "hw2"
    (s.world.loadCourse ⟨"a"⟩).1.toOption.map (·.key) = some ⟨"b"⟩ ∧
      (s.world.loadContent ⟨"a"⟩).1.toOption.map (·.courseKey) = some ⟨"b"⟩ ∧
      (s.world.scoresOf ⟨1⟩ ⟨"a"⟩).1.toOption.map (·.entries) = some [] ∧
      (s.step (.create Gradebook.Sample.learner (.ofKey ⟨"a"⟩))).1.grade?.map
        (fun g => (g.courseKey, g.passed, g.source)) =
        some (⟨"a"⟩, true, .computed false) :=
  ⟨openAt_directory, by decide +kernel⟩

end Catalog.Sample

end Gradebook
