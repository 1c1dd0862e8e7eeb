/-
# Gradebook.Proofs.BatchSnapshot — what the grades of a batch are computed from

A batch holds its own content, but the groups of its blocks come from derived data that all
operations share. `Session.Among S` is what keeps the two together: every content at hand,
on offer or behind derived data is one of `S`, and what is kept for a course and a version
are the groups of such a content with that version.

If contents of one course and one named version have the same blocks, a batch over a named
version therefore computes from its own content. A course without a version has one entry for
all its contents: there the groups are the batch's own exactly when no others are kept
(`batch_computes_from_own_content`), and an edit between two operations is enough to keep
others.
-/
import Gradebook.Proofs.Journal

namespace Gradebook

set_option autoImplicit false

/-- Contents of one course and one named version have the same blocks. -/
def VersionsName (S : ContentStructure → Prop) : Prop :=
  ∀ x y, S x → S y → x.courseKey = y.courseKey → x.version = y.version → x.version ≠ none →
    x.blocks = y.blocks

/-- The source offers contents of `S` only. -/
def ContentSource.Offers (S : ContentStructure → Prop) (source : ContentSource) : Prop :=
  ∀ key d, source.definition key = .ok d → S d.content

/-- What is kept for a course and a version are the groups of a content of `S`. -/
def DerivedCache.From (S : ContentStructure → Prop) (cache : DerivedCache) : Prop :=
  ∀ key entry, Assoc.find? key cache.entries = some entry →
    ∃ x, S x ∧ x.courseKey = key ∧ x.version = entry.version ∧
      entry.groups = x.gradedBlocksByFormat

/-- The step brings in contents of `S` only. -/
structure Step.Within (S : ContentStructure → Prop) (step : Step) : Prop where
  inputs : ∀ i x, step.inputs? = some i → i.content = some x → S x
  defined : ∀ d, step = .define d → S d.content
  published : ∀ source, step = .publish source → source.Offers S

variable {S : ContentStructure → Prop}

theorem ContentSource.offers_empty : (ContentSource.shelf []).Offers S :=
  fun _ _ found => by cases found

theorem ContentSource.Offers.define {source : ContentSource} (h : source.Offers S)
    {d : CourseDefinition} (new : S d.content) : (source.define d).Offers S := by
  cases source with
  | catalog c files => exact h
  | shelf definitions =>
    intro key d' found
    simp only [ContentSource.define, ContentSource.definition, Shelf.define,
      Assoc.find?_put] at found
    by_cases same : d.key = key
    · rw [if_pos same] at found
      cases found
      exact new
    · rw [if_neg same] at found
      exact h key d' found

namespace DerivedCache

theorem From.clear {cache : DerivedCache} (h : cache.From S) (key : CourseKey) :
    (cache.clear key).From S := by
  intro key' entry found
  simp only [DerivedCache.clear, Assoc.find?_erase] at found
  split at found
  · cases found
  · exact h key' entry found

/-- Asking for the groups of a content keeps them at most. -/
theorem From.groups {cache : DerivedCache} (h : cache.From S) {x : ContentStructure} (of : S x) :
    (cache.groups x.courseKey x.version fun _ => x.gradedBlocksByFormat).2.2.From S := by
  unfold DerivedCache.groups
  split
  · exact h
  · intro key entry found
    simp only [Assoc.find?_put] at found
    split at found
    · next same =>
      cases found
      exact ⟨x, of, same, rfl, rfl⟩
    · exact h key entry found

/-- The groups asked for are those kept for the version, or the content's own. -/
theorem groups_eq (cache : DerivedCache) (key : CourseKey) (version : Option String)
    (built : GradedBlocks) :
    (cache.groups key version fun _ => built).1 = (cache.hit? key version).getD built := by
  unfold DerivedCache.groups
  split
  · next groups hit =>
    rw [hit]
    rfl
  · next miss =>
    rw [miss]
    rfl

theorem From.hit {cache : DerivedCache} (h : cache.From S) {key : CourseKey}
    {version : Option String} {groups : GradedBlocks} (hit : cache.hit? key version = some groups) :
    ∃ x, S x ∧ x.courseKey = key ∧ x.version = version ∧ groups = x.gradedBlocksByFormat := by
  unfold DerivedCache.hit? at hit
  split at hit
  · next entry found =>
    split at hit
    · next same =>
      cases hit
      obtain ⟨x, of, course, named, derived⟩ := h key entry found
      exact ⟨x, of, course, named.trans same, derived⟩
    · cases hit
  · cases hit

end DerivedCache

theorem World.loaded_of_offers {w : World} (offers : w.source.Offers S) {key : CourseKey}
    {x : ContentStructure} (loaded : (w.loadContent key).1 = .ok x) : S x := by
  simp only [World.loadContent] at loaded
  split at loaded
  · cases loaded
  · cases defined : w.source.definition key with
    | error cause =>
      rw [defined] at loaded
      cases loaded
    | ok d =>
      rw [defined] at loaded
      cases loaded
      exact offers key d defined

theorem World.content_of_offers {w : World} (offers : w.source.Offers S) {c : Context}
    (held : ∀ x, c.content? = some x → S x) {x : ContentStructure}
    (found : w.contentOf c = .ok x) : S x := by
  rw [World.contentOf] at found
  cases content : c.content? with
  | some y =>
    rw [content] at found
    cases found
    exact held _ content
  | none =>
    rw [content] at found
    exact World.loaded_of_offers offers found

namespace Session

/-! ## Every content is one of `S` -/

structure Among (S : ContentStructure → Prop) (s : Session) : Prop where
  source : s.world.source.Offers S
  cache : s.world.cache.From S
  contexts : ∀ holder c x, s.contextAt? holder = some c → c.content? = some x → S x
  /-- A batch holds its content from the start. -/
  batches : ∀ n c, s.contextAt? (.batch n) = some c → ∃ x, c.content? = some x

theorem content?_ofInputs {learner : Option LearnerId} {i : CourseInputs} {c : Context}
    (h : Context.ofInputs learner i = .ok c) : c.content? = i.content := by
  rw [Context.ofInputs_eq h]

section Step

variable {s : Session} (among : s.Among S) {step : Step} (within : step.Within S)
include among within

theorem content_opened {learner : Option LearnerId} {i : CourseInputs} {c : Context}
    (inputs : step.inputs? = some i) (opened : Context.ofInputs learner i = .ok c)
    {x : ContentStructure} (found : s.world.contentOf c = .ok x) : S x := by
  refine World.content_of_offers among.source (fun y held => ?_) found
  rw [content?_ofInputs opened] at held
  exact within.inputs i y inputs held

theorem content_resolving {learner : Learner} {strategy : Strategy} {c : Context}
    (h : s.resolving? step = some (learner, strategy, c)) {x : ContentStructure}
    (found : s.world.contentOf c = .ok x) : S x := by
  rcases context_of_resolving h with ⟨i, inputs, opened⟩ | ⟨holder, held, kept, rfl | rfl⟩
  · exact content_opened among within inputs opened found
  · exact World.content_of_offers among.source (fun y => among.contexts holder c y kept) found
  · exact World.content_of_offers among.source (fun y => among.contexts holder held y kept) found

end Step

theorem Among.step {s : Session} (among : s.Among S) {step : Step} (within : step.Within S)
    (weighted : s.engine.calculator = .weighted) : (s.step step).2.Among S where
  source := by
    cases resolving : s.resolving? step with
    | none =>
      cases (step_passed resolving).1 with
      | quiet h => exact h.source ▸ among.source
      | defined d of h => exact h ▸ among.source.define (within.defined d of)
      | published source of h => exact h ▸ within.published source of
      | cleared | scored | disturbed | clocked => next h => exact h ▸ among.source
    | some graded =>
      exact (sameSource_of_resolving resolving).source ▸ among.source
  cache := by
    cases resolving : s.resolving? step with
    | none =>
      cases (step_passed resolving).1 with
      | quiet h => exact h.cache ▸ among.cache
      | cleared key h => exact h ▸ among.cache.clear key
      | scored | defined | published | disturbed | clocked => next h => exact h ▸ among.cache
    | some graded =>
      obtain ⟨learner, strategy, c⟩ := graded
      obtain ⟨quiet, -⟩ := step_resolving resolving
      rcases GradeEngine.cache_resolveHere weighted s.world learner c strategy with
        same | ⟨x, found, asked⟩
      · exact (quiet.cache.trans same) ▸ among.cache
      · rw [quiet.cache, asked]
        exact among.cache.groups (content_resolving among within resolving found)
  contexts := by
    intro holder c x held content
    cases step_stems held with
    | kept before follows =>
      exact World.content_of_offers among.source (fun y => among.contexts _ _ y before)
        (follows.content x content)
    | forked learner before => exact among.contexts _ _ x before content
    | opened inputs opened =>
      exact content_opened among within inputs opened (by rw [World.contentOf, content])
    | started inputs opened follows started =>
      exact content_opened among within inputs opened (follows.content x content)
  batches := by
    intro n c held
    cases step_stems held with
    | kept before follows =>
      obtain ⟨x, content⟩ := among.batches n _ before
      exact ⟨x, follows.grows.content x content⟩
    | started inputs opened follows content => exact content

theorem Among.run {s : Session} (among : s.Among S) (weighted : s.engine.calculator = .weighted)
    {steps : List Step} (within : ∀ step ∈ steps, step.Within S) : (s.run steps).2.Among S := by
  have kept := run_keeps (P := fun s => s.Among S ∧ s.engine.calculator = .weighted)
    (fun s step inside ⟨among, weighted⟩ => ⟨among.step (within step inside) weighted,
      by rw [step_engine, weighted]⟩) ⟨among, weighted⟩
  exact kept.1

theorem Idle.among {s : Session} (idle : s.Idle) (empty : s.world.cache.entries = [])
    (offers : s.world.source.Offers S) : s.Among S where
  source := offers
  cache := by
    intro key entry found
    rw [empty] at found
    cases found
  contexts := fun holder _ _ held => by cases (idle.contextAt? holder).symm.trans held
  batches := fun n _ held => by cases (idle.contextAt? (.batch n)).symm.trans held

end Session

/-! ## The groups a batch computes from -/

namespace World

/-- The world with no derived data. -/
def withoutDerived (w : World) : World := { w with cache := {} }

/-- The groups that a computation from this content works with. -/
def groupsFor (w : World) (x : ContentStructure) : GradedBlocks :=
  (w.cache.hit? x.courseKey x.version).getD x.gradedBlocksByFormat

theorem groups_groupsFor (w : World) (x : ContentStructure) :
    (w.groups x.courseKey x.version x.gradedBlocksByFormat).1 = w.groupsFor x :=
  DerivedCache.groups_eq w.cache x.courseKey x.version x.gradedBlocksByFormat

theorem groupsFor_from {w : World} (cache : w.cache.From S) {x : ContentStructure} (of : S x) :
    ∃ y, S y ∧ y.courseKey = x.courseKey ∧ y.version = x.version ∧
      w.groupsFor x = y.gradedBlocksByFormat := by
  rw [groupsFor]
  cases hit : w.cache.hit? x.courseKey x.version with
  | none => exact ⟨x, of, rfl, rfl, rfl⟩
  | some groups => exact cache.hit hit

/-- Where the course and version of a content name its blocks, the groups are its own. -/
theorem groupsFor_own {w : World} (cache : w.cache.From S) {x : ContentStructure} (of : S x)
    (blocks : ∀ y, S y → y.courseKey = x.courseKey → y.version = x.version → y.blocks = x.blocks) :
    w.groupsFor x = x.gradedBlocksByFormat := by
  obtain ⟨y, of', course, version, derived⟩ := groupsFor_from cache of
  rw [derived, ContentStructure.gradedBlocksByFormat, blocks y of' course version]
  rfl

/-- A named version has the groups of its own content. -/
theorem groupsFor_named {w : World} (cache : w.cache.From S) (named : VersionsName S)
    {x : ContentStructure} (of : S x) (version : x.version ≠ none) :
    w.groupsFor x = x.gradedBlocksByFormat :=
  groupsFor_own cache of fun y of' course same => named y x of' of course same (same ▸ version)

/-- What is computed from for a context that holds a content. -/
theorem computation_held {w : World} {learner : LearnerId} {c : Context} {x : ContentStructure}
    (content : c.content? = some x) {k : Computation} (computed : w.computation learner c = .ok k) :
    k.content = x ∧ (w.scoresOf learner x.courseKey).1 = .ok k.scores ∧
      k.groups = w.groupsFor x := by
  obtain ⟨-, -, found, -, scores, groups⟩ := computation_ok computed
  simp only [contentOf, content, Except.ok.injEq] at found
  subst found
  exact ⟨rfl, scores, groups.trans (groups_groupsFor w k.content)⟩

/-- Without derived data the same is computed from the content's own groups. -/
theorem computation_withoutDerived (w : World) (learner : LearnerId) (c : Context) :
    w.withoutDerived.computation learner c = (w.computation learner c).map fun k =>
      { k with groups := k.content.gradedBlocksByFormat } := by
  have content : w.withoutDerived.contentOf c = w.contentOf c :=
    (Follows.refl w c).contentOf_eq ⟨rfl, rfl⟩
  rw [computation, computation, content]
  cases w.contentOf c with
  | error f => rfl
  | ok x =>
    have scores : (w.withoutDerived.scoresOf learner x.courseKey).1 =
        (w.scoresOf learner x.courseKey).1 :=
      scoresOf_eq (by rfl) (by rfl) learner x.courseKey
    cases valid : x.gradingPolicy.validate with
    | error cause => simp only [valid, Except.map]
    | ok u =>
      simp only [valid, scores]
      cases (w.scoresOf learner x.courseKey).1 with
      | error cause => rfl
      | ok scores => rfl

/-- Derived data make no difference exactly if they are the content's own. -/
theorem computation_withoutDerived_iff {w : World} {learner : LearnerId} {c : Context}
    {k : Computation} (computed : w.computation learner c = .ok k) :
    w.withoutDerived.computation learner c = .ok k ↔
      k.groups = k.content.gradedBlocksByFormat := by
  rw [computation_withoutDerived, computed, Except.map, Except.ok.injEq]
  constructor
  · intro same
    exact (congrArg Computation.groups same).symm
  · intro own
    rw [← own]

theorem weighted_withoutDerived {w : World} {learner : LearnerId} {c : Context}
    (own : ∀ k, w.computation learner c = .ok k → k.groups = k.content.gradedBlocksByFormat) :
    (w.look (Calculator.weighted learner) c).1.1 =
      (w.withoutDerived.look (Calculator.weighted learner) c).1.1 := by
  rw [look_weighted, look_weighted]
  cases computed : w.computation learner c with
  | error f =>
    rw [computation_withoutDerived, computed]
    rfl
  | ok k => rw [(computation_withoutDerived_iff computed).2 (own k computed)]

end World

namespace Session

/-- **The grades of a batch are computed from its own content wherever versions name the
blocks.** At every call of `next`, after any history, the batch holds a content. What the
calculator works with are that content, the learner's scores of the moment and the groups of
`World.groupsFor`; an answer that is computed is the breakdown of these. The groups are those of
a content of the same course and version, and so the content's own for a named version. In
general they are the content's own exactly if no others are kept for the course and the version,
and then the calculator ends as it does without derived data. -/
theorem batch_computes_from_own_content {s₀ s : Session}
    (weighted : s₀.engine.calculator = .weighted) (idle : s₀.Idle)
    (empty : s₀.world.cache.entries = []) (named : VersionsName S)
    (offers : s₀.world.source.Offers S) {steps : List Step}
    (within : ∀ step ∈ steps, step.Within S) (reached : (s₀.run steps).2 = s) {n : Nat} {b : Batch}
    {learner : Learner} {rest : Supply} (held : s.batches[n]? = some b)
    (supply : b.supply = some learner :: rest) :
    ∃ x, b.context.content? = some x ∧
      (∀ g kept, (s.step (.nextResult n)).1.grade? = some g → g.source = .computed kept →
        ∃ scores, (s.world.scoresOf learner.id x.courseKey).1 = .ok scores ∧
          g = .ofBreakdown learner.id b.context.key
            (Calculation.breakdown x.gradingPolicy (s.world.groupsFor x) scores) kept) ∧
      (∃ y, S y ∧ y.courseKey = x.courseKey ∧ y.version = x.version ∧
        s.world.groupsFor x = y.gradedBlocksByFormat) ∧
      (x.version ≠ none → s.world.groupsFor x = x.gradedBlocksByFormat) ∧
      (s.world.groupsFor x = x.gradedBlocksByFormat →
        (s.world.look (s.engine.calculator learner.id) (b.context.forLearner learner.id)).1.1 =
          (s.world.withoutDerived.look (s.engine.calculator learner.id)
            (b.context.forLearner learner.id)).1.1) ∧
      ∀ k, s.world.computation learner.id (b.context.forLearner learner.id) = .ok k →
        (s.world.withoutDerived.computation learner.id (b.context.forLearner learner.id) = .ok k ↔
          s.world.groupsFor x = x.gradedBlocksByFormat) := by
  have among : s.Among S := reached ▸ (idle.among empty offers).run weighted within
  have weighted : s.engine.calculator = .weighted := by rw [← reached, run_engine, weighted]
  have kept := contextAt?_batch held
  obtain ⟨x, content⟩ := among.batches n b.context kept
  have of : S x := among.contexts (.batch n) b.context x kept content
  have computes {k : Computation}
      (computed : s.world.computation learner.id (b.context.forLearner learner.id) = .ok k) :=
    World.computation_held content computed
  refine ⟨x, content, ?_, World.groupsFor_from among.cache of,
    World.groupsFor_named among.cache named of, ?_, ?_⟩
  · intro g persisted answered source
    obtain ⟨learner', strategy, c, k, resolving, computed, rfl⟩ :=
      computed_of_answer weighted answered source
    obtain ⟨b', rest', held', supply', -, rfl⟩ := batch_of_resolving resolving
    cases held.symm.trans held'
    cases supply.symm.trans supply'
    obtain ⟨rfl, scores, groups⟩ := computes computed
    refine ⟨k.scores, scores, ?_⟩
    rw [← groups]
    rfl
  · intro own
    rw [weighted]
    apply World.weighted_withoutDerived
    intro k computed
    obtain ⟨rfl, -, groups⟩ := computes computed
    rw [groups, own]
  · intro k computed
    obtain ⟨rfl, -, groups⟩ := computes computed
    rw [World.computation_withoutDerived_iff computed, groups]

/-- A learner attempts the homework and is graded, the course is edited, and a batch begins. -/
def editedBeforeBatch (version : Option String) : List Step :=
  [.record Sample.learner.id Sample.key "hw1" Sample.score,
    .create Sample.learner (.ofKey Sample.key), .define (Sample.course version ["hw2"]),
    .startBatch [some Sample.learner] (.ofKey Sample.key) .forceUpdate]

theorem within_editedBeforeBatch {version : Option String}
    (edited : S (Sample.course version ["hw2"]).content) :
    ∀ step ∈ editedBeforeBatch version, step.Within S := by
  intro step inside
  simp only [editedBeforeBatch, List.mem_cons, List.not_mem_nil, or_false] at inside
  rcases inside with rfl | rfl | rfl | rfl
  · exact ⟨by rintro _ _ ⟨⟩, by rintro _ ⟨⟩, by rintro _ ⟨⟩⟩
  · exact ⟨by rintro _ _ ⟨⟩ ⟨⟩, by rintro _ ⟨⟩, by rintro _ ⟨⟩⟩
  · refine ⟨by rintro _ _ ⟨⟩, ?_, by rintro _ ⟨⟩⟩
    rintro _ ⟨⟩
    exact edited
  · exact ⟨by rintro _ _ ⟨⟩ ⟨⟩, by rintro _ ⟨⟩, by rintro _ ⟨⟩⟩

/-- The edit is a new version: its contents are told apart, and the batch has its own groups. -/
theorem batch_computes_from_new_version : ∃ (s : Session) (b : Batch) (x : ContentStructure),
    ((sample (Sample.course (some "v1") ["hw1"])).run (editedBeforeBatch (some "v2"))).2 = s ∧
      s.batches[0]? = some b ∧ b.context.content? = some x ∧ x.version = some "v2" ∧
      s.world.groupsFor x = x.gradedBlocksByFormat := by
  let Drafts (x : ContentStructure) : Prop := x = (Sample.course (some "v1") ["hw1"]).content ∨
    x = (Sample.course (some "v2") ["hw2"]).content
  have named : VersionsName Drafts := by
    rintro x y (rfl | rfl) (rfl | rfl) - version -
    · rfl
    · exact absurd version (by decide)
    · exact absurd version (by decide)
    · rfl
  have started : ((sample (Sample.course (some "v1") ["hw1"])).run
      (editedBeforeBatch (some "v2"))).2.batches[0]?.map (fun b =>
        (b.supply, b.context.content?.map (·.version))) =
      some ([some Sample.learner], some (some "v2")) := by
    decide +kernel
  obtain ⟨b, held, seen⟩ := Option.map_eq_some_iff.1 started
  obtain ⟨supply, version⟩ := Prod.mk.inj seen
  obtain ⟨x, content, -, -, own, -⟩ := batch_computes_from_own_content (S := Drafts) rfl
    (idle_sample _) rfl named (ContentSource.offers_empty.define (.inl rfl))
    (within_editedBeforeBatch (.inr rfl)) rfl held supply
  rw [content, Option.map_some, Option.some.injEq] at version
  refine ⟨_, b, x, rfl, held, content, version, own ?_⟩
  rw [version]
  exact Option.some_ne_none "v2"

/-- The edited course has no version, as before: the batch computes from the groups of before,
although no content has a named version. -/
theorem batch_computes_from_old_groups : ∃ s : Session,
    ((sample (Sample.course none ["hw1"])).run (editedBeforeBatch none)).2 = s ∧
      (VersionsName fun x => x.version = none) ∧
      (∀ step ∈ editedBeforeBatch none, step.Within fun x => x.version = none) ∧
      (s.step (.nextResult 0)).1.grade?.map (fun g => (g.source, g.letterGrade, g.attempted)) =
        some (.computed true, some "Pass", true) ∧
      s.batches[0]?.map (fun b => (b.context.content?.map (·.blocks),
        (s.world.withoutDerived.look (s.engine.calculator Sample.learner.id)
          (b.context.forLearner Sample.learner.id)).1.1.toOption.map
            fun g => (g.letterGrade, g.attempted))) =
        some (some (Sample.course none ["hw2"]).blocks, some (none, false)) := by
  refine ⟨_, rfl, fun x y unversioned _ _ _ named => absurd unversioned named,
    within_editedBeforeBatch rfl, ?_, ?_⟩
  · decide +kernel
  · decide +kernel

end Session

end Gradebook
