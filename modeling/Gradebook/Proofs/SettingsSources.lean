/-
# Gradebook.Proofs.SettingsSources — what settings are loaded from

The layers of a workspace are the defaults, three files and the environment, a missing file being
a layer without entries (`lays_of_workspaceLayers`). What they come to follows the last of them
that sets a value (`Settings.follow_of_ofLayers`), is refused if it has faults, and is loaded
otherwise (`loaded_settings_follow`).

The format of a file is told by its extension, and what stands before the extension of a stage's
file is the name of the stage. If that is empty, or ends in a slash, there is only a name with a
point at its beginning and no extension. Such a file is there and is passed over all the same
(`nameless_stage_is_passed_over`); named explicitly it would be refused.
-/
import Gradebook.Proofs.LayeredSettings
import Mathlib.Data.List.Induction

namespace Gradebook

set_option autoImplicit false

open Document (ok_of_bind)

/-! ## The extension of a path -/

namespace Text

theorem splitAt_of_notMem {separator : Char} {text : List Char} (h : separator ∉ text) :
    splitAt separator text = [text] := by
  induction text with
  | nil => rfl
  | cons c rest ih =>
    have differ : c ≠ separator := fun same => h (by simp [same])
    have later := ih fun member => h (List.mem_cons_of_mem c member)
    rw [splitAt, if_neg differ, later]

theorem splitAt_ne_nil (separator : Char) (text : List Char) : splitAt separator text ≠ [] := by
  cases text with
  | nil => simp [splitAt]
  | cons c rest =>
    rw [splitAt]
    split
    · simp
    · split <;> simp

theorem splitAt_append (separator : Char) (front back : List Char) :
    splitAt separator (front ++ separator :: back) =
      splitAt separator front ++ splitAt separator back := by
  induction front with
  | nil => simp [splitAt]
  | cons c rest ih =>
    rw [List.cons_append, splitAt, splitAt, ih]
    split
    · rfl
    · cases pieces : splitAt separator rest with
      | nil => exact absurd pieces (splitAt_ne_nil separator rest)
      | cons piece pieces => rfl

/-- The last piece of a text is what follows its last separator. -/
theorem exists_splitAt_append (separator : Char) (text : List Char) :
    ∃ front last, (last = [] ↔ text.getLast?.all (· = separator)) ∧
      ∀ tail, separator ∉ tail → splitAt separator (text ++ tail) = front ++ [last ++ tail] := by
  -- from the end: a separator opens an empty last piece, any other character lengthens it
  induction text using List.reverseRecOn with
  | nil => exact ⟨[], [], by simp, fun tail free => splitAt_of_notMem free⟩
  | append_singleton rest c ih =>
    by_cases same : c = separator
    · subst same
      refine ⟨splitAt c rest, [], by simp, fun tail free => ?_⟩
      rw [List.append_assoc, List.singleton_append, splitAt_append, splitAt_of_notMem free]
      rfl
    · obtain ⟨front, last, -, split⟩ := ih
      refine ⟨front, last ++ [c], by simp [same], fun tail free => ?_⟩
      rw [List.append_assoc, split _ (by simp [Ne.symm same, free]), List.append_assoc]

theorem eq_nil_of_splitAt {separator : Char} {text : List Char}
    (h : splitAt separator text = [[]]) : text = [] := by
  cases text with
  | nil => rfl
  | cons c rest =>
    rw [splitAt] at h
    split at h
    · exact absurd (List.cons.inj h).2 (splitAt_ne_nil separator rest)
    · split at h <;> cases h

end Text

namespace Path

/-- A text that ends in a name has it for its file name, with what stands before it up to a
slash. -/
theorem fileName?_append (path : String) {tail : String} (free : '/' ∉ tail.toList)
    (long : 2 < tail.toList.length) :
    ∃ last, (last = [] ↔ path.toList.getLast?.all (· = '/')) ∧
      fileName? (path ++ tail) = some (String.ofList (last ++ tail.toList)) := by
  obtain ⟨front, last, empty, split⟩ := Text.exists_splitAt_append '/' path.toList
  refine ⟨last, empty, ?_⟩
  have differs (short : String) (h : short.toList.length ≤ 2) :
      String.ofList (last ++ tail.toList) ≠ short := by
    intro same
    have lengths := congrArg (·.toList.length) same
    simp only [String.toList_ofList, List.length_append] at lengths
    omega
  have named : Text.pieces '/' (path ++ tail) =
      front.map String.ofList ++ [String.ofList (last ++ tail.toList)] := by
    rw [Text.pieces, String.toList_append, split _ free, List.map_append]
    rfl
  generalize String.ofList (last ++ tail.toList) = name at differs named ⊢
  have kept : (parts (path ++ tail)).getLast? = some name := by
    rw [parts, named, List.filter_append]
    simp [differs "" (by decide), differs "." (by decide)]
  rw [fileName?, kept]
  exact if_neg (differs ".." (by decide))

/-- A name with `.toml` behind it has this extension, unless there is no name. -/
theorem extension?_append_toml (path : String) : extension? (path ++ ".toml") =
    if path.toList.getLast?.all (· = '/') then none else some "toml" := by
  obtain ⟨last, empty, named⟩ := fileName?_append path (show '/' ∉ ".toml".toList by decide)
    (by decide)
  have pieces : Text.pieces '.' (String.ofList (last ++ ".toml".toList)) =
      (Text.splitAt '.' last).map String.ofList ++ ["toml"] := by
    rw [Text.pieces, String.toList_ofList]
    rw [show ".toml".toList = '.' :: "toml".toList from rfl, Text.splitAt_append, List.map_append]
    rfl
  rw [extension?, named]
  simp only [Option.bind_eq_bind, Option.bind_some, pieces, List.reverse_append,
    List.reverse_singleton, List.singleton_append]
  by_cases nameless : last = []
  · rw [if_pos (empty.1 nameless), nameless]
    rfl
  · rw [if_neg fun none_before => nameless (empty.2 none_before)]
    -- the pieces before the last point are not a single empty one
    rw [← List.map_reverse]
    cases before : (Text.splitAt '.' last).reverse with
    | nil => exact absurd (List.reverse_eq_nil_iff.1 before) (Text.splitAt_ne_nil '.' last)
    | cons piece rest =>
      refine if_neg fun alone => nameless (@Text.eq_nil_of_splitAt '.' last ?_)
      obtain ⟨rfl, rfl⟩ : piece = [] ∧ rest = [] := by simpa using alone
      exact List.reverse_eq_iff.1 before

/-- Joining puts something before a name that is empty or ends in a slash. -/
theorem join_eq_append (base name : String) :
    ∃ front, join base name = front ++ name ∧ front.toList.getLast?.all (· = '/') = true := by
  unfold join
  by_cases absolute : isAbsolute name = true
  · rw [if_pos absolute]
    exact ⟨"", by simp, rfl⟩
  rw [if_neg absolute]
  by_cases open_end : (base.isEmpty || base.endsWith "/") = true
  · rw [if_pos open_end]
    refine ⟨base, rfl, ?_⟩
    rcases Bool.or_eq_true_iff.1 open_end with empty | slash
    · rw [String.isEmpty_iff.1 empty]
      rfl
    · rw [String.endsWith_eq_endsWith_toSlice, String.Slice.endsWith_string_iff] at slash
      obtain ⟨front, whole⟩ := slash
      rw [String.copy_toSlice] at whole
      rw [← whole]
      simp
  · rw [if_neg open_end]
    exact ⟨base ++ "/", rfl, by simp⟩

/-- In a directory too only a name before `.toml` makes it an extension. -/
theorem extension?_join_toml (base stage : String) : extension? (join base (stage ++ ".toml")) =
    if stage.toList.getLast?.all (· = '/') then none else some "toml" := by
  obtain ⟨front, joined, slash⟩ := join_eq_append base (stage ++ ".toml")
  rw [joined, ← String.append_assoc, extension?_append_toml, String.toList_append,
    List.getLast?_append]
  cases stage.toList.getLast? with
  | none => simp [slash]
  | some c => rfl

end Path

/-! ## The layer of a file -/

namespace Settings

/-- What a path to a settings file lays: what the text of the file says in the format of its
extension. A path to no file means one with an extension added. -/
def Gives (files : Files) (path : String) (layer : Layer) : Prop :=
  ∃ meant format text, fileMeant? files path = some (meant, format) ∧
    (files.leadsToFile path = true → meant = path) ∧ files.readText meant = .ok text ∧
      format.read text = .ok layer

theorem gives_of_fileLayer {files : Files} {optional : Bool} {path : String} {layer : Layer}
    (h : fileLayer files optional path = .ok layer) :
    optional = true ∧ layer = [] ∨ Gives files path layer := by
  have nothing {reason : String} (h : (if optional then .ok [] else
      .error (SettingsError.unreadable reason)) = Except.ok layer) :
      optional = true ∧ layer = [] := by
    split at h
    · next allowed =>
      cases h
      exact ⟨allowed, rfl⟩
    · cases h
  unfold fileLayer at h
  split at h
  · exact .inl (nothing h)
  · next meant format found =>
    split at h
    · exact .inl (nothing h)
    · next text read =>
      refine .inr ⟨meant, format, text, found, fun file => ?_, read, h⟩
      rw [fileMeant?, if_pos file] at found
      obtain ⟨extension, -, found⟩ := Option.bind_eq_some_iff.1 found
      obtain ⟨format', -, found⟩ := Option.bind_eq_some_iff.1 found
      cases found
      rfl

/-- What a path with the extension `toml` lays: nothing if the file is missing or is no text, and
otherwise what its text says. A directory of the name lays nothing, or what a file beside it
does. -/
structure Takes (files : Files) (path : String) (layer : Layer) : Prop where
  missing : files.exists? path = false → layer = []
  directory : files.leadsToFile path = false → layer = [] ∨ Gives files path layer
  noText : files.leadsToFile path = true → ∀ reason, files.readText path = .error reason →
    layer = []
  text : files.leadsToFile path = true → ∀ text, files.readText path = .ok text →
    FileFormat.toml.read text = .ok layer

/-- The layer of an optional file that may be missing. -/
def layerAt (files : Files) (path : String) : Except SettingsError Layer :=
  if files.exists? path then fileLayer files true path else .ok []

theorem exists_of_leadsToFile {files : Files} {path : String}
    (h : files.leadsToFile path = true) : files.exists? path = true := by
  unfold Files.leadsToFile at h
  unfold Files.exists?
  split at h
  · cases h
  · next place found =>
    rw [found]
    rfl

theorem gives_of_layerAt {files : Files} {path : String} {layer : Layer}
    (h : layerAt files path = .ok layer) : layer = [] ∨ Gives files path layer := by
  unfold layerAt at h
  split at h
  · exact (gives_of_fileLayer h).imp_left And.right
  · cases h
    exact .inl rfl

theorem takes_of_layerAt {files : Files} {path : String} (named : Path.extension? path = some "toml")
    {layer : Layer} (h : layerAt files path = .ok layer) : Takes files path layer := by
  have meant (file : files.leadsToFile path = true) : fileMeant? files path = some (path, .toml) := by
    rw [fileMeant?, if_pos file, named]
    rfl
  have given := gives_of_layerAt h
  unfold layerAt at h
  constructor
  · intro missing
    rw [missing] at h
    cases h
    rfl
  · intro _
    exact given
  · intro file reason unread
    rw [if_pos (exists_of_leadsToFile file), fileLayer, meant file] at h
    simp only [unread, if_true] at h
    cases h
    rfl
  · intro file text read
    rw [if_pos (exists_of_leadsToFile file), fileLayer, meant file] at h
    simpa only [read] using h

/-- A file without an extension is passed over. -/
theorem layerAt_unnamed {files : Files} {path : String} (unnamed : Path.extension? path = none)
    {layer : Layer} (h : layerAt files path = .ok layer) :
    layer = [] ∨ files.leadsToFile path = false ∧ Gives files path layer := by
  refine (gives_of_layerAt h).imp_right fun given => ⟨?_, given⟩
  obtain ⟨meant, format, -, found, -⟩ := given
  refine Bool.eq_false_iff.2 fun file => ?_
  rw [fileMeant?, if_pos file, unnamed] at found
  cases found

end Settings

/-! ## The layers of a workspace -/

/-- It does not matter where one layer ends and the next begins. -/
theorem Layer.stack_eq_flatten (layers : List Layer) :
    stack layers = laidOver layers.flatten (.table []) := by
  unfold stack
  generalize Tree.table [] = below
  induction layers generalizing below with
  | nil => rfl
  | cons layer rest ih =>
    rw [List.foldlM_cons, List.flatten_cons]
    unfold laidOver at ih ⊢
    rw [List.foldlM_append]
    exact congrArg _ (funext fun laid => ih laid)

namespace Settings

/-- Passing over missing files is giving them layers without entries. -/
theorem exists_layersAt {files : Files} {paths : List String} {layers : List Layer}
    (h : (paths.filter files.exists?).mapM (fileLayer files true) = .ok layers) :
    ∃ all, List.Forall₂ (fun path layer => layerAt files path = .ok layer) paths all ∧
      all.flatten = layers.flatten := by
  induction paths generalizing layers with
  | nil =>
    cases h
    exact ⟨[], .nil, rfl⟩
  | cons path rest ih =>
    by_cases there : files.exists? path = true
    · rw [List.filter_cons_of_pos there, List.mapM_cons] at h
      obtain ⟨layer, head, h⟩ := ok_of_bind h
      obtain ⟨others, tail, h⟩ := ok_of_bind h
      cases h
      obtain ⟨all, each, same⟩ := ih tail
      refine ⟨layer :: all, .cons ?_ each, ?_⟩
      · rw [layerAt, if_pos there, head]
      · rw [List.flatten_cons, List.flatten_cons, same]
    · rw [List.filter_cons_of_neg there] at h
      obtain ⟨all, each, same⟩ := ih h
      refine ⟨[] :: all, .cons ?_ each, ?_⟩
      · rw [layerAt, if_neg there]
      · rw [List.flatten_cons, List.nil_append, same]

/-- The stage of development a workspace is in. -/
def stageOf (env : Environment) : String := (env.find? "COURSEGRADE_ENV").getD "development"

/-- The file of a workspace. -/
def ownPath (workspace : String) : String :=
  Path.join (Path.join workspace "config") "config.toml"

/-- The file of the stage of a workspace. -/
def stagePath (env : Environment) (workspace : String) : String :=
  Path.join (Path.join workspace "config") (stageOf env ++ ".toml")

/-- A stage whose file has a name before its extension. -/
def Named (stage : String) : Prop := stage ≠ "" ∧ stage.toList.getLast? ≠ some '/'

instance (stage : String) : Decidable (Named stage) := inferInstanceAs (Decidable (_ ∧ _))

/-- What the files of a workspace lay: the user's, its own, and that of its stage if the stage has
a name. Without one the file of the stage is passed over. -/
structure Lays (files : Files) (env : Environment) (workspace : String)
    (global base stage : Layer) : Prop where
  user : ∀ path, globalPath? env = some path → Takes files path global
  noUser : globalPath? env = none → global = []
  own : Takes files (ownPath workspace) base
  staged : Named (stageOf env) → Takes files (stagePath env workspace) stage
  unnamed : ¬Named (stageOf env) → stage = [] ∨
    files.leadsToFile (stagePath env workspace) = false ∧ Gives files (stagePath env workspace) stage

theorem extension?_ownPath (workspace : String) :
    Path.extension? (ownPath workspace) = some "toml" :=
  (Path.extension?_join_toml _ "config").trans (by decide)

theorem extension?_globalPath {env : Environment} {path : String}
    (h : globalPath? env = some path) : Path.extension? path = some "toml" := by
  obtain ⟨directory, -, rfl⟩ := Option.map_eq_some_iff.1 h
  exact (Path.extension?_join_toml _ "config").trans (by decide)

theorem named_iff (stage : String) :
    Named stage ↔ ¬stage.toList.getLast?.all (· = '/') = true := by
  unfold Named
  cases last : stage.toList.getLast? with
  | none => simp [String.toList_eq_nil_iff.1 (List.getLast?_eq_none_iff.1 last)]
  | some c =>
    have some_there : stage ≠ "" := by
      rintro rfl
      cases last
    simp [some_there]

theorem extension?_stagePath (env : Environment) (workspace : String) :
    Path.extension? (stagePath env workspace) =
      if Named (stageOf env) then some "toml" else none := by
  rw [stagePath, Path.extension?_join_toml]
  simp only [named_iff, ite_not]

/-- What is loaded for the three paths of a workspace. -/
theorem lays_of_layersAt {files : Files} {env : Environment} {workspace : String}
    {all : List Layer} (h : List.Forall₂ (fun path layer => layerAt files path = .ok layer)
      ((globalPath? env).toList ++ workspacePaths env workspace) all) :
    ∃ global base stage, Lays files env workspace global base stage ∧
      all.flatten = global ++ base ++ stage := by
  have extension := extension?_stagePath env workspace
  have last {stage : Layer} (h : layerAt files (stagePath env workspace) = .ok stage) :
      (Named (stageOf env) → Takes files (stagePath env workspace) stage) ∧
      (¬Named (stageOf env) → stage = [] ∨
        files.leadsToFile (stagePath env workspace) = false ∧
          Gives files (stagePath env workspace) stage) := by
    constructor
    · intro named
      rw [if_pos named] at extension
      exact takes_of_layerAt extension h
    · intro nameless
      rw [if_neg nameless] at extension
      exact layerAt_unnamed extension h
  -- two paths if there is no user, and three if there is one
  cases user : globalPath? env with
  | none =>
    rw [user] at h
    obtain _ | ⟨own, _ | ⟨staged, _ | _⟩⟩ := h
    rename_i base stage
    refine ⟨[], base, stage, ?_, by simp⟩
    constructor
    · intro path found
      cases user.symm.trans found
    · intro _
      rfl
    · exact takes_of_layerAt (extension?_ownPath workspace) own
    · exact (last staged).1
    · exact (last staged).2
  | some path =>
    rw [user] at h
    obtain _ | ⟨first, _ | ⟨own, _ | ⟨staged, _ | _⟩⟩⟩ := h
    rename_i global base stage
    refine ⟨global, base, stage, ?_, by simp⟩
    constructor
    · intro path' found
      cases user.symm.trans found
      exact takes_of_layerAt (extension?_globalPath user) first
    · intro missing
      cases user.symm.trans missing
    · exact takes_of_layerAt (extension?_ownPath workspace) own
    · exact (last staged).1
    · exact (last staged).2

/-- The layers of a workspace are the defaults, those of the three files and the environment. -/
theorem lays_of_workspaceLayers {files : Files} {env : Environment} {workspace : String}
    {layers : List Layer} (h : workspaceLayers files env workspace = .ok layers) :
    ∃ global base stage, Lays files env workspace global base stage ∧
      ofLayers layers = ofLayers [defaults, global, base, stage, environmentLayer env] := by
  obtain ⟨present, loaded, h⟩ := ok_of_bind h
  cases h
  obtain ⟨all, each, same⟩ := exists_layersAt loaded
  obtain ⟨global, base, stage, lays, whole⟩ := lays_of_layersAt each
  refine ⟨global, base, stage, lays, ?_⟩
  unfold ofLayers
  rw [Layer.stack_eq_flatten, Layer.stack_eq_flatten]
  simp only [List.flatten_cons, List.flatten_append, ← same, whole, List.append_assoc]

end Settings

/-! ## Faults -/

/-- There is a path to the store and one to the courses. -/
def StorageSettings.Sound (s : StorageSettings) : Prop := s.storePath ≠ "" ∧ s.coursesPath ≠ ""

instance (s : StorageSettings) : Decidable s.Sound := inferInstanceAs (Decidable (_ ∧ _))

/-- No course is listed under a key of blanks. -/
def GradeFlags.Sound (f : GradeFlags) : Prop :=
  ∀ key ∈ f.persistentGradesCourses ++ f.assumeZeroCourses, Text.isAllBlank key = false

instance (f : GradeFlags) : Decidable f.Sound := inferInstanceAs (Decidable (∀ _ ∈ _, _))

/-- The format and the output are known. -/
def LogSettings.Sound (s : LogSettings) : Prop :=
  s.format ∈ ["text", "json"] ∧ s.output ∈ ["stdout", "stderr", "file"]

instance (s : LogSettings) : Decidable s.Sound := inferInstanceAs (Decidable (_ ∧ _))

theorem StorageSettings.parts_fault? (s : StorageSettings) :
    s.fault?.toList.map SettingsFault.part = if s.Sound then [] else ["Storage"] := by
  unfold fault?
  by_cases store : s.storePath = ""
  · rw [if_pos (String.isEmpty_iff.2 store), if_neg fun sound : s.Sound => sound.1 store]
    rfl
  rw [if_neg fun empty => store (String.isEmpty_iff.1 empty)]
  by_cases courses : s.coursesPath = ""
  · rw [if_pos (String.isEmpty_iff.2 courses), if_neg fun sound : s.Sound => sound.2 courses]
    rfl
  · rw [if_neg fun empty => courses (String.isEmpty_iff.1 empty),
      if_pos (show s.Sound from ⟨store, courses⟩)]
    rfl

theorem GradeFlags.parts_fault? (f : GradeFlags) :
    f.fault?.toList.map SettingsFault.part = if f.Sound then [] else ["Grades"] := by
  have blank_iff : (f.persistentGradesCourses ++ f.assumeZeroCourses).any Text.isAllBlank = true ↔
      ¬f.Sound := by
    rw [List.any_eq_true]
    unfold Sound
    simp only [not_forall, Bool.not_eq_false, exists_prop]
  unfold fault?
  by_cases sound : f.Sound
  · rw [if_neg fun blank => blank_iff.1 blank sound, if_pos sound]
    rfl
  · rw [if_pos (blank_iff.2 sound), if_neg sound]
    rfl

theorem LogFormat.ofName_known {name : String} (h : name ∈ ["text", "json"]) :
    ∃ format, ofName name = .ok format := by
  simp only [List.mem_cons, List.not_mem_nil, or_false] at h
  rcases h with rfl | rfl
  · exact ⟨.text, rfl⟩
  · exact ⟨.json, rfl⟩

theorem LogFormat.ofName_unknown {name : String} (h : name ∉ ["text", "json"]) :
    ofName name = .error (.logFormat name) := by
  unfold ofName
  rw [if_neg fun same => h (by simp [same]), if_neg fun same => h (by simp [same])]

theorem LogOutput.ofName_known {name : String} (h : name ∈ ["stdout", "stderr", "file"]) :
    ∃ output, ofName name = .ok output := by
  simp only [List.mem_cons, List.not_mem_nil, or_false] at h
  rcases h with rfl | rfl | rfl
  · exact ⟨.stdout, rfl⟩
  · exact ⟨.stderr, rfl⟩
  · exact ⟨.file, rfl⟩

theorem LogOutput.ofName_unknown {name : String} (h : name ∉ ["stdout", "stderr", "file"]) :
    ofName name = .error (.logOutput name) := by
  unfold ofName
  rw [if_neg fun same => h (by simp [same]), if_neg fun same => h (by simp [same]),
    if_neg fun same => h (by simp [same])]

theorem LogSettings.parts_fault? (s : LogSettings) :
    s.fault?.toList.map SettingsFault.part = if s.Sound then [] else ["Logging"] := by
  unfold fault?
  by_cases format : s.format ∈ ["text", "json"]
  · obtain ⟨found, known⟩ := LogFormat.ofName_known format
    rw [known]
    by_cases output : s.output ∈ ["stdout", "stderr", "file"]
    · obtain ⟨found', known'⟩ := LogOutput.ofName_known output
      rw [known', if_pos (show s.Sound from ⟨format, output⟩)]
      rfl
    · rw [LogOutput.ofName_unknown output, if_neg fun sound : s.Sound => output sound.2]
      rfl
  · rw [LogFormat.ofName_unknown format, if_neg fun sound : s.Sound => format sound.1]
    rfl

namespace Settings

/-- The sections with values they may not have, in their order. -/
def unsound (s : Settings) : List String :=
  (if s.storage.Sound then [] else ["Storage"]) ++ (if s.grades.Sound then [] else ["Grades"]) ++
    (if s.logging.Sound then [] else ["Logging"])

/-- There is one fault for each section that has some. -/
theorem parts_faults (s : Settings) : s.faults.map SettingsFault.part = s.unsound := by
  rw [faults, List.map_append, List.map_append, StorageSettings.parts_fault?,
    GradeFlags.parts_fault?, LogSettings.parts_fault?, unsound]

theorem faults_eq_nil_iff (s : Settings) : s.faults = [] ↔ s.unsound = [] := by
  rw [← parts_faults, List.map_eq_nil_iff]

/-- Settings are refused with one message for each of some sections, in their order. -/
def Refused (parts : List String) (r : Except SettingsError Settings) : Prop :=
  ∃ faults, r = .error (.invalid faults) ∧ faults.map SettingsFault.part = parts ∧
    (SettingsError.invalid faults).message = "Configuration validation failed:\n" ++
      "\n".intercalate (faults.map fun f => f.part ++ ": " ++ f.text)

theorem refused_of_unsound {s : Settings} (h : s.unsound ≠ []) : Refused s.unsound s.checked := by
  refine ⟨s.faults, ?_, s.parts_faults, rfl⟩
  rw [checked, if_neg]
  rw [List.isEmpty_iff]
  exact fun none_there => h (s.faults_eq_nil_iff.1 none_there)

theorem checked_eq_ok {s s' : Settings} (h : s.checked = .ok s') : s = s' ∧ s.faults = [] := by
  unfold checked at h
  split at h
  · next sound =>
    cases h
    exact ⟨rfl, List.isEmpty_iff.1 sound⟩
  · cases h

/-! ## Loading -/

theorem byName_defaults : Layer.ByName defaults := by
  unfold Layer.ByName
  decide +kernel

/-- Settings are merged from the layers of a workspace. -/
def MergedIn (files : Files) (env : Environment) (workspace : String) (s : Settings) : Prop :=
  ∃ layers, workspaceLayers files env workspace = .ok layers ∧ ofLayers layers = .ok s

/-- Settings are merged from the layers around an explicit file. -/
def MergedFrom (files : Files) (env : Environment) (path : String) (s : Settings) : Prop :=
  files.exists? path = true ∧ ∃ layer, fileLayer files false path = .ok layer ∧
    ofLayers [defaults, layer, environmentLayer env] = .ok s

theorem load_of_merged {files : Files} {env : Environment} {workspace : String} {s : Settings}
    (h : MergedIn files env workspace s) : (load files env workspace).1 = s.checked := by
  obtain ⟨layers, read, merged⟩ := h
  rw [load, read]
  simp only [merged]

theorem merged_of_load {files : Files} {env : Environment} {workspace : String} {s : Settings}
    (h : (load files env workspace).1 = .ok s) : MergedIn files env workspace s ∧ s.faults = [] := by
  cases read : workspaceLayers files env workspace with
  | error e =>
    rw [load, read] at h
    cases h
  | ok layers =>
    cases merged : ofLayers layers with
    | error e =>
      rw [load, read] at h
      simp only [merged] at h
      cases h
    | ok s' =>
      rw [load_of_merged ⟨layers, read, merged⟩] at h
      obtain ⟨rfl, sound⟩ := checked_eq_ok h
      exact ⟨⟨layers, read, merged⟩, sound⟩

theorem loadFrom_of_merged {files : Files} {env : Environment} {path : String} {s : Settings}
    (h : MergedFrom files env path s) : loadFrom files env path = s.checked := by
  obtain ⟨there, layer, read, merged⟩ := h
  rw [loadFrom, there, read]
  simp only [Bool.not_true, Bool.false_eq_true, if_false, merged, bind, Except.bind]

theorem merged_of_loadFrom {files : Files} {env : Environment} {path : String} {s : Settings}
    (h : loadFrom files env path = .ok s) : MergedFrom files env path s ∧ s.faults = [] := by
  by_cases there : files.exists? path = true
  · rw [loadFrom, there] at h
    obtain ⟨layer, read, h⟩ := ok_of_bind h
    obtain ⟨merged, whole, h⟩ := ok_of_bind h
    obtain ⟨rfl, sound⟩ := checked_eq_ok h
    exact ⟨⟨there, layer, read, whole⟩, sound⟩
  · rw [loadFrom, Bool.eq_false_iff.2 there] at h
    cases h

/-- **Every setting has the value of the last layer that sets it.** The layers of a workspace are
the defaults, the files of the user, the workspace and its stage, and the environment; an explicit
file takes the place of the three. What is loaded has no faults, and what has some is refused
with one message for each section that has, in their order.

Layers are taken to hold named values: a key expression with a list position changes an item of
what lies below instead of replacing it. -/
theorem loaded_settings_follow (files : Files) (env : Environment) (workspace path : String) :
    (∀ s, (load files env workspace).1 = .ok s → s.faults = [] ∧
      ∃ global base stage, Lays files env workspace global base stage ∧
        ((∀ layer ∈ [global, base, stage, environmentLayer env], Layer.ByName layer) →
          s.Follow [defaults, global, base, stage, environmentLayer env])) ∧
    (∀ s, loadFrom files env path = .ok s → s.faults = [] ∧ ∃ given, Gives files path given ∧
      ((∀ layer ∈ [given, environmentLayer env], Layer.ByName layer) →
        s.Follow [defaults, given, environmentLayer env])) ∧
    (∀ s, MergedIn files env workspace s → s.unsound ≠ [] →
      Refused s.unsound (load files env workspace).1) ∧
    ∀ s, MergedFrom files env path s → s.unsound ≠ [] →
      Refused s.unsound (loadFrom files env path) := by
  refine ⟨fun s loaded => ?_, fun s loaded => ?_, fun s merged unsound => ?_,
    fun s merged unsound => ?_⟩
  · obtain ⟨⟨layers, read, merged⟩, sound⟩ := merged_of_load loaded
    obtain ⟨global, base, stage, lays, same⟩ := lays_of_workspaceLayers read
    refine ⟨sound, global, base, stage, lays, fun named => ?_⟩
    rw [same] at merged
    exact follow_of_ofLayers (List.forall_mem_cons.2 ⟨byName_defaults, named⟩) merged
  · obtain ⟨⟨-, given, read, merged⟩, sound⟩ := merged_of_loadFrom loaded
    have file : Gives files path given := (gives_of_fileLayer read).resolve_left nofun
    refine ⟨sound, given, file, fun named => ?_⟩
    exact follow_of_ofLayers (List.forall_mem_cons.2 ⟨byName_defaults, named⟩) merged
  · rw [load_of_merged merged]
    exact refused_of_unsound unsound
  · rw [loadFrom_of_merged merged]
    exact refused_of_unsound unsound

namespace Sample

def ownText : String := "[storage]\nstore_path = \"own\"\ncourses_path = \"own\"\n"

def stageText : String := "[storage]\ncourses_path = \"staged\"\n"

def userText : String :=
  "[storage]\nstore_path = \"users\"\ncourses_path = \"users\"\n[logging]\nlevel = \"debug\"\n"

/-- A workspace with its own file and one for development, a user with a file, and another
workspace whose settings cannot be used. -/
def files : Files where
  contents := [
    (["config", "config.toml"], .text ownText),
    (["config", "development.toml"], .text stageText),
    (["home", ".config", "coursegrade", "config.toml"], .text userText),
    (["faulty", "config", "config.toml"],
      .text "[storage]\nstore_path = \"\"\n[logging]\nformat = \"xml\"\n")]

def environment : Environment :=
  [("HOME", "/home"), ("COURSEGRADE_LOGGING__COLOR", "off")]

/-- What comes of all five layers of the workspace. -/
def layered : Settings where
  storage := { storePath := "own", coursesPath := "staged" }
  logging := { level := "debug", color := false }

/-- What comes of its own file alone. -/
def alone : Settings where
  storage := { storePath := "own", coursesPath := "own" }
  logging := { color := false }

/-- What comes of the file of the other workspace alone. -/
def faultyAlone : Settings where
  storage := { storePath := "" }
  logging := { format := "xml", color := false }

/-- What comes of the other workspace, with the file of the user. -/
def faulty : Settings where
  storage := { storePath := "", coursesPath := "users" }
  logging := { level := "debug", format := "xml", color := false }

theorem ok_of_toOption {ε α : Type} {x : Except ε α} {a : α} (h : x.toOption = some a) :
    x = .ok a := by
  cases x with
  | error e => cases h
  | ok b =>
    cases h
    rfl

instance (layer : Layer) : Decidable layer.ByName :=
  inferInstanceAs (Decidable (∀ e ∈ layer, ∀ hop ∈ Layer.hopsOf e.1, hop.isName = true))

theorem byName_of_read {text : String} {layer : Layer} (read : FileFormat.toml.read text = .ok layer)
    (named : (FileFormat.toml.read text).toOption.map (fun layer => decide layer.ByName) =
      some true) : layer.ByName := by
  rw [read] at named
  exact of_decide_eq_true (Option.some.inj named)

theorem load_layered : (load files environment "").1 = .ok layered :=
  ok_of_toOption (by decide +kernel)

theorem loadFrom_alone : loadFrom files environment "config/config.toml" = .ok alone :=
  ok_of_toOption (by decide +kernel)

theorem merged_faulty : MergedIn files environment "faulty" faulty := by
  have merged : (workspaceLayers files environment "faulty" >>= ofLayers) = .ok faulty :=
    ok_of_toOption (by decide +kernel)
  obtain ⟨layers, read, merged⟩ := ok_of_bind merged
  exact ⟨layers, read, merged⟩

theorem merged_faultyAlone :
    MergedFrom files environment "faulty/config/config.toml" faultyAlone := by
  have merged : (fileLayer files false "faulty/config/config.toml" >>= fun given =>
      ofLayers [defaults, given, environmentLayer environment]) = .ok faultyAlone :=
    ok_of_toOption (by decide +kernel)
  obtain ⟨given, read, merged⟩ := ok_of_bind merged
  exact ⟨by decide +kernel, given, read, merged⟩

theorem byName_environment : (environmentLayer environment).ByName := by decide +kernel

/-- The layers of a workspace and of a user, and two sections that are refused. -/
theorem loaded_settings_follow_sample :
    (∃ global base stage, Lays files environment "" global base stage ∧
      layered.Follow [defaults, global, base, stage, environmentLayer environment]) ∧
    (∃ given, Gives files "config/config.toml" given ∧
      alone.Follow [defaults, given, environmentLayer environment]) ∧
    Refused faulty.unsound (load files environment "faulty").1 ∧
    Refused faultyAlone.unsound (loadFrom files environment "faulty/config/config.toml") ∧
    faulty.unsound = ["Storage", "Logging"] ∧ faultyAlone.unsound = ["Storage", "Logging"] := by
  obtain ⟨loads, loadsFrom, -, -⟩ :=
    loaded_settings_follow files environment "" "config/config.toml"
  obtain ⟨-, -, refuses, refusesFrom⟩ :=
    loaded_settings_follow files environment "faulty" "faulty/config/config.toml"
  have parts : faulty.unsound = ["Storage", "Logging"] := by decide +kernel
  have parts' : faultyAlone.unsound = ["Storage", "Logging"] := by decide +kernel
  refine ⟨?_, ?_, ?_, ?_, parts, parts'⟩
  · obtain ⟨-, global, base, stage, lays, follow⟩ := loads layered load_layered
    refine ⟨global, base, stage, lays, follow ?_⟩
    have user := lays.user "/home/.config/coursegrade/config.toml" (by decide +kernel)
    have staged := lays.staged (by decide +kernel)
    simp only [List.forall_mem_cons]
    refine ⟨?_, ?_, ?_, byName_environment, nofun⟩
    · refine byName_of_read (user.text ?_ userText ?_) ?_ <;> decide +kernel
    · refine byName_of_read (lays.own.text ?_ ownText ?_) ?_ <;> decide +kernel
    · refine byName_of_read (staged.text ?_ stageText ?_) ?_ <;> decide +kernel
  · obtain ⟨-, given, gives, follow⟩ := loadsFrom alone loadFrom_alone
    refine ⟨given, gives, follow ?_⟩
    obtain ⟨meant, format, text, found, -, read, value⟩ := gives
    have own : fileMeant? files "config/config.toml" = some ("config/config.toml", .toml) := by
      decide +kernel
    have whole : files.readText "config/config.toml" = .ok ownText := by decide +kernel
    cases own.symm.trans found
    cases whole.symm.trans read
    simp only [List.forall_mem_cons]
    exact ⟨byName_of_read value (by decide +kernel), byName_environment, nofun⟩
  · exact refuses faulty merged_faulty (by rw [parts]; exact List.cons_ne_nil _ _)
  · exact refusesFrom faultyAlone merged_faultyAlone (by rw [parts']; exact List.cons_ne_nil _ _)

def namelessText : String := "[storage]\nstore_path = \"x\"\n"

/-- The file of a stage without a name. -/
def nameless : Files where
  contents := [(["config", ".toml"], .text namelessText)]

def noStage : Environment := [("COURSEGRADE_ENV", "")]

/-- **The file of a stage without a name is passed over**, though it is there and sets a path.
Given as an explicit file it is refused. -/
theorem nameless_stage_is_passed_over : ∃ stage,
    nameless.leadsToFile (stagePath noStage "") = true ∧
    nameless.readText (stagePath noStage "") = .ok namelessText ∧
    FileFormat.toml.read namelessText = .ok stage ∧ (load nameless noStage "").1 = .ok {} ∧
    ¬({} : Settings).Follow [defaults, [], [], stage, environmentLayer noStage] ∧
    (loadFrom nameless noStage (stagePath noStage "")).toOption = none := by
  have placed : ((FileFormat.toml.read namelessText).toOption.bind fun stage =>
      (Layer.settingOf [defaults, [], [], stage, environmentLayer noStage] "storage" "store_path"
        0).bind fun t => (Document.text .settings t).toOption) = some "x" := by
    decide +kernel
  obtain ⟨stage, read, placed⟩ := Option.bind_eq_some_iff.1 placed
  obtain ⟨t, found, text⟩ := Option.bind_eq_some_iff.1 placed
  refine ⟨stage, by decide +kernel, by decide +kernel, ok_of_toOption read,
    ok_of_toOption (by decide +kernel), fun follow => ?_, by decide +kernel⟩
  have path := follow.storage.storePath
  rw [found] at path
  rw [show Document.text .settings t = .ok ".coursegrade/store" from path] at text
  exact absurd text (by decide)

end Sample

end Settings

end Gradebook
