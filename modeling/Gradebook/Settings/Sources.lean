/-
# Gradebook.Settings.Sources — where settings come from

Defaults, then files, then the environment. A workspace has the file of the user,
its own `config/config.toml` and one for its stage of development; an explicit
file takes the place of all three. What the layers come to is read as `Settings`
and must be without faults.
-/
import Gradebook.Document.Settings
import Gradebook.Environment
import Gradebook.Files
import Gradebook.Log
import Gradebook.Settings.Format

namespace Gradebook

set_option autoImplicit false

namespace Settings

/-- The lowest layer. -/
def defaults : Layer :=
  [("storage.store_path", .text ".coursegrade/store"), ("storage.courses_path", .text "courses"),
    ("grades.persistent_grades_enabled", .truth true),
    ("grades.enabled_for_all_courses", .truth true),
    ("grades.assume_zero_if_absent", .truth false),
    ("grades.write_only_if_engaged", .truth false)]

/-- A text from the environment as the value it looks like. -/
def valueOf (text : String) : Tree :=
  let word := Text.lowercase text
  if word = "true" then .truth true
  else if word = "false" then .truth false
  else match Decimal.integer? text with
    | some (.ofNat n) => .natural n
    | some (.negSucc n) => .leaf (.negative (n + 1)) 0
    | none => match Decimal.doubleOfText? text with
      | some x => .double x
      | none => .text text

/-- How the names of variables with settings begin, in lower case. -/
def variableStart : String := "coursegrade_"

/-- Two low lines are a point. -/
def pointed : List Char → List Char
  | [] => []
  | '_' :: '_' :: rest => '.' :: pointed rest
  | c :: rest => c :: pointed rest

/-- The key expression a variable stands for. -/
def keyOf? (envName : String) : Option String :=
  let name := Text.lowercase envName
  if name.startsWith variableStart then
    some (String.ofList (pointed (name.toList.drop variableStart.length)))
  else none

/-- The layer of the environment, in the order of the keys. -/
def environmentLayer (env : Environment) : Layer :=
  (env.filterMap fun e => (keyOf? e.1).map fun key => (key, valueOf e.2)).mergeSort
    fun a b => decide (a.1 ≤ b.1)

/-- The file of the user. -/
def globalPath? (env : Environment) : Option String :=
  let base := match env.find? "XDG_CONFIG_HOME" with
    | some dir => if Path.isAbsolute dir then some dir else none
    | none => none
  let base := match base with
    | some dir => some dir
    | none => match env.find? "HOME" with
      | some home => if home.isEmpty then none else some (Path.join home ".config")
      | none => none
  base.map fun dir => Path.join (Path.join dir "coursegrade") "config.toml"

/-- The file meant by a path: the one it leads to, or one with an extension added. -/
def fileMeant? (files : Files) (path : String) : Option (String × FileFormat) :=
  if files.leadsToFile path then do
    some (path, ← FileFormat.extensions.lookup (← Path.extension? path))
  else
    let others := FileFormat.extensions.filterMap fun f =>
      (Path.extended? path f.1).map fun path => (path, f.2)
    others.find? fun f => files.leadsToFile f.1

/-- The layer of a file. An optional file may be missing or hold no text. -/
def fileLayer (files : Files) (isOptional : Bool) (path : String) :
    Except SettingsError Layer :=
  match fileMeant? files path with
  | none => if isOptional then .ok [] else .error (.unreadable "not a settings file")
  | some (path, format) => match files.readText path with
    | .error reason => if isOptional then .ok [] else .error (.unreadable reason)
    | .ok text => format.read text

/-- The files of a workspace: its own, then that of its stage. -/
def workspacePaths (env : Environment) (workspace : String) : List String :=
  let stage := (env.find? "COURSEGRADE_ENV").getD "development"
  let directory := Path.join workspace "config"
  [Path.join directory "config.toml", Path.join directory (stage ++ ".toml")]

/-- Layers read as settings. -/
def ofLayers (layers : List Layer) : Except SettingsError Settings := do
  let t ← (Layer.stack layers).mapError fun overrun => .crashed (.text overrun.message)
  (ofTree .settings t).mapError fun misfit => .unreadable misfit.reason

/-- Settings without faults. -/
def checked (s : Settings) : Except SettingsError Settings :=
  if s.faults.isEmpty then .ok s else .error (.invalid s.faults)

/-- The layers of a workspace, the highest last. -/
def workspaceLayers (files : Files) (env : Environment) (workspace : String) :
    Except SettingsError (List Layer) := do
  let own := (globalPath? env).toList ++ workspacePaths env workspace
  let layers ← (own.filter files.exists?).mapM (fileLayer files true)
  .ok (defaults :: (layers ++ [environmentLayer env]))

/-- What is said about the file of the user if there is none. -/
def globalNote (files : Files) (env : Environment) : List LogEntry :=
  match globalPath? env with
  | none => []
  | some path =>
    if files.exists? path then []
    else [{ level := .debug, origin := .globalSettings, message := "No global configuration file",
            fields := [("config_path", path)] }]

/-- The settings of a workspace, and what was noted on the way. -/
def load (files : Files) (env : Environment) (workspace : String) :
    Except SettingsError Settings × List LogEntry :=
  let note := globalNote files env
  match workspaceLayers files env workspace with
  | .error e => (.error e, note)
  | .ok layers => match ofLayers layers with
    | .error e => (.error e, note)
    | .ok s =>
      (s.checked, note ++ [
        { level := .debug, origin := .settings, message := "Configuration loaded",
          fields := [("workspace", workspace)] }])

/-- The settings of one explicit file, over the defaults and below the environment. -/
def loadFrom (files : Files) (env : Environment) (path : String) : Except SettingsError Settings :=
  if !files.exists? path then .error (.fileNotFound path)
  else do
    let layer ← fileLayer files false path
    (← ofLayers [defaults, layer, environmentLayer env]).checked

/-- The paths at which settings are looked for: of the workspace, or of an explicit file. -/
def pathsFor (env : Environment) (workspace : String) : Option String → List String
  | none => (globalPath? env).toList ++ workspacePaths env workspace
  | some path => path :: FileFormat.extensions.filterMap fun f => Path.extended? path f.1

end Settings

end Gradebook
