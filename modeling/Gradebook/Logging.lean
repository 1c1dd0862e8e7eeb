/-
# Gradebook.Logging — from settings to a place for log entries

Variables of the environment come before the settings: a sound filter, a known
format, any output. What is wrong is reported in the order filter, format, output,
file.
-/
import Gradebook.Environment
import Gradebook.Error
import Gradebook.Files
import Gradebook.Logging.Filter
import Gradebook.Settings

namespace Gradebook

set_option autoImplicit false

/-- Where entries go, which of them, and in which format. -/
structure LogSink where
  filter : LogFilter
  format : LogFormat
  output : LogOutput
  /-- The file entries are added to if the output is one. -/
  file : String
  /-- Whether lines of text are coloured. -/
  color : Bool
  deriving DecidableEq, Repr

namespace LogSink

/-- Directives for single modules from the environment: pairs between commas. What is no
pair is passed over. -/
def moduleTexts (text : String) : List String :=
  (Text.pieces ',' text).filterMap fun spec => match Text.pieces '=' spec with
    | [name, level] => some (Text.trimmed name ++ "=" ++ Text.trimmed level)
    | _ => none

/-- What a flaw of a directive is to the settings. -/
def faultOf (fault : SettingsError) : DirectiveFlaw → SettingsError
  | .unsound => fault
  | .split reason => .crashed (.text reason)

/-- Add directives, the first unsound one being an error. -/
def addAll (fault : SettingsError) : LogFilter → List String → Except SettingsError LogFilter
  | f, [] => .ok f
  | f, text :: rest => match Directive.ofText text with
    | .error flaw => .error (faultOf fault flaw)
    | .ok d => addAll fault (f.add d) rest

/-- The filter that the settings describe. -/
def configured (s : LogSettings) (env : Environment) : Except SettingsError LogFilter :=
  if !s.enabled || s.level = "off" then .ok .nothing
  else do
    let fault := SettingsError.logDirective "invalid filter directive"
    let f ← (LogFilter.ofTextLoosely s.level).mapError (faultOf fault)
    let f ← addAll fault f (s.modules.entries.map fun e => e.1 ++ "=" ++ e.2)
    let more := ((env.find? "COURSEGRADE_LOG_MODULES").map moduleTexts).getD []
    addAll (.logDirectiveFromEnvironment "invalid filter directive") f more

def filterOf (s : LogSettings) (env : Environment) : Except SettingsError LogFilter :=
  match (env.find? "COURSEGRADE_LOG").map LogFilter.ofText with
  | some (.ok f) => .ok f
  | some (.error (.split reason)) => .error (.crashed (.text reason))
  | _ => configured s env

def formatOf (s : LogSettings) (env : Environment) : Except SettingsError LogFormat :=
  match (env.find? "COURSEGRADE_LOG_FORMAT").bind fun name => (LogFormat.ofName name).toOption with
  | some format => .ok format
  | none => (LogFormat.ofName s.format).mapError .logging

def outputOf (s : LogSettings) (env : Environment) : Except SettingsError LogOutput :=
  (LogOutput.ofName ((env.find? "COURSEGRADE_LOG_OUTPUT").getD s.output)).mapError .logging

/-- The files with a log file among them, its directories made as needed. -/
def openFile (files : Files) (path : String) : Except SettingsError Files := do
  let files ← match Path.parent? path with
    | none => .ok files
    | some above => match files.makeDirectories above with
      | .ok files => .ok files
      | .error reason => .error (.logDirectory reason)
  match files.openFile path with
  | .ok files => .ok files
  | .error reason => .error (.logFile path reason)

/-- The sink of the settings. Without settings the defaults hold. -/
def ofSettings (s : Option LogSettings) (env : Environment) (files : Files) :
    Except SettingsError (LogSink × Files) := do
  let s := s.getD {}
  let filter ← filterOf s env
  let format ← formatOf s env
  let output ← outputOf s env
  let files ← if output = .file then openFile files s.file else .ok files
  .ok (⟨filter, format, output, s.file, s.color && output ≠ .file⟩, files)

end LogSink

end Gradebook
