/-
# Gradebook.CommandLine.Program — one call of the program

A call reads its arguments, sets up logging from flags and settings, opens the
workspace and carries out one command; asked for help it does nothing else. The
outcome says what is printed, what is logged and what is left on the disk.
-/
import Gradebook.CommandLine.Usage
import Gradebook.CommandLine.Workspace
import Gradebook.Logging

namespace Gradebook

set_option autoImplicit false

/-- Why a call ends without a report. -/
inductive ProgramFailure where
  | usage
  /-- The settings made their reader crash. -/
  | crashed (crash : Crash)
  | logging (e : SettingsError)
  | opening (workspace : String) (e : GradeError)
  | command (f : Failure)

namespace ProgramFailure

def code : ProgramFailure → Nat
  | .usage => 2
  | .crashed _ => 101
  | _ => 1

/-- The failure and its causes in one line. -/
def reason : ProgramFailure → String
  | .usage => "invalid arguments"
  | .crashed c => c.message
  | .logging e => (GradeError.settings e).message
  | .opening workspace e => "initializing workspace " ++ workspace ++ ": " ++ e.fullMessage
  | .command (.error e) => e.fullMessage
  | .command (.crash c) => c.message

/-- What the program says about it. -/
def message (f : ProgramFailure) : String :=
  match f with
  | .logging _ => "Failed to initialize logging: " ++ f.reason
  | .crashed _ => f.reason
  | f => "Error: " ++ f.reason

end ProgramFailure

/-- What a call prints and logs. -/
structure Outcome where
  report : Except ProgramFailure String
  /-- Where entries go; nowhere if logging was not set up. -/
  sink : Option LogSink
  /-- The entries shown there. -/
  log : List LogEntry
  disk : Disk

namespace Program

/-- The name the program is called by. -/
def name : String := "coursegrade"

def note (level : LogLevel) (message : String) : LogEntry :=
  { level, origin := .program, message }

/-- The log settings of a call: its flags over its settings, which need not be sound. -/
def logSettings (disk : Disk) (env : Environment) (i : Invocation) : LogSettings :=
  let own : LogSettings := match (Workspace.settings disk env i.workspace i.config).1 with
    | .ok s => s.logging
    | .error _ => {}
  { own with
    level := i.logLevel.getD (if i.verbose then "debug" else own.level)
    format := i.logFormat.getD own.format }

/-- Open the workspace and carry out the command. -/
def work (disk : Disk) (env : Environment) (now : Instant) (i : Invocation) :
    Except ProgramFailure String × Disk × List LogEntry :=
  match Workspace.openAt disk env i.workspace i.config now with
  | (.error e, disk, notes) => (.error (.opening i.workspace e), disk, notes)
  | (.ok w, disk, _) =>
    let (report, w) := w.execute i.command
    (report.mapError .command, w.save disk, w.session.world.log)

def lastNote : Except ProgramFailure String → LogEntry
  | .ok _ => note .info "Command completed successfully"
  | .error f => note .error ("Command failed: " ++ f.reason)

/-- What the reader of the settings leaves behind when it crashes. -/
def crash? (disk : Disk) (env : Environment) (i : Invocation) : Option Crash :=
  match (Workspace.settings disk env i.workspace i.config).1 with
  | .error (.crashed c) => some c
  | _ => none

/-- Carry out a call whose arguments are understood and whose settings can be read. -/
def carryOut (disk : Disk) (env : Environment) (now : Instant) (i : Invocation) : Outcome :=
  match LogSink.ofSettings (some (logSettings disk env i)) env disk.files with
  | .error (.crashed c) => ⟨.error (.crashed c), none, [], disk⟩
  | .error e => ⟨.error (.logging e), none, [], disk⟩
  | .ok (sink, files) =>
    let (report, disk, notes) := work { disk with files } env now i
    let entries := note .info "Coursegrade CLI starting" :: notes ++ [lastNote report]
    ⟨report, some sink, entries.filter sink.filter.shows, disk⟩

/-- One call of the program. -/
def run (disk : Disk) (env : Environment) (now : Instant) (args : List String) : Outcome :=
  match Invocation.ofArguments args with
  | .error .misuse => ⟨.error .usage, none, [], disk⟩
  | .error (.help commands) =>
    ⟨.ok (CommandLine.Usage.text name Invocation.grammar commands), none, [], disk⟩
  | .ok i => match crash? disk env i with
    | some c => ⟨.error (.crashed c), none, [], disk⟩
    | none => carryOut disk env now i

end Program

end Gradebook
