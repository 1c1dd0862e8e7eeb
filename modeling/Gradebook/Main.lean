/-
# Gradebook.Main — the program on a real disk

Reads what a call can look at into a `Disk`, lets `Program.run` carry out the call,
and puts what it says and leaves where it belongs. A store is the file `grades.json`
in the directory of the store.
-/
import Gradebook.CommandLine.Program
import Gradebook.Logging.Line

namespace Gradebook.Host

set_option autoImplicit false

/-- The variables of the process. -/
def environment : IO Environment := do
  let bytes ← IO.FS.readBinFile "/proc/self/environ"
  let text := String.ofList (Text.ofUtf8Lossy bytes.size bytes.data.toList)
  pure ((Text.pieces '\x00' text).filterMap fun line =>
    match line.toList.span (· ≠ '=') with
    | (name, _ :: value) => some (String.ofList name, String.ofList value)
    | _ => none)

/-- The time of day: that of a file written just now. -/
def now : IO Instant := do
  let (_, path) ← IO.FS.createTempFile
  let time := (← path.metadata).modified
  IO.FS.removeFile path
  pure ⟨time.sec, time.nsec.toNat⟩

def pathText (place : Place) : String := "/" ++ "/".intercalate place

/-- Put the file or directory at a path among the files, if there is one. -/
def look (files : Files) (path : String) : IO Files := do
  let place := files.placeOf path
  let path := (← IO.currentDir) / path
  if ← path.isDir then pure (files.makeDirectory place)
  else if ← path.pathExists then
    let bytes ← IO.FS.readBinFile path
    pure (files.write place (Files.contentOf bytes.data.toList))
  else pure files

/-- Look at a path and everything above it. -/
def lookAlong (files : Files) (path : String) : IO Files :=
  let place := files.placeOf path
  (List.range (place.length + 1)).foldlM
    (fun files depth => look files (pathText (place.take depth))) files

/-- Look at the course files below a directory. -/
def lookBelow (files : Files) (path : String) : IO Files := do
  let root := (← IO.currentDir) / path
  if ← root.isDir then
    let paths := (← root.walkDir).toList.map (·.toString)
    (paths.filter Catalog.isCourseFile).foldlM look (← look files path)
  else look files path

def databasePath (store : String) : String := Path.join store "grades.json"

/-- The database of a store, empty if there is none. -/
def database (store : String) : IO Database := do
  let path := (← IO.currentDir) / databasePath store
  if ← path.pathExists then
    match Database.ofText? (← IO.FS.readFile path) with
    | some db => pure db
    | none => throw (IO.userError ("Unreadable store " ++ store))
  else pure {}

/-- All that a call can look at. -/
def disk (env : Environment) (i : Invocation) : IO Disk := do
  let here := Path.parts (← IO.currentDir).toString
  let files : Files := { directories := [here], here }
  let files ← (Settings.pathsFor env i.workspace i.config).foldlM look files
  let files ← lookAlong files (Program.logSettings { files } env i).file
  match (Workspace.settings { files } env i.workspace i.config).1 with
  | .error _ => pure { files }
  | .ok s =>
    let store := s.storage.storeIn i.workspace
    let files ← lookAlong files store
    let files ← lookBelow files (s.storage.coursesIn i.workspace)
    pure { files, databases := [(files.placeOf store, ← database store)] }

/-- Leave the directories and databases of a disk behind. -/
def keep (disk : Disk) : IO Unit := do
  for place in disk.files.directories do
    IO.FS.createDirAll (pathText place)
  for (place, db) in disk.databases do
    IO.FS.createDirAll (pathText place)
    IO.FS.writeFile (databasePath (pathText place)) db.toText

def write (sink : LogSink) (lines : List String) : IO Unit := do
  let text := String.join (lines.map (· ++ "\n"))
  match sink.output with
  | .stdout => IO.print text
  | .stderr => IO.eprint text
  | .file => (← IO.FS.Handle.mk sink.file .append).putStr text

/-- Say what a call says, and end with its code. -/
def say (time : Instant) (o : Outcome) : IO UInt32 := do
  match o.sink with
  | some sink => write sink (o.log.map (sink.line time))
  | none => pure ()
  match o.report with
  | .ok report =>
    IO.println report
    pure 0
  | .error f =>
    IO.eprintln f.message
    pure (UInt32.ofNat f.code)

end Gradebook.Host

open Gradebook in
def main (args : List String) : IO UInt32 := do
  let env ← Host.environment
  let time ← Host.now
  let disk ← match Invocation.ofArguments args with
    | .ok i => Host.disk env i
    | .error _ => pure {}
  let outcome := Program.run disk env time args
  Host.keep outcome.disk
  Host.say time outcome
