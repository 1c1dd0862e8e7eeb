/-
# Gradebook.CommandLine.Workspace — commands in a workspace

A workspace has settings, a store and a directory of course files. Opening it
makes a session with the weighted calculator and a listener that writes to the
log; a command is then carried out in that session and answers with a report.
-/
import Gradebook.CommandLine.Arguments
import Gradebook.Session
import Gradebook.Settings.Sources
import Gradebook.Store.Database

namespace Gradebook

set_option autoImplicit false

/-- Databases by the place of their directory. -/
abbrev Databases : Type := Assoc Place Database

/-- Files and databases, as a program finds and leaves them. -/
structure Disk where
  files : Files := {}
  databases : Databases := []

structure Workspace where
  session : Session
  catalog : Catalog
  /-- Where the database lies. -/
  store : Place

namespace Workspace

def settings (disk : Disk) (env : Environment) (root : String) :
    Option String → Except SettingsError Settings × List LogEntry
  | some path => (Settings.loadFrom disk.files env path, [])
  | none => Settings.load disk.files env root

/-- The disk with the directory of a store on it, and its place. -/
def openStore (disk : Disk) (path : String) : Except SettingsError (Disk × Place) :=
  match disk.files.makeDirectories path with
  | .error reason => .error (.store path ("IO error: " ++ reason))
  | .ok files => .ok ({ disk with files }, (files.locate? path).getD [])

/-- What the catalog notes about the files it reads, up to the first that fails. -/
def catalogNotes (files : Files) : List String → List LogEntry
  | [] => []
  | path :: rest => match CourseDefinition.inFile files path with
    | .error _ => []
    | .ok d =>
      { level := .debug, origin := .loader, message := "Indexed course definition",
        fields := [("course_key", d.key.text), ("path", path)] } :: catalogNotes files rest

/-- A session over a database and a catalog. -/
def sessionOf (s : Settings) (db : Database) (source : ContentSource) (now : Instant)
    (log : List LogEntry) : Session where
  engine := ⟨s.grades, Calculator.weighted, [.logging]⟩
  world := { source, rows := .encoded db.rows, scores := .encoded db.scores, now, log }

def readyNote (store courses : String) : LogEntry :=
  { level := .info, origin := .commands, message := "Run context ready"
    fields := [("store", store), ("courses", courses)] }

/-- Open the workspace of some settings: the store first, then the course files. -/
def ofSettings (disk : Disk) (root : String) (now : Instant) (s : Settings)
    (notes : List LogEntry) : Except GradeError Workspace × Disk × List LogEntry :=
  let storePath := s.storage.storeIn root
  let coursesPath := s.storage.coursesIn root
  match openStore disk storePath with
  | .error e => (.error (.settings e), disk, notes)
  | .ok (disk, store) =>
    let paths := (disk.files.walk coursesPath).filter Catalog.isCourseFile
    let notes := notes ++ catalogNotes disk.files paths
    match Catalog.openAt disk.files coursesPath with
    | .error e => (.error (.content e), disk, notes)
    | .ok catalog =>
      let db := (Assoc.find? store disk.databases).getD {}
      let notes := notes ++ [readyNote storePath coursesPath]
      (.ok ⟨sessionOf s db (.catalog catalog disk.files) now notes, catalog, store⟩, disk, notes)

/-- Open a workspace. The entries are what was noted, also when opening fails. -/
def openAt (disk : Disk) (env : Environment) (root : String) (config : Option String)
    (now : Instant) : Except GradeError Workspace × Disk × List LogEntry :=
  match settings disk env root config with
  | (.error e, notes) => (.error (.settings e), disk, notes)
  | (.ok s, notes) => ofSettings disk root now s notes

/-- What the workspace's session leaves in its database. -/
def database (w : Workspace) : Database :=
  match w.session.world.rows, w.session.world.scores with
  | .encoded rows, .encoded scores => ⟨rows, scores⟩
  | _, _ => {}

/-- Put the database of the workspace on the disk. -/
def save (w : Workspace) (disk : Disk) : Disk :=
  { disk with databases := Assoc.put w.store w.database disk.databases }

/-- See other files from now on. The catalog stays. -/
def withFiles (w : Workspace) (files : Files) : Workspace :=
  { w with session := { w.session with world := { w.session.world with
      source := .catalog w.catalog files } } }

def learnerOf (t : GradeTarget) : Learner :=
  ⟨t.learner, t.username.getD (Learner.defaultUsername t.learner)⟩

/-- Results of a batch until it ends. -/
def results : Nat → Session → Nat → List GradeResult × Session
  | 0, s, _ => ([], s)
  | fuel + 1, s, batch =>
    match s.step (.nextResult batch) with
    | (.result (some r), s) =>
      let (rs, s) := results fuel s batch
      (r :: rs, s)
    | (_, s) => ([], s)

def gradeReport (format : Presentation.Format) : Answer → Except Failure String
  | .grade outcome => outcome.map fun g => Presentation.grade g format
  | .found outcome => outcome.map fun g => Presentation.optionalGrade g format
  | _ => .ok ""

def gradeBatch (s : Session) (course : CourseKey) (learners : List LearnerId)
    (strategy : Strategy) (format : Presentation.Format) : Except Failure String × Session :=
  let supply := Supply.ofLearners (learners.map Learner.ofId)
  match s.step (.startBatch supply (.ofKey course) strategy) with
  | (.kept (.ok batch), s) =>
    let (rs, s) := results (supply.length + 1) s batch
    (.ok (Presentation.batch rs format), s)
  | (.kept (.error f), s) => (.error f, s)
  | (_, s) => (.ok "", s)

def courseReport (c : Catalog) : String :=
  if c.courseKeys.isEmpty then "No course definitions under " ++ c.root
  else "\n".intercalate (c.courseKeys.map (·.text))

def recordScore (s : Session) (learner : LearnerId) (course : CourseKey) (block : BlockId)
    (earned possible : Double) (attempted : Bool) : Except Failure String × Session :=
  if possible.value < 0.0 || earned.value < 0.0 then (.error (.error (.settings .negativeScore)), s)
  else
    let score : Score := ⟨earned, possible, attempted, s.world.now⟩
    let (_, s) := s.step (.record learner course block score)
    (.ok ("Recorded " ++ Decimal.shown earned.value ++ "/" ++ Decimal.shown possible.value ++
      " for learner " ++ learner.text ++ " on " ++ block), s)

/-- Carry out a command in a session. -/
def carryOut (catalog : Catalog) (s : Session) : Command → Except Failure String × Session
  | .create t =>
    let (a, s) := s.step (.create (learnerOf t) (.ofKey t.course))
    (gradeReport t.format a, s)
  | .read t =>
    let (a, s) := s.step (.read (learnerOf t) (.ofKey t.course))
    (gradeReport t.format a, s)
  | .update t =>
    let (a, s) := s.step (.update (learnerOf t) (.ofKey t.course))
    (gradeReport t.format a, s)
  | .batch course learners strategy format => gradeBatch s course learners strategy format
  | .courses => (.ok (courseReport catalog), s)
  | .recordScore learner course block earned possible attempted =>
    recordScore s learner course block earned possible attempted

/-- Carry out a command and answer with its report. -/
def execute (w : Workspace) (c : Command) : Except Failure String × Workspace :=
  let (report, session) := carryOut w.catalog w.session c
  (report, { w with session })

end Workspace

end Gradebook
