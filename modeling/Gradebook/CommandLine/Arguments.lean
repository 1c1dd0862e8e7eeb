/-
# Gradebook.CommandLine.Arguments — what a command line asks for

The grammar of the program's command line, and the invocation that arguments within
the grammar stand for.
-/
import Gradebook.CommandLine.Grammar
import Gradebook.CommandLine.Presentation
import Gradebook.Decimal.Reading

namespace Gradebook

set_option autoImplicit false

/-- A single grade to work on, and how to report it. -/
structure GradeTarget where
  learner : LearnerId
  username : Option String
  course : CourseKey
  format : Presentation.Format
  deriving Repr

inductive Command where
  | create (target : GradeTarget)
  | read (target : GradeTarget)
  | update (target : GradeTarget)
  | batch (course : CourseKey) (learners : List LearnerId) (strategy : Strategy)
      (format : Presentation.Format)
  | courses
  | recordScore (learner : LearnerId) (course : CourseKey) (block : BlockId)
      (earned possible : Double) (attempted : Bool)

/-- A command and the settings it runs under. -/
structure Invocation where
  command : Command
  workspace : String := "."
  config : Option String := none
  verbose : Bool := false
  logLevel : Option String := none
  logFormat : Option String := none

namespace Invocation
open CommandLine

/-! ### Values -/

def learner? (text : String) : Option LearnerId :=
  (Decimal.naturalBelow? (Nat.pow 2 64) text).map fun n => ⟨n.toUInt64⟩

def learners? (text : String) : Option (List LearnerId) :=
  (Text.pieces ',' text).mapM learner?

def format? : String → Option Presentation.Format
  | "text" => some .text
  | "json" => some .json
  | _ => none

/-- A path, which is never empty. -/
def isPath (text : String) : Bool := !text.isEmpty

/-! ### The grammar -/

def learnerOption : OptionRule where
  name := "learner"
  required := true
  accepts := fun text => (learner? text).isSome

def courseOption : OptionRule where
  name := "course"
  required := true

def formatOption : OptionRule where
  name := "format"
  about := "Output format"
  fallback := some "text"
  choices := ["text", "json"]
  accepts := fun text => (format? text).isSome

def numberOption (name : String) : OptionRule where
  name
  required := true
  accepts := fun text => (Decimal.ofText? text).isSome

def targetOptions : List OptionRule :=
  [{ learnerOption with about := "Learner id" },
    { name := "username", about := "Learner username (defaults to learner-<id>)" },
    { courseOption with about := "Course key" }, formatOption]

def batchOptions : List OptionRule :=
  [{ courseOption with about := "Course key" },
    { name := "learners", about := "Comma-separated learner ids", arity := .repeated
      required := true, accepts := fun text => (learners? text).isSome },
    { name := "force-update", arity := .flag
      about := "Recompute every grade even when the stored one is current" },
    formatOption]

def recordOptions : List OptionRule :=
  [learnerOption, courseOption, { name := "block", required := true }, numberOption "earned",
    numberOption "possible",
    { name := "not-attempted", about := "Record the score as not attempted", arity := .flag }]

def programOptions : List OptionRule :=
  [{ name := "workspace", about := "Workspace root directory", fallback := some "."
     accepts := isPath },
    { name := "config", accepts := isPath
      about := "Configuration file path (overrides default config loading)" },
    { name := "verbose", about := "Enable verbose logging", arity := .flag },
    { name := "log-level", about := "Log level (trace, debug, info, warn, error, off)" },
    { name := "log-format", about := "Log format (json, text)" }]

/-- The command line of the program. -/
def grammar : Grammar where
  about := "Resolve, persist, and inspect learner course grades"
  options := programOptions
  commands :=
    [("create", ⟨"Resolve a grade, recomputing only when missing or stale", targetOptions, []⟩),
      ("read", ⟨"Show the stored grade without checking policy freshness", targetOptions, []⟩),
      ("update", ⟨"Recompute and persist a grade", targetOptions, []⟩),
      ("iter", ⟨"Grade many learners in one course", batchOptions, []⟩),
      ("courses", ⟨"List indexed course definitions", [], []⟩),
      ("score", ⟨"Learner score commands", [],
        [("record", ⟨"Record a learner's score on a block", recordOptions, []⟩)]⟩)]

/-! ### What arguments stand for -/

def target? (given : Given) : Option GradeTarget := do
  let learner ← learner? (← given.lookup "learner")
  let course ← given.lookup "course"
  let format ← format? ((given.lookup "format").getD "text")
  some ⟨learner, given.lookup "username", ⟨course⟩, format⟩

def batch? (given : Given) : Option Command := do
  let course ← given.lookup "course"
  let lists ← ((given.filter fun e => e.1 == "learners").map (·.2)).mapM learners?
  let format ← format? ((given.lookup "format").getD "text")
  some (.batch ⟨course⟩ lists.flatten (.ofForce (given.lookup "force-update").isSome) format)

def record? (given : Given) : Option Command := do
  let learner ← learner? (← given.lookup "learner")
  let course ← given.lookup "course"
  let block ← given.lookup "block"
  let earned ← Decimal.doubleOfText? (← given.lookup "earned")
  let possible ← Decimal.doubleOfText? (← given.lookup "possible")
  some (.recordScore learner ⟨course⟩ block earned possible
    (given.lookup "not-attempted").isNone)

def command? (args : Arguments) : Option Command :=
  match args.commands with
  | ["create"] => (target? args.given).map .create
  | ["read"] => (target? args.given).map .read
  | ["update"] => (target? args.given).map .update
  | ["iter"] => batch? args.given
  | ["courses"] => some .courses
  | ["score", "record"] => record? args.given
  | _ => none

def ofGiven? (args : Arguments) : Option Invocation := do
  let command ← command? args
  some { command
         workspace := (args.given.lookup "workspace").getD "."
         config := args.given.lookup "config"
         verbose := (args.given.lookup "verbose").isSome
         logLevel := args.given.lookup "log-level"
         logFormat := args.given.lookup "log-format" }

/-- What the arguments behind the program's name ask for. -/
def ofArguments (args : List String) : Except Stop Invocation := do
  match ofGiven? (← grammar.read args) with
  | some invocation => .ok invocation
  | none => .error .misuse

end Invocation

end Gradebook
