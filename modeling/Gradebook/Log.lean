/-
# Gradebook.Log — entries of the program's log

An entry has a level, the part of the program it comes from, a message and named
fields. Where entries go and which of them are shown is not decided here.
-/
import Gradebook.Identity

namespace Gradebook

set_option autoImplicit false

/-- Levels from the most to the least urgent. -/
inductive LogLevel where
  | error
  | warn
  | info
  | debug
  | trace
  deriving DecidableEq, Repr

namespace LogLevel

/-- Higher ranks are more talkative. -/
def rank : LogLevel → Nat
  | .error => 1
  | .warn => 2
  | .info => 3
  | .debug => 4
  | .trace => 5

def text : LogLevel → String
  | .error => "ERROR"
  | .warn => "WARN"
  | .info => "INFO"
  | .debug => "DEBUG"
  | .trace => "TRACE"

end LogLevel

/-- The part of the program an entry comes from. -/
inductive LogOrigin where
  | program
  | cache
  | calculator
  | commands
  | context
  | engine
  | globalSettings
  | loader
  | settings
  | signals
  deriving DecidableEq, Repr

namespace LogOrigin

/-- The name filters know the part by. -/
def target : LogOrigin → String
  | .program => "coursegrade"
  | .cache => "coursegrade::cache"
  | .calculator => "coursegrade::grade::calculator"
  | .commands => "coursegrade::cli::route"
  | .context => "coursegrade::course"
  | .engine => "coursegrade::engine"
  | .globalSettings => "coursegrade::config::sources::global_file"
  | .loader => "coursegrade::course::loader"
  | .settings => "coursegrade::config::facade"
  | .signals => "coursegrade::signals"

end LogOrigin

/-- One entry of the log. -/
structure LogEntry where
  level : LogLevel
  origin : LogOrigin
  message : String
  fields : List (String × String) := []
  deriving DecidableEq, Repr

end Gradebook
