/-
# Gradebook.Logging.Line — log entries as lines

A line is plain text, with or without colours, or a JSON object. Both name the time,
the level, the origin, the message and the fields of the entry.
-/
import Gradebook.Instant
import Gradebook.Json
import Gradebook.Logging

namespace Gradebook

set_option autoImplicit false

namespace LogLevel

/-- The name in five columns. -/
def label (level : LogLevel) : String :=
  String.ofList (List.replicate (5 - level.text.length) ' ') ++ level.text

/-- The number of the colour a terminal shows the level in. -/
def colorCode : LogLevel → String
  | .error => "31"
  | .warn => "33"
  | .info => "32"
  | .debug => "34"
  | .trace => "35"

end LogLevel

namespace LogEntry

/-- A text between a terminal's switch to a style and back. -/
def styled (color : Bool) (code text : String) : String :=
  if color then "\x1b[" ++ code ++ "m" ++ text ++ "\x1b[0m" else text

def textLine (color : Bool) (now : Instant) (e : LogEntry) : String :=
  let dim := styled color "2"
  let fields := e.fields.map fun f => " " ++ styled color "3" f.1 ++ dim "=" ++ f.2
  dim now.textWithOffset ++ " " ++ styled color e.level.colorCode e.level.label ++ " " ++
    dim e.origin.target ++ dim ":" ++ " " ++ e.message ++ String.join fields

def jsonLine (now : Instant) (e : LogEntry) : String :=
  Json.write (.table [("timestamp", .text now.textWithOffset), ("level", .text e.level.text),
    ("fields", .table (("message", .text e.message) :: e.fields.map fun f => (f.1, .text f.2))),
    ("target", .text e.origin.target)])

end LogEntry

namespace LogSink

/-- The line of an entry in the format of the sink. -/
def line (sink : LogSink) (now : Instant) (e : LogEntry) : String :=
  match sink.format with
  | .text => e.textLine sink.color now
  | .json => e.jsonLine now

end LogSink

end Gradebook
