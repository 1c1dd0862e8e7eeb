/-
# Gradebook.CommandLine.Usage — help with a level of the command line

What the level is for, how it is called, and its commands and options in two
columns. The option and the command for help themselves come last.
-/
import Gradebook.CommandLine.Grammar
import Gradebook.Text.Blank

namespace Gradebook.CommandLine

set_option autoImplicit false

namespace OptionRule

/-- What stands for the value of an option. -/
def placeholder (o : OptionRule) : String :=
  String.ofList (o.name.toList.map fun c => if c = '-' then '_' else c.toUpper)

/-- An option as it is written. -/
def form (o : OptionRule) : String :=
  match o.arity with
  | .flag => "--" ++ o.name
  | _ => "--" ++ o.name ++ " <" ++ o.placeholder ++ ">"

/-- What an option is for, its value if it is not given, and the values it can have. -/
def remarks (o : OptionRule) : String :=
  let fallback := o.fallback.map fun value => "[default: " ++ value ++ "]"
  let choices := if o.choices.isEmpty then none
    else some ("[possible values: " ++ ", ".intercalate o.choices ++ "]")
  " ".intercalate ((if o.about.isEmpty then [] else [o.about]) ++ fallback.toList ++
    choices.toList)

end OptionRule

namespace Usage

/-- Two columns, the left one as wide as its widest entry. -/
def columns (rows : List (String × String)) : List String :=
  let width := rows.foldl (fun n row => max n row.1.length) 0
  rows.map fun row => "  " ++ row.1.pushn ' ' (width - row.1.length + 2) ++ row.2

def titled (title : String) (rows : List (String × String)) : List String :=
  if rows.isEmpty then [] else ["", title] ++ columns rows

/-- How a level is called: required options are written out. -/
def call (program : String) (g : Grammar) (commands : List String) : String :=
  let (required, others) := g.options.partition (·.required)
  " ".intercalate (program :: commands ++ (if others.isEmpty then [] else ["[OPTIONS]"]) ++
    required.map OptionRule.form ++ (if g.commands.isEmpty then [] else ["<COMMAND>"]))

def helpAbout : String := "Print this message or the help of the given subcommand(s)"

def commandRows (g : Grammar) : List (String × String) :=
  if g.commands.isEmpty then []
  else (g.commands.map fun e => (e.1, e.2.about)) ++ [(Grammar.helpCommand, helpAbout)]

/-- There are no short options but the one for help. -/
def optionRows (g : Grammar) : List (String × String) :=
  (g.options.map fun o => ("    " ++ o.form, o.remarks)) ++ [("-h, --help", "Print help")]

def levelText (program : String) (g : Grammar) (commands : List String) : String :=
  "\n".intercalate ([g.about, "", "Usage: " ++ call program g commands] ++
    titled "Commands:" (commandRows g) ++ titled "Options:" (optionRows g))

/-- Help with the command for help. -/
def helpText (program : String) (commands : List String) : String :=
  "\n".intercalate ([helpAbout, "",
      "Usage: " ++ " ".intercalate (program :: commands) ++ " [COMMAND]..."] ++
    titled "Arguments:" [("[COMMAND]...", "Print help for the subcommand(s)")])

/-- Help with the level that commands lead to. -/
def text (program : String) (g : Grammar) (commands : List String) : String :=
  match g.level? commands with
  | some level => levelText program level commands
  | none => helpText program commands

end Usage

end Gradebook.CommandLine
