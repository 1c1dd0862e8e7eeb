/-
# Gradebook.CommandLine.Grammar — how arguments are given

Arguments are options and at most one command per level; the options of a level
stand before its command. An option with a value takes it from behind an equals
sign or from the next argument, unless that looks like an option itself. Options
are given once, except those that repeat. Every level can be asked for help, and a
level with commands also by its command `help`. Whatever else does not fit is
refused as a whole.
-/

namespace Gradebook.CommandLine

set_option autoImplicit false

/-- How often and with what an option is given. -/
inductive Arity where
  | flag
  | single
  | repeated
  deriving DecidableEq, Repr

/-- An option and what it is for. -/
structure OptionRule where
  name : String
  about : String := ""
  arity : Arity := .single
  required : Bool := false
  /-- The value of an option that is not given. -/
  fallback : Option String := none
  /-- The only values there are, if they are few. -/
  choices : List String := []
  accepts : String → Bool := fun _ => true

/-- One level of a command line. An option's name occurs on one level only. -/
structure Grammar where
  about : String
  options : List OptionRule := []
  commands : List (String × Grammar) := []

/-- The options given, in order; flags have an empty value. -/
abbrev Given : Type := List (String × String)

/-- Arguments that fit: the commands from the outermost on, and the options of all levels. -/
structure Arguments where
  commands : List String
  given : Given
  deriving DecidableEq, Repr

/-- Why arguments do not say what to do. -/
inductive Stop where
  | misuse
  /-- Help is asked for with the level that these commands lead to. -/
  | help (commands : List String)
  deriving DecidableEq, Repr

namespace Grammar

def option? (g : Grammar) (name : String) : Option OptionRule :=
  g.options.find? fun o => o.name == name

/-- The level that commands lead to. -/
def level? : Grammar → List String → Option Grammar
  | g, [] => some g
  | g, name :: rest =>
    match g.commands.lookup name with
    | some level => level.level? rest
    | none => none

/-- The command of every level with commands that prints help. -/
def helpCommand : String := "help"

/-- Whether there is help for commands: they lead to a level, or on from one with commands
to its command for help. -/
def hasHelp (g : Grammar) (commands : List String) : Bool :=
  (g.level? commands).isSome || (commands.getLast? = some helpCommand &&
    (g.level? commands.dropLast).any fun level => !level.commands.isEmpty)

/-- Whether what is given on this level has values of its options and repeats none that
may not repeat. -/
def accepts (g : Grammar) (given : Given) : Bool :=
  g.options.all fun o =>
    let values := (given.filter fun e => e.1 == o.name).map (·.2)
    values.all o.accepts && (o.arity = .repeated || values.length ≤ 1)

/-- The end of the arguments on a level: no command and no option is missing. -/
def finish (g : Grammar) (commands : List String) (given : Given) : Except Stop Arguments :=
  let complete := g.options.all fun o => !o.required || (given.lookup o.name).isSome
  if g.commands.isEmpty && complete && g.accepts given then .ok ⟨commands, given⟩
  else .error .misuse

/-- An option: its name and a value behind an equals sign. -/
def optionOf? (arg : String) : Option (String × Option String) :=
  match arg.toList with
  | '-' :: '-' :: rest =>
    let (name, value) := rest.span (· ≠ '=')
    some (String.ofList name, match value with
      | _ :: value => some (String.ofList value)
      | [] => none)
  | _ => none

/-- Whether an argument is taken for an option. A single hyphen is not. -/
def looksLikeOption (arg : String) : Bool := arg.startsWith "-" && arg ≠ "-"

/-- The long form of the option for help, or short options with that for help first. -/
def asksForHelp (arg : String) : Bool := arg = "--help" || arg.startsWith "-h"

/-- Read the arguments of a level, which `commands` led to. Nothing but the end may follow
two hyphens. A flag or a value behind an equals sign is looked at once; a value of its own
waits for the next option or, if a command comes next, for the end of that command. -/
def scan : Grammar → List String → Given → List String → Except Stop Arguments
  | g, commands, given, [] => g.finish commands given
  | g, commands, given, "--" :: rest =>
    if rest.isEmpty then g.finish commands given else .error .misuse
  | g, commands, given, arg :: rest =>
    if looksLikeOption arg then
      if !g.accepts given then .error .misuse
      else if asksForHelp arg then .error (.help commands)
      else match optionOf? arg with
        | none => .error .misuse
        | some (name, value) =>
          match g.option? name with
          | none => .error .misuse
          | some o =>
            match o.arity, value, rest with
            | .flag, none, rest =>
              let given := given ++ [(name, "")]
              if g.accepts given then scan g commands given rest else .error .misuse
            | .flag, some _, _ => .error .misuse
            | _, some value, rest =>
              let given := given ++ [(name, value)]
              if g.accepts given then scan g commands given rest else .error .misuse
            | _, none, value :: rest =>
              if looksLikeOption value then .error .misuse
              else scan g commands (given ++ [(name, value)]) rest
            | _, none, [] => .error .misuse
    else match g.commands.lookup arg with
      | some level => do
        let arguments ← scan level (commands ++ [arg]) given rest
        if g.accepts given then .ok arguments else .error .misuse
      | none =>
        if arg = helpCommand && !g.commands.isEmpty && g.hasHelp rest then
          .error (.help (commands ++ rest))
        else .error .misuse

/-- Read arguments from the outermost level on. -/
def read (g : Grammar) (args : List String) : Except Stop Arguments := g.scan [] [] args

end Grammar

end Gradebook.CommandLine
