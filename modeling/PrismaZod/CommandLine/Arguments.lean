import PrismaZod.Assignment
import PrismaZod.Path

/-!
# Arguments of the command line

The first argument names a command.  Only the command that generates files has
options, each with a value: after a long name with an equals sign, after a short
name with or without one, or as the next argument.  The next argument is a value
only if it does not look like an option.
-/

namespace PrismaZod.CommandLine

/-- The options of the command that generates files. -/
inductive OptionName
  | schema
  | config
  | output
  | set
deriving DecidableEq, Repr, Inhabited

namespace OptionName

def long : OptionName → String
  | schema => "schema"
  | config => "config"
  | output => "output"
  | set => "set"

def all : List OptionName := [schema, config, output, set]

def ofLong? (name : String) : Option OptionName :=
  all.find? fun option => option.long == name

def ofShort? : Char → Option OptionName
  | 's' => some schema
  | 'c' => some config
  | 'o' => some output
  | _ => none

end OptionName

/-- Why arguments lead to no command. -/
inductive UsageFault
  /-- They ask for help in the stead of a run. -/
  | helpAsked
  | noCommand
  | unknownCommand (name : String)
  /-- The argument is out of place. -/
  | unexpected (argument : String)
  | noValue (option : OptionName)
  | repeated (option : OptionName)
  | missing (option : OptionName)
  | assignment (fault : AssignmentFault)
deriving DecidableEq, Repr, Inhabited

def UsageFault.message : UsageFault → String
  | helpAsked => "help is asked for"
  | noCommand => "a command is needed"
  | unknownCommand name => "there is no command " ++ name
  | unexpected argument => "unexpected argument " ++ argument
  | noValue option => "option --" ++ option.long ++ " needs a value"
  | repeated option => "option --" ++ option.long ++ " is given twice"
  | missing option => "option --" ++ option.long ++ " is needed"
  | assignment fault => fault.message

/-- What to generate files from, and how. -/
structure GenerateArguments where
  /-- The file of the document, or a hyphen for the standard input. -/
  schema : String
  config : Option Path
  output : Option String
  /-- Options that win over those of the configuration file. -/
  overrides : List (String × String)
deriving DecidableEq, Repr, Inhabited

inductive Command
  | version
  | generate (arguments : GenerateArguments)
  | serve
  | manifest
deriving DecidableEq, Repr, Inhabited

/-- An option with the value that is attached to it. -/
abbrev Mention := OptionName × Option String

/-- The option that a long argument mentions, given without its hyphens. -/
def longMention? (chars : List Char) : Option Mention :=
  match splitOnce '=' chars with
  | none => (OptionName.ofLong? (.ofList chars)).map fun option => (option, none)
  | some (name, value) =>
      (OptionName.ofLong? (.ofList name)).map fun option => (option, some (.ofList value))

def mention? (argument : String) : Option Mention :=
  match argument.toList with
  | '-' :: '-' :: rest => longMention? rest
  | ['-', letter] => (OptionName.ofShort? letter).map fun option => (option, none)
  | '-' :: letter :: '=' :: value =>
      (OptionName.ofShort? letter).map fun option => (option, some (.ofList value))
  | '-' :: letter :: value =>
      (OptionName.ofShort? letter).map fun option => (option, some (.ofList value))
  | _ => none

/-- The argument may be the value of the option before it: it is a hyphen, or
does not start with one. -/
def isValue (argument : String) : Bool :=
  argument == "-" || argument.toList.head? != some '-'

def asksForHelp (argument : String) : Bool :=
  argument == "--help" || ['-', 'h'].isPrefixOf argument.toList

/-- What the options read so far set. -/
structure Settings where
  schema : Option String
  config : Option String
  output : Option String
  /-- The assignments, newest first. -/
  assignments : List (String × String)
deriving DecidableEq, Repr, Inhabited

namespace Settings

/-- Nothing is set. -/
def empty : Settings := ⟨none, none, none, []⟩

/-- A value for an option that has none yet. -/
def first (option : OptionName) (held : Option String) (value : String) :
    Except UsageFault (Option String) :=
  if held.isSome then .error (.repeated option)
  else if value = "" then .error (.noValue option)
  else .ok (some value)

/-- Set an option. Only assignments may be repeated. -/
def enter (settings : Settings) (option : OptionName) (value : String) :
    Except UsageFault Settings :=
  match option with
  | .schema => do
      let schema ← first option settings.schema value
      pure { settings with schema := schema }
  | .config => do
      let config ← first option settings.config value
      pure { settings with config := config }
  | .output => do
      let output ← first option settings.output value
      pure { settings with output := output }
  | .set =>
      match parseAssignment value with
      | .error fault => .error (.assignment fault)
      | .ok pair => .ok { settings with assignments := pair :: settings.assignments }

/-- Set the options that arguments mention, in order. A mark that no more
options follow may stand at the end. -/
def read (settings : Settings) : List String → Except UsageFault Settings
  | [] => .ok settings
  | argument :: rest =>
      if argument = "--" ∧ rest = [] then .ok settings
      else if asksForHelp argument then .error .helpAsked
      else
        match mention? argument with
        | none => .error (.unexpected argument)
        | some (option, some value) => do
            let next ← settings.enter option value
            next.read rest
        | some (option, none) =>
            match rest with
            | [] => .error (.noValue option)
            | value :: after =>
                if isValue value then do
                  let next ← settings.enter option value
                  next.read after
                else .error (.noValue option)

def arguments (settings : Settings) : Except UsageFault GenerateArguments :=
  match settings.schema with
  | none => .error (.missing .schema)
  | some schema =>
      .ok ⟨schema, settings.config.map Path.mk, settings.output, settings.assignments.reverse⟩

end Settings

namespace Command

def plain (command : Command) : List String → Except UsageFault Command
  | [] | ["--"] => .ok command
  | argument :: _ =>
      if asksForHelp argument then .error .helpAsked else .error (.unexpected argument)

def names : List String := ["generate", "serve", "manifest", "help"]

/-- Help on a command, or in general. No command has commands of its own. -/
def helpOn : List String → Except UsageFault Command
  | [] => .error .helpAsked
  | name :: rest =>
      if names.contains name then
        match rest with
        | [] => .error .helpAsked
        | argument :: _ => .error (.unexpected argument)
      else .error (.unknownCommand name)

def ofArguments : List String → Except UsageFault Command
  | [] => .error .noCommand
  | name :: rest =>
      if name = "--version" ∨ ['-', 'V'].isPrefixOf name.toList then .ok version
      else if asksForHelp name then .error .helpAsked
      else if name = "help" then helpOn rest
      else if name = "generate" then do
        let settings ← Settings.empty.read rest
        let arguments ← settings.arguments
        pure (generate arguments)
      else if name = "serve" then serve.plain rest
      else if name = "manifest" then manifest.plain rest
      else .error (.unknownCommand name)

end Command

end PrismaZod.CommandLine
