import CommandRouter.Text.Cut

/-!
# The command line of the calculator

The program takes a configuration file, the id of the application and a flag. An option has its
value behind an equals sign or in the next argument, which must not look like an option itself. Each
option is given at most once. The first argument that is wrong, or that asks for help or the
version, decides.
-/

namespace CommandRouter.Calculator

/-- What the program is asked to do. -/
structure Arguments where
  /-- The configuration file, if it is not searched for. -/
  config : Option String := none
  /-- The id of the application. -/
  applicationId : String := "local"
  /-- Whether the published commands are printed. -/
  printsCommands : Bool := false
  deriving DecidableEq

/-- What the command line asks for. -/
inductive Request where
  /-- To run. -/
  | run (a : Arguments)
  /-- To explain the arguments. -/
  | help
  /-- To name the version. -/
  | version
  deriving DecidableEq

/-- Why a command line is refused. -/
inductive ArgumentError where
  /-- There is no such argument. -/
  | unexpected (argument : String)
  /-- The option needs a value. -/
  | valueMissing (option : String)
  /-- The flag takes no value. -/
  | valueRefused (flag : String)
  /-- The option or flag is given twice. -/
  | repeated (option : String)
  deriving DecidableEq

/-- The error in words. -/
def ArgumentError.message : ArgumentError → String
  | unexpected argument => s!"unexpected argument {argument}"
  | valueMissing option => s!"a value is required for {option}"
  | valueRefused flag => s!"{flag} takes no value"
  | repeated option => s!"{option} cannot be used multiple times"

/-- An option with a value. -/
inductive ValueOption where
  | config
  | applicationId
  deriving DecidableEq

/-- The option as it is written. -/
def ValueOption.name : ValueOption → String
  | config => "--config"
  | applicationId => "--application-id"

/-- What an argument is. -/
inductive Argument where
  /-- An option, with its value if that is attached. -/
  | option (o : ValueOption) (attached : Option String)
  /-- The flag that asks for the commands. -/
  | printCommands
  /-- The flag that asks for help. -/
  | help
  /-- The flag that asks for the version. -/
  | version
  /-- The mark behind which there are no options. -/
  | separator
  /-- Anything else. -/
  | unknown (e : ArgumentError)

namespace Argument

/-- A flag, which has no value attached. -/
def flag (a : Argument) (name : String) : Option String → Argument
  | none => a
  | some _ => unknown (.valueRefused name)

/-- An argument behind two dashes. -/
def ofLong (argument name : String) (attached : Option String) : Argument :=
  match name with
  | "config" => option .config attached
  | "application-id" => option .applicationId attached
  | "print-commands" => printCommands.flag "--print-commands" attached
  | "help" => help.flag "--help" attached
  | "version" => version.flag "--version" attached
  | _ => unknown (.unexpected argument)

/-- The value attached to a letter. -/
def attachedTo : List Char → Option String
  | [] => none
  | '=' :: cs => some (.ofList cs)
  | cs => some (.ofList cs)

/-- What an argument is. -/
def ofText (argument : String) : Argument :=
  match argument.toList with
  | ['-', '-'] => separator
  | '-' :: '-' :: body =>
    match Text.cutAt '=' body with
    | some (name, value) => ofLong argument (.ofList name) (some (.ofList value))
    | none => ofLong argument (.ofList body) none
  | '-' :: 'c' :: cs => option .config (attachedTo cs)
  | '-' :: 'h' :: _ => help
  | '-' :: 'V' :: _ => version
  | _ => unknown (.unexpected argument)

/-- Whether an argument can be the value of the option before it. -/
def isValue (argument : String) : Bool := argument == "-" || argument.toList.head? != some '-'

end Argument

/-- The options read so far. -/
structure Draft where
  /-- The configuration file. -/
  config : Option String := none
  /-- The id of the application. -/
  applicationId : Option String := none
  /-- Whether the flag was given. -/
  printsCommands : Bool := false

namespace Draft

/-- The options with one more. The path of a file is not empty. -/
def set (d : Draft) (value : String) : ValueOption → Except ArgumentError Draft
  | .config =>
    if d.config.isSome then .error (.repeated ValueOption.config.name)
    else if value.isEmpty then .error (.valueMissing ValueOption.config.name)
    else .ok { d with config := some value }
  | .applicationId =>
    if d.applicationId.isSome then .error (.repeated ValueOption.applicationId.name)
    else .ok { d with applicationId := some value }

/-- The arguments that the options make. -/
def arguments (d : Draft) : Arguments :=
  { config := d.config
    applicationId := d.applicationId.getD "local"
    printsCommands := d.printsCommands }

end Draft

namespace Request

/-- Reads arguments on top of the options read so far. -/
def parseFrom (d : Draft) : List String → Except ArgumentError Request
  | [] => .ok (.run d.arguments)
  | argument :: rest =>
    match Argument.ofText argument with
    | .option o (some value) =>
      match d.set value o with
      | .ok d => parseFrom d rest
      | .error e => .error e
    | .option o none =>
      match rest with
      | value :: rest =>
        if Argument.isValue value then
          match d.set value o with
          | .ok d => parseFrom d rest
          | .error e => .error e
        else .error (.valueMissing o.name)
      | [] => .error (.valueMissing o.name)
    | .printCommands =>
      if d.printsCommands then .error (.repeated "--print-commands")
      else parseFrom { d with printsCommands := true } rest
    | .help => .ok .help
    | .version => .ok .version
    | .separator =>
      match rest with
      | [] => .ok (.run d.arguments)
      | other :: _ => .error (.unexpected other)
    | .unknown e => .error e

/-- Reads a command line. -/
def parse (arguments : List String) : Except ArgumentError Request := parseFrom {} arguments

end Request

end CommandRouter.Calculator
