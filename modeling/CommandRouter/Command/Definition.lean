import CommandRouter.Command.OptionType
import CommandRouter.Text.Decimal

/-!
# Command definitions

What a chat platform is told about the commands of a bot. A definition is a tree: a command has
options, and a sub-command or a group of sub-commands is itself an option that holds further ones.
The other options are its leaves and describe a value.
-/

namespace CommandRouter

/-- The kind of a command: typed into the chat, or picked from the menu of a user or a message. -/
inductive CommandType where
  | chatInput
  | user
  | message
  deriving DecidableEq

/-- The number that stands for the kind on the wire. -/
def CommandType.code : CommandType → Nat
  | chatInput => 1
  | user => 2
  | message => 3

/-- The kind that a number on the wire stands for. -/
def CommandType.ofCode? : Nat → Option CommandType
  | 1 => some chatInput
  | 2 => some user
  | 3 => some message
  | _ => none

/-- The value that a choice stands for: a signed 64-bit integer or a text. -/
inductive ChoiceValue where
  | integer (n : Int64)
  | text (s : String)
  deriving DecidableEq

/-- One of the values to which an option is restricted, with the name that users see. -/
structure Choice where
  /-- What users see. -/
  name : String
  /-- What the bot receives. -/
  value : ChoiceValue
  deriving DecidableEq

/-- An option of a command. -/
structure CommandOption where
  /-- The name of the option. -/
  name : String
  /-- What users read about the option. -/
  description : String
  /-- The type of the option. -/
  kind : OptionType
  /-- Whether the option must be given. -/
  required : Bool := false
  /-- The values to which the option is restricted; none if it is free. -/
  choices : List Choice := []
  /-- The options below a nesting option. -/
  options : List CommandOption := []

/-- A top-level command. -/
structure ApplicationCommand where
  /-- The id under which the platform stores the command. -/
  id : Option String := none
  /-- The application that the command belongs to. -/
  applicationId : Option String := none
  /-- The guild in which the command is visible; everywhere if there is none. -/
  guildId : Option String := none
  /-- The name of the command. -/
  name : String
  /-- What users read about the command. -/
  description : String
  /-- The kind of the command. -/
  kind : CommandType := .chatInput
  /-- The options of the command. -/
  options : List CommandOption := []

namespace ChoiceValue

/-- The value as users would type it. -/
def display : ChoiceValue → String
  | integer n => Decimal.text n.toInt
  | text s => s

end ChoiceValue

/-! ## Building definitions -/

namespace CommandOption

/-- A sub-command with the given options; its description is its name. -/
def subCommand (name : String) (options : List CommandOption) : CommandOption :=
  { name, description := name, kind := .subCommand, options }

/-- A group with the given sub-commands; its description is its name. -/
def group (name : String) (options : List CommandOption) : CommandOption :=
  { name, description := name, kind := .subCommandGroup, options }

/-- A value option; its description is its name. -/
def value (name : String) (kind : OptionType) (required : Bool) (choices : List Choice) :
    CommandOption :=
  { name, description := name, kind, required, choices }

/-- Whether the option has the given name and type. -/
def named (name : String) (kind : OptionType) (o : CommandOption) : Bool :=
  o.name == name && o.kind == kind

/-- The first option below this one with the given name and type. -/
def find? (o : CommandOption) (name : String) (kind : OptionType) : Option CommandOption :=
  o.options.find? (named name kind)

end CommandOption

namespace ApplicationCommand

/-- A command typed into the chat, without options; its description is its name. -/
def chatInput (name : String) : ApplicationCommand := { name, description := name }

/-- Whether the command branches into sub-commands or groups. -/
def isBranching (c : ApplicationCommand) : Bool := c.options.any fun o => o.kind.isNesting

/-- The first option of the command with the given name and type. -/
def find? (c : ApplicationCommand) (name : String) (kind : OptionType) : Option CommandOption :=
  c.options.find? (CommandOption.named name kind)

end ApplicationCommand

mutual

/-- All choices of an option and of the options below it, from the top down. -/
def CommandOption.allChoices : CommandOption → List Choice
  | ⟨_, _, _, _, choices, options⟩ => choices ++ CommandOption.allChoicesOf options

/-- All choices of a list of options. -/
def CommandOption.allChoicesOf : List CommandOption → List Choice
  | [] => []
  | o :: os => o.allChoices ++ CommandOption.allChoicesOf os

end

end CommandRouter
