import CommandRouter.Command.Definition
import CommandRouter.Text.Decimal

/-!
# Patterns

A pattern describes one routable command in a single line:

    /name [sub-command | group sub-command] option...

where an option reads `name:type`, with a `?` after the name if it may be left out and with
`<choice,choice=value,...>` after the type if its values are restricted. This module has the type
of the patterns themselves and of what can be wrong with a line; `Pattern.Reader` reads lines and
`Pattern.Writer` writes them.
-/

namespace CommandRouter

/-- An option of a pattern. -/
structure OptionSpec where
  /-- The name of the option. -/
  name : String
  /-- The type of its values. -/
  kind : OptionType
  /-- Whether the option must be given. -/
  required : Bool
  /-- The values to which the option is restricted; none if it is free. -/
  choices : List Choice
  deriving DecidableEq

/-- The shape of one routable command. -/
structure Pattern where
  /-- The name of the command. -/
  name : String
  /-- The way from the command to the routable node: nothing, a sub-command, or a group and a
  sub-command. -/
  path : List String := []
  /-- The options of the routable node. -/
  options : List OptionSpec := []
  deriving DecidableEq

/-- The option as part of a command definition. -/
def OptionSpec.definition (o : OptionSpec) : CommandOption :=
  .value o.name o.kind o.required o.choices

namespace Pattern

/-- The number of names that may follow the name of the command. -/
def maxDepth : Nat := 2

/-- The number of characters that the name of a choice may have. -/
def maxChoiceName : Nat := 100

/-! ## What can be wrong with a line -/

/-- A way in which a line fails to have the form of a pattern. -/
inductive Malformation where
  /-- The line has no words. -/
  | empty
  /-- The first word does not start with a slash. -/
  | noSlash
  /-- Two options have the same name. -/
  | repeatedOption (option : String)
  /-- A plain word follows an option. -/
  | wordAfterOption
  /-- A list of choices does not end in `>`. -/
  | unclosedChoices (option : String)
  /-- A list of choices has no text. -/
  | emptyChoices (option : String)
  /-- A choice has no name, no value or a name that is too long. -/
  | badChoice (choice option : String)
  /-- Two choices of an option have the same name. -/
  | repeatedChoice (choice option : String)
  deriving DecidableEq

/-- What is wrong with a line. -/
inductive Fault where
  /-- The line does not have the form of a pattern. -/
  | malformed (reason : Malformation)
  /-- A name has a character that names cannot have, or too many or too few of them. -/
  | invalidName (name : String)
  /-- An option names a type that there is not. -/
  | unknownType (option type : String)
  /-- An option of this type cannot be restricted to choices. -/
  | unsupportedChoices (option : String) (kind : OptionType)
  /-- A choice of an integer option is not a 64-bit integer. -/
  | invalidChoiceValue (option : String) (kind : OptionType) (choice : String)
  /-- More names follow the name of the command than may. -/
  | tooDeep
  deriving DecidableEq

/-- What is wrong with a line, with the line itself. -/
structure Error where
  /-- The line, collapsed if it has words and as it was given if it has none. -/
  line : String
  /-- What is wrong with it. -/
  fault : Fault
  deriving DecidableEq

/-- The reason in words. -/
def Malformation.message : Malformation → String
  | empty => "pattern must not be empty"
  | noSlash => "pattern must start with '/'"
  | repeatedOption option => s!"duplicate option `{option}`"
  | wordAfterOption => "options must trail the sub-command path"
  | unclosedChoices option => s!"unterminated choice list for option `{option}`"
  | emptyChoices option => s!"empty choice list for option `{option}`"
  | badChoice choice option => s!"invalid choice `{choice}` for option `{option}`"
  | repeatedChoice choice option => s!"duplicate choice `{choice}` for option `{option}`"

/-- The error in words. -/
def Error.message (e : Error) : String :=
  match e.fault with
  | .malformed reason => s!"malformed pattern `{e.line}`: {reason.message}"
  | .invalidName name => s!"invalid name `{name}`: expected 1 to 32 word characters or '-'"
  | .unknownType option type => s!"unknown type `{type}` for option `{option}`"
  | .unsupportedChoices option kind => s!"option `{option}` of type {kind.name} cannot have choices"
  | .invalidChoiceValue option kind choice =>
    s!"invalid {kind.name} choice `{choice}` for option `{option}`"
  | .tooDeep => s!"sub-commands can only be nested {maxDepth} layers deep: `{e.line}`"

end Pattern

end CommandRouter
