import CommandRouter.DispatchKey
import CommandRouter.Json.Value
import CommandRouter.Text.Decimal

/-!
# Interactions

An interaction is what reaches a bot when a user invokes one of its commands. The data of the
command follow one path of the command tree: the first option may be a sub-command, or a group that
holds one, and the values stand at the innermost level. Both the dispatch key and the values are
found by going down along first options.
-/

namespace CommandRouter

/-- The kind of an interaction. -/
inductive InteractionType where
  | ping
  | applicationCommand
  | messageComponent
  | autocomplete
  | modalSubmit
  deriving DecidableEq

namespace InteractionType

/-- The number that stands for the kind on the wire. -/
def code : InteractionType → Nat
  | ping => 1
  | applicationCommand => 2
  | messageComponent => 3
  | autocomplete => 4
  | modalSubmit => 5

/-- The kind that a number on the wire stands for. -/
def ofCode? : Nat → Option InteractionType
  | 1 => some ping
  | 2 => some applicationCommand
  | 3 => some messageComponent
  | 4 => some autocomplete
  | 5 => some modalSubmit
  | _ => none

/-- The name of the kind. -/
def name : InteractionType → String
  | ping => "Ping"
  | applicationCommand => "ApplicationCommand"
  | messageComponent => "MessageComponent"
  | autocomplete => "Autocomplete"
  | modalSubmit => "ModalSubmit"

/-- Whether the interaction carries a command. -/
def isCommand : InteractionType → Bool
  | applicationCommand | autocomplete => true
  | _ => false

end InteractionType

/-- A user of the platform. -/
structure User where
  /-- The id of the user. -/
  id : String
  /-- The name of the account. -/
  username : String := ""
  /-- The name that the user shows everywhere. -/
  globalName : Option String := none
  deriving DecidableEq

/-- A user as a member of a guild. -/
structure Member where
  /-- The user. -/
  user : Option User := none
  /-- The name that the member shows in the guild. -/
  nick : Option String := none
  /-- The ids of the roles of the member. -/
  roles : List String := []
  deriving DecidableEq

/-- An option as it is received. -/
structure DataOption where
  /-- The name of the option. -/
  name : String
  /-- The type of the option. -/
  kind : OptionType
  /-- The value, if the option has one. -/
  value : Option Json := none
  /-- The options below a nesting option. -/
  options : List DataOption := []
  /-- Whether the user is typing into this option. -/
  focused : Bool := false

/-- The command of an interaction. -/
structure CommandData where
  /-- The id of the command. -/
  id : String := ""
  /-- The name of the command. -/
  name : String := ""
  /-- The kind of the command. -/
  kind : CommandType := .chatInput
  /-- The options of the command. -/
  options : List DataOption := []
  /-- The guild that the command belongs to. -/
  guildId : Option String := none

/-- What a session delivers to a bot. -/
structure Interaction where
  /-- The id of the interaction, by which it is replied to. -/
  id : String
  /-- The application that the interaction is meant for. -/
  applicationId : String := ""
  /-- The kind of the interaction. -/
  kind : InteractionType
  /-- The command, if there is one. -/
  data : Option CommandData := none
  /-- The guild in which the interaction took place. -/
  guildId : Option String := none
  /-- The channel in which the interaction took place. -/
  channelId : Option String := none
  /-- The invoking member, in a guild. -/
  member : Option Member := none
  /-- The invoking user, in a direct message. -/
  user : Option User := none
  /-- The token with which the interaction is replied to. -/
  token : String := ""

/-! ## Values -/

namespace DataOption

/-- A sub-command with the given options. -/
def subCommand (name : String) (options : List DataOption) : DataOption :=
  { name, kind := .subCommand, options }

/-- A group with a sub-command. -/
def group (name : String) (child : DataOption) : DataOption :=
  { name, kind := .subCommandGroup, options := [child] }

/-- An option with a value. -/
def ofValue (name : String) (kind : OptionType) (value : Json) : DataOption :=
  { name, kind, value := some value }

/-- The value as an integer of 64 bits with a sign. A number that is not kept as one counts as a
double, if that is whole and lies in the range. -/
def int? (o : DataOption) : Option Int :=
  match o.value with
  | some (.number v) =>
    v.signed?.or ((v.double?.filter fun x => x.isWhole && x.inSignedRange).map Double.toSigned)
  | _ => none

/-- The value as a text. -/
def string? (o : DataOption) : Option String :=
  match o.value with
  | some (.string s) => some s
  | _ => none

/-- The value as a truth value. -/
def bool? (o : DataOption) : Option Bool :=
  match o.value with
  | some (.bool b) => some b
  | _ => none

/-- The value as an id, for the types whose values are ids. -/
def reference? (o : DataOption) : Option String := if o.kind.isReference then o.string? else none

end DataOption

/-! ## Going down -/

namespace CommandData

/-- The names on the way down to the routable node. -/
def path (d : CommandData) : List String :=
  match d.options.head? with
  | none => []
  | some first =>
    match first.kind with
    | .subCommandGroup => first.name :: (first.options.head?.map (·.name)).toList
    | .subCommand => [first.name]
    | _ => []

/-- The dispatch key of the invoked command. -/
def key (d : CommandData) : DispatchKey := .ofPath d.name d.path

/-- The options of the innermost level. -/
def values (d : CommandData) : List DataOption :=
  match d.options.head? with
  | none => d.options
  | some first =>
    match first.kind with
    | .subCommandGroup => (first.options.head?.map (·.options)).getD []
    | .subCommand => first.options
    | _ => d.options

/-- The data of a command with the given options at its top level. -/
def ofOptions (name : String) (options : List DataOption) : CommandData := { name, options }

/-- The data of an invocation of the node that a path leads to, with the given values. -/
def ofPath (name : String) (path : List String) (values : List DataOption) : CommandData :=
  match path with
  | [] => .ofOptions name values
  | [sub] => .ofOptions name [.subCommand sub values]
  | group :: sub :: _ => .ofOptions name [.group group (.subCommand sub values)]

end CommandData

namespace Interaction

/-- The invocation of a command. -/
def ofCommand (id : String) (data : CommandData) : Interaction :=
  { id, kind := .applicationCommand, data := some data }

/-- The command, for the kinds of interactions that carry one. -/
def command? (i : Interaction) : Option CommandData := if i.kind.isCommand then i.data else none

/-- The user behind the interaction: the member's user, or else the user of a direct message. -/
def invoker? (i : Interaction) : Option User := (i.member.bind (·.user)).or i.user

/-- The options of the innermost level of the command. -/
def options (i : Interaction) : List DataOption := (i.command?.map CommandData.values).getD []

/-- The first option of the innermost level with the given name. -/
def option? (i : Interaction) (name : String) : Option DataOption :=
  i.options.find? fun o => o.name == name

end Interaction

end CommandRouter
