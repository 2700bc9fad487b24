import CommandRouter.Event
import CommandRouter.Text.Blank
import CommandRouter.Text.Quoted

/-!
# The configuration of a bot

A configuration holds the credentials of a bot, where it publishes its commands, and what it logs.
Every part of it has a default. `Config.check` finds what reads well but does not work.
-/

namespace CommandRouter

/-! ## Logging -/

/-- The layout of log lines. -/
inductive LogFormat where
  | compact
  | full
  | pretty
  | json
  deriving DecidableEq

/-- Where log lines go. -/
inductive LogOutput where
  | stdout
  | stderr
  | file
  deriving DecidableEq

/-- The moments in the life of a span that are logged. -/
structure SpanEvents where
  /-- When it is made. -/
  new : Bool := false
  /-- When it is entered. -/
  enter : Bool := false
  /-- When it is left. -/
  exit : Bool := false
  /-- When it ends. -/
  close : Bool := false
  deriving DecidableEq

/-- What is logged, and where. -/
structure LoggingConfig where
  /-- The least important level that is logged. -/
  level : Level := .info
  /-- The layout of the lines. -/
  format : LogFormat := .compact
  /-- Where the lines go. -/
  output : LogOutput := .stdout
  /-- The file that the lines go to, if they go to a file. -/
  filePath : Option String := none
  /-- Whether lines show the thread. -/
  threadIds : Bool := false
  /-- Whether lines show the place in the program. -/
  fileLocation : Bool := false
  /-- The moments in the life of a span that are logged. -/
  spanEvents : SpanEvents := {}
  /-- Levels for single modules, in the order of the names of the modules. -/
  filters : List (String × Level) := []
  deriving DecidableEq

namespace Level

/-- The level of the given name. -/
def ofName? (s : String) : Option Level := all.find? fun l => l.name == s

end Level

namespace LogFormat

/-- The name of the layout. -/
def name : LogFormat → String
  | compact => "compact"
  | full => "full"
  | pretty => "pretty"
  | json => "json"

/-- The layout of the given name. -/
def ofName? (s : String) : Option LogFormat :=
  [compact, full, pretty, json].find? fun f => f.name == s

end LogFormat

namespace LogOutput

/-- The name of the output. -/
def name : LogOutput → String
  | stdout => "stdout"
  | stderr => "stderr"
  | file => "file"

/-- The output of the given name. -/
def ofName? (s : String) : Option LogOutput := [stdout, stderr, file].find? fun o => o.name == s

end LogOutput

/-! ## The configuration -/

/-- The credentials of a bot, and where it publishes its commands. -/
structure BotConfig where
  /-- The secret by which the platform knows the bot. -/
  token : Option String := none
  /-- The guild in which commands are published. -/
  guildId : Option String := none
  deriving DecidableEq

/-- The configuration of a bot. -/
structure Config where
  /-- The credentials. -/
  bot : BotConfig := {}
  /-- What is logged. -/
  logging : LoggingConfig := {}
  deriving DecidableEq

/-- Why there is no configuration, or none that works. -/
inductive ConfigError where
  /-- A file that was asked for does not exist. -/
  | fileNotFound (path : String)
  /-- The extension of a file stands for no known format. -/
  | unsupportedFormat (extension : String)
  /-- The value that the keys lead to has the wrong shape; without keys a whole source has. -/
  | misfit (keys : List String)
  /-- The id of the guild is no number. -/
  | guildIdNotNumeric (id : String)
  /-- There is no such layout of log lines. -/
  | formatUnavailable (format : LogFormat)
  /-- A value that is needed is missing. -/
  | missing (key : String)
  deriving DecidableEq

/-- The error in words. -/
def ConfigError.message : ConfigError → String
  | fileNotFound path => s!"Configuration file not found: {path}"
  | unsupportedFormat extension =>
    s!"Unsupported or disabled configuration file format: .{extension}"
  | misfit keys => "Failed to extract configuration: " ++ ".".intercalate keys
  | guildIdNotNumeric id =>
    s!"Invalid configuration: bot.guild_id must be a numeric id, got `{id}`"
  | formatUnavailable format =>
    "Invalid configuration: logging.format = " ++ Text.quoted format.name ++
      s!" requires the `{format.name}-log` feature"
  | missing key => s!"Missing required configuration field: {key}"

namespace BotConfig

/-- Where commands are published. -/
def scope (b : BotConfig) : Scope := .ofGuild? b.guildId

/-- The token without the blanks around it; it must be there and not be blank. -/
def requireToken (b : BotConfig) : Except ConfigError String :=
  match (b.token.map fun t => Text.trim t.toList).filter (!·.isEmpty) with
  | some t => .ok (.ofList t)
  | none => .error (.missing "bot.token")

/-- The credentials in words that do not give the token away. -/
def text (b : BotConfig) : String :=
  let option (x : Option String) : String := (x.map fun s => s!"Some({s})").getD "None"
  let token := option (b.token.map fun _ => Text.quoted "<redacted>")
  let guildId := option (b.guildId.map Text.quoted)
  s!"BotConfig \x7b token: {token}, guild_id: {guildId} \x7d"

end BotConfig

namespace Config

/-- Refuses what does not work: the id of a guild that is no number, output to a file that is not
given, and a layout that is not built in. -/
def check (c : Config) : Except ConfigError Unit := do
  if let some id := c.bot.guildId then
    unless id.toList.all Char.isDigit do throw (.guildIdNotNumeric id)
  if c.logging.output = .file ∧ c.logging.filePath = none then throw (.missing "logging.file_path")
  if c.logging.format = .json then throw (.formatUnavailable .json)

end Config

end CommandRouter
