import CommandRouter.Config.Schema
import CommandRouter.Json.Record

/-!
# Configurations as JSON

Every field may be missing and is always written. Levels, layouts and outputs are written as
keywords. The id of a guild is a string; a number is taken for its digits.
-/

namespace CommandRouter

/-! ## Keywords -/

namespace Decoder

variable {α : Type}

/-- Reads one of several keywords. A keyword is a string, or else an object whose only member has it
as its name and null as its value. -/
def keyword (ofName? : String → Option α) : Decoder α
  | _, .string s => (ofName? s).elim (.error .mismatch) .ok
  | 0, .object _ => .error .unreadable
  | _ + 1, .object ((none, _) :: _) => .error .unreadable
  | _ + 1, .object ((some name, doc) :: others) =>
    match ofName? name, doc with
    | none, _ => .error .mismatch
    | some x, .null => if others.isEmpty then .ok x else .error .stray
    | some _, doc => .error (fault doc)
  | _, .unusable => .error .unreadable
  | _, _ => .error .stray

/-- Reads a member of a table. -/
def entry (d : Decoder α) (n : Nat) : Option String × Document → Except DecodeError (String × α)
  | (none, _) => .error .unreadable
  | (some name, doc) => (d n doc).map fun x => (name, x)

/-- Reads a table: an object whose members all have values of one kind. The members are put in the
order of their names, and of several with one name the last is kept. -/
def table (d : Decoder α) : Decoder (List (String × α))
  | 0, .object _ => .error .unreadable
  | n + 1, .object members => (members.mapM (entry d n)).map Json.sortMembers
  | _, doc => .error (fault doc)

end Decoder

/-- One of several keywords. -/
def Codec.keyword {α : Type} (name : α → String) (ofName? : String → Option α) : Codec α :=
  ⟨.keyword ofName?, fun x => .string (name x)⟩

/-- The codec of levels. -/
def Level.codec : Codec Level := .keyword name ofName?

/-- The codec of layouts. -/
def LogFormat.codec : Codec LogFormat := .keyword name ofName?

/-- The codec of outputs. -/
def LogOutput.codec : Codec LogOutput := .keyword name ofName?

/-! ## Records -/

namespace SpanEvents

/-- The fields of a choice of moments. -/
def fields : Fields (Bool × Bool × Bool × Bool × Unit) :=
  .cons (.withDefault "new" .bool false) <|
  .cons (.withDefault "enter" .bool false) <|
  .cons (.withDefault "exit" .bool false) <|
  .cons (.withDefault "close" .bool false) .nil

/-- Reads a choice of moments. -/
def decode : Decoder SpanEvents :=
  fields.decode.andThen fun (new, enter, exit, close, _) => .ok { new, enter, exit, close }

/-- Writes a choice of moments. -/
def encode (e : SpanEvents) : Json := fields.encode (e.new, e.enter, e.exit, e.close, ())

end SpanEvents

namespace LoggingConfig

/-- The codec of the levels of single modules. -/
def filtersCodec : Codec (List (String × Level)) :=
  ⟨.table Level.codec.decode, fun fs =>
    .object (fs.map fun (module, level) => (module, Level.codec.encode level))⟩

/-- The fields of a logging configuration. -/
def fields : Fields (Level × LogFormat × LogOutput × Option String × Bool × Bool × SpanEvents ×
    List (String × Level) × Unit) :=
  .cons (.withDefault "level" Level.codec .info) <|
  .cons (.withDefault "format" LogFormat.codec .compact) <|
  .cons (.withDefault "output" LogOutput.codec .stdout) <|
  .cons (.nullable "file_path" .string) <|
  .cons (.withDefault "thread_ids" .bool false) <|
  .cons (.withDefault "file_location" .bool false) <|
  .cons (.withDefault "span_events" ⟨SpanEvents.decode, SpanEvents.encode⟩ {}) <|
  .cons (.withDefault "filters" filtersCodec []) .nil

/-- Reads a logging configuration. -/
def decode : Decoder LoggingConfig :=
  fields.decode.andThen
    fun (level, format, output, filePath, threadIds, fileLocation, spanEvents, filters, _) =>
      .ok { level, format, output, filePath, threadIds, fileLocation, spanEvents, filters }

/-- Writes a logging configuration. -/
def encode (c : LoggingConfig) : Json :=
  fields.encode (c.level, c.format, c.output, c.filePath, c.threadIds, c.fileLocation,
    c.spanEvents, c.filters, ())

end LoggingConfig

namespace BotConfig

/-- Reads the id of a guild. -/
def decodeGuildId : Decoder String := Decoder.value.andThen fun
  | .string s => .ok s
  | .number (.integer n) =>
    if Decimal.fitsUnsigned n then .ok (Decimal.text n) else .error .mismatch
  | _ => .error .mismatch

/-- The fields of credentials. -/
def fields : Fields (Option String × Option String × Unit) :=
  .cons (.nullable "token" .string) <|
  .cons (.nullable "guild_id" ⟨decodeGuildId, .string⟩) .nil

/-- Reads credentials. -/
def decode : Decoder BotConfig :=
  fields.decode.andThen fun (token, guildId, _) => .ok { token, guildId }

/-- Writes credentials. -/
def encode (b : BotConfig) : Json := fields.encode (b.token, b.guildId, ())

end BotConfig

namespace Config

/-- The fields of a configuration. -/
def fields : Fields (BotConfig × LoggingConfig × Unit) :=
  .cons (.withDefault "bot" ⟨BotConfig.decode, BotConfig.encode⟩ {}) <|
  .cons (.withDefault "logging" ⟨LoggingConfig.decode, LoggingConfig.encode⟩ {}) .nil

/-- Reads a configuration. -/
def decode : Decoder Config := fields.decode.andThen fun (bot, logging, _) => .ok { bot, logging }

/-- Writes a configuration. -/
def encode (c : Config) : Json := fields.encode (c.bot, c.logging, ())

end Config

end CommandRouter
