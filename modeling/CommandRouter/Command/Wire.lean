import CommandRouter.Command.Definition
import CommandRouter.Json.Record

/-!
# Command definitions on the wire

How command definitions are read from JSON documents and written as JSON. The options of an option
are options again, so the fields of an option are given for any codec of what stands below it.
-/

namespace CommandRouter

/-- Option types are written as numbers. -/
def OptionType.codec : Codec OptionType := .coded .option code ofCode?

/-- Kinds of commands are written as numbers. -/
def CommandType.codec : Codec CommandType := .coded .command code ofCode?

/-! ## Choices -/

namespace ChoiceValue

/-- Reads the value of a choice, which is a text or a signed 64-bit integer. -/
def decode : Decoder ChoiceValue := Decoder.andThen .value fun
  | .string s => .ok (.text s)
  | .number (.integer n) =>
    if Decimal.fitsSigned n then .ok (.integer (.ofInt n)) else .error .mismatch
  | _ => .error .mismatch

/-- Writes the value of a choice. -/
def encode : ChoiceValue → Json
  | integer n => .int n.toInt
  | text s => .string s

/-- The value of a choice. -/
def codec : Codec ChoiceValue := ⟨decode, encode⟩

end ChoiceValue

namespace Choice

/-- The fields of a choice. -/
def fields : Fields (String × ChoiceValue × Unit) :=
  .cons (.required "name" .string) <|
  .cons (.required "value" ChoiceValue.codec) .nil

/-- Reads a choice. -/
def decode : Decoder Choice := fields.decode.andThen fun (name, value, _) => .ok ⟨name, value⟩

/-- Writes a choice. -/
def encode (c : Choice) : Json := fields.encode (c.name, c.value, ())

/-- A choice. -/
def codec : Codec Choice := ⟨decode, encode⟩

end Choice

/-! ## Options -/

namespace CommandOption

/-- The values of the fields of an option, with the given type for what stands below it. -/
abbrev Row (χ : Type) : Type :=
  String × String × OptionType × Bool × List Choice × List χ × Unit

/-- The fields of an option. -/
def fields {χ : Type} (child : Codec χ) : Fields (Row χ) :=
  .cons (.required "name" .string) <|
  .cons (.required "description" .string) <|
  .cons (.required "type" OptionType.codec) <|
  .cons (.flag "required") <|
  .cons (.list "choices" Choice.codec) <|
  .cons (.list "options" child) .nil

/-- The option with the given values in its fields. -/
def ofRow : Row CommandOption → CommandOption
  | (name, description, kind, required, choices, options, _) =>
    ⟨name, description, kind, required, choices, options⟩

mutual

/-- Writes an option. -/
def encode : CommandOption → Json
  | ⟨name, description, kind, required, choices, options⟩ =>
    (fields Codec.json).encode (name, description, kind, required, choices, encodeAll options, ())

/-- Writes the options below an option. -/
def encodeAll : List CommandOption → List Json
  | [] => []
  | o :: os => o.encode :: encodeAll os

end

/-- Reads an option. The options below it lie two levels down, in an array in an object. -/
def decode : Nat → Document → Except DecodeError CommandOption
  | n + 2, doc => ((fields ⟨fun _ d => decode n d, encode⟩).decode (n + 2) doc).map ofRow
  | n, doc => ((fields ⟨fun _ _ => .error .unreadable, encode⟩).decode n doc).map ofRow

/-- An option. -/
def codec : Codec CommandOption := ⟨decode, encode⟩

end CommandOption

/-! ## Commands -/

namespace ApplicationCommand

/-- The fields of a command. -/
def fields : Fields (Option String × Option String × Option String × String × String ×
    CommandType × List CommandOption × Unit) :=
  .cons (.optional "id" .string) <|
  .cons (.optional "application_id" .string) <|
  .cons (.optional "guild_id" .string) <|
  .cons (.required "name" .string) <|
  .cons (.required "description" .string) <|
  .cons (.withDefault "type" CommandType.codec .chatInput) <|
  .cons (.list "options" CommandOption.codec) .nil

/-- Reads a command. -/
def decode : Decoder ApplicationCommand :=
  fields.decode.andThen fun (id, applicationId, guildId, name, description, kind, options, _) =>
    .ok ⟨id, applicationId, guildId, name, description, kind, options⟩

/-- Writes a command. -/
def encode (c : ApplicationCommand) : Json :=
  fields.encode (c.id, c.applicationId, c.guildId, c.name, c.description, c.kind, c.options, ())

/-- A command. -/
def codec : Codec ApplicationCommand := ⟨decode, encode⟩

end ApplicationCommand

end CommandRouter
