import CommandRouter.Command.Wire
import CommandRouter.Interaction.Basic

/-!
# Interactions on the wire

How interactions are read from JSON documents and written as JSON.
-/

namespace CommandRouter

/-- Kinds of interactions are written as numbers. -/
def InteractionType.codec : Codec InteractionType := .coded .interaction code ofCode?

namespace User

/-- The fields of a user. -/
def fields : Fields (String × String × Option String × Unit) :=
  .cons (.required "id" .string) <|
  .cons (.withDefault "username" .string "") <|
  .cons (.optional "global_name" .string) .nil

/-- Reads a user. -/
def decode : Decoder User :=
  fields.decode.andThen fun (id, username, globalName, _) => .ok ⟨id, username, globalName⟩

/-- Writes a user. -/
def encode (u : User) : Json := fields.encode (u.id, u.username, u.globalName, ())

/-- A user. -/
def codec : Codec User := ⟨decode, encode⟩

end User

namespace Member

/-- The fields of a member. -/
def fields : Fields (Option User × Option String × List String × Unit) :=
  .cons (.optional "user" User.codec) <|
  .cons (.optional "nick" .string) <|
  .cons (.list "roles" .string) .nil

/-- Reads a member. -/
def decode : Decoder Member :=
  fields.decode.andThen fun (user, nick, roles, _) => .ok ⟨user, nick, roles⟩

/-- Writes a member. -/
def encode (m : Member) : Json := fields.encode (m.user, m.nick, m.roles, ())

/-- A member. -/
def codec : Codec Member := ⟨decode, encode⟩

end Member

/-! ## Commands -/

namespace DataOption

/-- The values of the fields of an option, with the given type for what stands below it. -/
abbrev Row (χ : Type) : Type := String × OptionType × Option Json × List χ × Bool × Unit

/-- The fields of an option. -/
def fields {χ : Type} (child : Codec χ) : Fields (Row χ) :=
  .cons (.required "name" .string) <|
  .cons (.required "type" OptionType.codec) <|
  .cons (.optional "value" .json) <|
  .cons (.list "options" child) <|
  .cons (.flag "focused") .nil

/-- The option with the given values in its fields. -/
def ofRow : Row DataOption → DataOption
  | (name, kind, value, options, focused, _) => ⟨name, kind, value, options, focused⟩

mutual

/-- Writes an option. -/
def encode : DataOption → Json
  | ⟨name, kind, value, options, focused⟩ =>
    (fields Codec.json).encode (name, kind, value, encodeAll options, focused, ())

/-- Writes the options below an option. -/
def encodeAll : List DataOption → List Json
  | [] => []
  | o :: os => o.encode :: encodeAll os

end

/-- Reads an option. The options below it lie two levels down, in an array in an object. -/
def decode : Nat → Document → Except DecodeError DataOption
  | n + 2, doc => ((fields ⟨fun _ d => decode n d, encode⟩).decode (n + 2) doc).map ofRow
  | n, doc => ((fields ⟨fun _ _ => .error .unreadable, encode⟩).decode n doc).map ofRow

/-- An option. -/
def codec : Codec DataOption := ⟨decode, encode⟩

end DataOption

namespace CommandData

/-- The fields of the data of a command. -/
def fields : Fields (String × String × CommandType × List DataOption × Option String × Unit) :=
  .cons (.withDefault "id" .string "") <|
  .cons (.withDefault "name" .string "") <|
  .cons (.withDefault "type" CommandType.codec .chatInput) <|
  .cons (.list "options" DataOption.codec) <|
  .cons (.optional "guild_id" .string) .nil

/-- Reads the data of a command. -/
def decode : Decoder CommandData :=
  fields.decode.andThen fun (id, name, kind, options, guildId, _) =>
    .ok ⟨id, name, kind, options, guildId⟩

/-- Writes the data of a command. -/
def encode (d : CommandData) : Json :=
  fields.encode (d.id, d.name, d.kind, d.options, d.guildId, ())

/-- The data of a command. -/
def codec : Codec CommandData := ⟨decode, encode⟩

end CommandData

/-! ## Interactions -/

namespace Interaction

/-- The fields of an interaction. -/
def fields : Fields (String × String × InteractionType × Option CommandData × Option String ×
    Option String × Option Member × Option User × String × Unit) :=
  .cons (.required "id" .string) <|
  .cons (.withDefault "application_id" .string "") <|
  .cons (.required "type" InteractionType.codec) <|
  .cons (.optional "data" CommandData.codec) <|
  .cons (.optional "guild_id" .string) <|
  .cons (.optional "channel_id" .string) <|
  .cons (.optional "member" Member.codec) <|
  .cons (.optional "user" User.codec) <|
  .cons (.withDefault "token" .string "") .nil

/-- Reads an interaction. -/
def decode : Decoder Interaction :=
  fields.decode.andThen fun
    (id, applicationId, kind, data, guildId, channelId, member, user, token, _) =>
      .ok ⟨id, applicationId, kind, data, guildId, channelId, member, user, token⟩

/-- Writes an interaction. -/
def encode (i : Interaction) : Json :=
  fields.encode (i.id, i.applicationId, i.kind, i.data, i.guildId, i.channelId, i.member, i.user,
    i.token, ())

/-- An interaction. -/
def codec : Codec Interaction := ⟨decode, encode⟩

end Interaction

end CommandRouter
