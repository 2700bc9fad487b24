import CommandRouter.Config.Schema
import CommandRouter.Config.Setting
import CommandRouter.Text.Decimal

/-!
# Configurations from settings

A configuration is read off a setting. The shapes are strict: text is no number, a number no text.
What fails is reported by the keys that lead to the value at fault. A record is a table, whose
members are read in the order of their keys, or an array of its fields in the order of their
declaration; what is unknown is passed over, and what is missing keeps its default.
-/

namespace CommandRouter

/-- Reads a value off a setting; a failure gives the keys that lead to the value at fault. -/
abbrev Shape (α : Type) : Type := Setting → Except (List String) α

namespace Shape

variable {α σ : Type}

/-- The value under a key of what is read. -/
def below (key : String) (result : Except (List String) α) : Except (List String) α :=
  result.mapError (key :: ·)

/-! ## Values -/

/-- A text; a character is a text of one character. -/
def string : Shape String
  | .string s => .ok s
  | .char c => .ok (.singleton c)
  | _ => .error []

/-- A truth value. -/
def bool : Shape Bool
  | .bool b => .ok b
  | _ => .error []

/-- A value that may be empty. -/
def optional (shape : Shape α) : Shape (Option α)
  | .empty => .ok none
  | x => (shape x).map some

/-- An id: a text, or an unsigned 64-bit number, which stands for its digits. -/
def id : Shape String
  | .string s => .ok s
  | .integer n => if Decimal.fitsUnsigned n then .ok (Decimal.text n) else .error []
  | _ => .error []

/-- A keyword: a text, or a table whose first key it is, with an empty value. -/
def keyword (ofName? : String → Option α) : Shape α
  | .string s => (ofName? s).elim (.error []) .ok
  | .table ((key, x) :: _) =>
    match ofName? key, x with
    | some word, .empty => .ok word
    | _, _ => .error [key]
  | _ => .error []

/-- A table whose members all have one shape. -/
def table (shape : Shape α) : Shape (List (String × α))
  | .table members => members.mapM fun (member : String × Setting) =>
    (below member.1 (shape member.2)).map fun x => (member.1, x)
  | _ => .error []

/-! ## Records -/

/-- A field of a record: its key, and how the record is changed by a setting for it. -/
structure Slot (σ : Type) where
  /-- The key of the field. -/
  key : String
  /-- The record with the field read off a setting. -/
  fill : Setting → σ → Except (List String) σ

/-- The field of the given key and shape. -/
def Slot.of (key : String) (shape : Shape α) (put : α → σ → σ) : Slot σ :=
  ⟨key, fun x r => (shape x).map fun v => put v r⟩

/-- The record with a member of a table read, if one of the fields has its key. -/
def fillMember (slots : List (Slot σ)) (r : σ) (member : String × Setting) :
    Except (List String) σ :=
  match slots.find? fun s => s.key == member.1 with
  | some s => below member.1 (s.fill member.2 r)
  | none => .ok r

/-- The record with the items of an array read into the fields from the given place on. -/
def fillItems (index : Nat) (r : σ) : List (Slot σ) → List Setting → Except (List String) σ
  | s :: slots, x :: items => do
    let r ← below (Decimal.text index) (s.fill x r)
    fillItems (index + 1) r slots items
  | _, _ => .ok r

/-- A record with the given default and fields. -/
def record (default : σ) (slots : List (Slot σ)) : Shape σ
  | .table members => members.foldlM (fillMember slots) default
  | .array items => fillItems 0 default slots items
  | _ => .error []

end Shape

/-! ## The configuration -/

/-- The shape of a choice of moments. -/
def SpanEvents.shape : Shape SpanEvents :=
  .record {} [
    .of "new" .bool fun v r => { r with new := v },
    .of "enter" .bool fun v r => { r with enter := v },
    .of "exit" .bool fun v r => { r with exit := v },
    .of "close" .bool fun v r => { r with close := v }]

/-- The shape of a logging configuration. -/
def LoggingConfig.shape : Shape LoggingConfig :=
  .record {} [
    .of "level" (.keyword Level.ofName?) fun v r => { r with level := v },
    .of "format" (.keyword LogFormat.ofName?) fun v r => { r with format := v },
    .of "output" (.keyword LogOutput.ofName?) fun v r => { r with output := v },
    .of "file_path" (.optional .string) fun v r => { r with filePath := v },
    .of "thread_ids" .bool fun v r => { r with threadIds := v },
    .of "file_location" .bool fun v r => { r with fileLocation := v },
    .of "span_events" SpanEvents.shape fun v r => { r with spanEvents := v },
    .of "filters" (.table (.keyword Level.ofName?)) fun v r => { r with filters := v }]

/-- The shape of credentials. -/
def BotConfig.shape : Shape BotConfig :=
  .record {} [
    .of "token" (.optional .string) fun v r => { r with token := v },
    .of "guild_id" (.optional .id) fun v r => { r with guildId := v }]

/-- The shape of a configuration. -/
def Config.shape : Shape Config :=
  .record {} [
    .of "bot" BotConfig.shape fun v r => { r with bot := v },
    .of "logging" LoggingConfig.shape fun v r => { r with logging := v }]

end CommandRouter
