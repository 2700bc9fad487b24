import CommandRouter.Json.Record

/-!
# Responses and permissions

What a bot sends back for an interaction, and the sets of permissions that the platform reports
about users. Flags and permissions are bits of a 64-bit word.
-/

namespace CommandRouter

/-- What the platform does with a response. -/
inductive ResponseType where
  | pong
  | message
  | deferredMessage
  | deferredUpdate
  | update
  deriving DecidableEq

namespace ResponseType

/-- The number that stands for the kind on the wire. -/
def code : ResponseType → Nat
  | pong => 1
  | message => 4
  | deferredMessage => 5
  | deferredUpdate => 6
  | update => 7

/-- The kind that a number on the wire stands for. -/
def ofCode? : Nat → Option ResponseType
  | 1 => some pong
  | 4 => some message
  | 5 => some deferredMessage
  | 6 => some deferredUpdate
  | 7 => some update
  | _ => none

/-- Kinds of responses are written as numbers. -/
def codec : Codec ResponseType := .coded .response code ofCode?

end ResponseType

/-- The contents of a response. -/
structure ResponseData where
  /-- The text. -/
  content : Option String := none
  /-- The flags. -/
  flags : Option UInt64 := none
  deriving DecidableEq

/-- A response to an interaction. -/
structure Response where
  /-- The kind of the response. -/
  kind : ResponseType
  /-- The contents, if there are any. -/
  data : Option ResponseData := none
  deriving DecidableEq

namespace Response

/-- The flag of responses that only the invoking user sees. -/
def ephemeralFlag : UInt64 := 64

/-- The response that writes a message into the channel. -/
def ofMessage (content : String) : Response := ⟨.message, some { content := some content }⟩

/-- The response with the flag that only the invoking user sees it. -/
def ephemeral (r : Response) : Response :=
  let data := r.data.getD {}
  { r with data := some { data with flags := some (data.flags.getD 0 ||| ephemeralFlag) } }

/-- The text of the response. -/
def content? (r : Response) : Option String := r.data.bind (·.content)

end Response

/-! ## On the wire -/

namespace ResponseData

/-- The fields of the contents of a response. -/
def fields : Fields (Option String × Option UInt64 × Unit) :=
  .cons (.optional "content" .string) <|
  .cons (.optional "flags" .word) .nil

/-- Reads the contents of a response. -/
def decode : Decoder ResponseData :=
  fields.decode.andThen fun (content, flags, _) => .ok ⟨content, flags⟩

/-- Writes the contents of a response. -/
def encode (d : ResponseData) : Json := fields.encode (d.content, d.flags, ())

/-- The contents of a response. -/
def codec : Codec ResponseData := ⟨decode, encode⟩

end ResponseData

namespace Response

/-- The fields of a response. -/
def fields : Fields (ResponseType × Option ResponseData × Unit) :=
  .cons (.required "type" ResponseType.codec) <|
  .cons (.optional "data" ResponseData.codec) .nil

/-- Reads a response. -/
def decode : Decoder Response := fields.decode.andThen fun (kind, data, _) => .ok ⟨kind, data⟩

/-- Writes a response. -/
def encode (r : Response) : Json := fields.encode (r.kind, r.data, ())

/-- A response. -/
def codec : Codec Response := ⟨decode, encode⟩

end Response

/-! ## Permissions -/

/-- A set of permissions. -/
structure Permissions where
  /-- The permissions as bits. -/
  bits : UInt64
  deriving DecidableEq

namespace Permissions

/-- The permission that stands above all others. -/
def administrator : Permissions := ⟨8⟩

/-- The permission to manage a guild. -/
def manageGuild : Permissions := ⟨32⟩

/-- Whether the set has all the given permissions. -/
def contains (p other : Permissions) : Bool := p.bits &&& other.bits == other.bits

/-- A set of permissions, written as a number. -/
def codec : Codec Permissions :=
  ⟨Codec.word.decode.andThen fun w => .ok ⟨w⟩, fun p => Codec.word.encode p.bits⟩

end Permissions

end CommandRouter
