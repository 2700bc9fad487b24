import CommandRouter.Json.Codec

/-!
# Records

A record is data with named fields. It is given by its fields in the order of their declaration:
how each is read and written, what it is when it is missing, and when it is left out in writing.

A record is read from an object or from an array. In an object the fields stand under their names
in any order; each is read where it stands, a second one of the same name is refused before it is
read, members with other names are passed over, and what is missing is looked at in the end. In an
array the fields stand in the order of their declaration, and those at the end that have a default
may be missing. A record is written as an object, in the order of the declaration.
-/

namespace CommandRouter

/-- A field of a record. -/
structure Field (α : Type) where
  /-- The name of the field. -/
  name : String
  /-- How the field is read and written. -/
  codec : Codec α
  /-- The value of the field when it is missing, if it may be. -/
  default? : Option α := none
  /-- The values for which the field is left out. -/
  isOmitted : α → Bool := fun _ => false

namespace Field

variable {α : Type}

/-- A field that must be there. -/
def required (name : String) (codec : Codec α) : Field α := { name, codec }

/-- A field with a default, which is written even so. -/
def withDefault (name : String) (codec : Codec α) (default : α) : Field α :=
  { name, codec, default? := some default }

/-- A field that may be missing or null, and is left out when it is absent. -/
def optional (name : String) (codec : Codec α) : Field (Option α) :=
  { name, codec := codec.nullable, default? := some none, isOmitted := Option.isNone }

/-- A field that may be missing or null, and is written as null when it is absent. -/
def nullable (name : String) (codec : Codec α) : Field (Option α) :=
  { name, codec := codec.nullable, default? := some none }

/-- A list that is left out when it is empty. -/
def list (name : String) (codec : Codec α) : Field (List α) :=
  { name, codec := codec.list, default? := some [], isOmitted := List.isEmpty }

/-- A mark that is left out when it is not set. -/
def flag (name : String) : Field Bool :=
  { name, codec := .bool, default? := some false, isOmitted := (! ·) }

end Field

/-- The fields of a record; the index is the type of the tuples of their values. -/
inductive Fields : Type → Type 1 where
  /-- No more fields. -/
  | nil : Fields Unit
  /-- A field and those declared after it. -/
  | cons {α β : Type} (field : Field α) (rest : Fields β) : Fields (α × β)

namespace Fields

/-- Where the fields read so far are kept. -/
def Slots : {γ : Type} → Fields γ → Type
  | _, nil => Unit
  | _, @cons α _ _ rest => Option α × rest.Slots

/-- No field has been read. -/
def noSlots : {γ : Type} → (fs : Fields γ) → fs.Slots
  | _, nil => ()
  | _, cons _ rest => (none, rest.noSlots)

/-- Reads a member into the slot of the field of its name; there is no result if no field has that
name. -/
def put : {γ : Type} → (fs : Fields γ) → Nat → String → Document → fs.Slots →
    Option (Except DecodeError fs.Slots)
  | _, nil, _, _, _, _ => none
  | _, cons f rest, n, name, doc, slots =>
    match (slots : Option _ × rest.Slots) with
    | (slot, others) =>
      if name = f.name then
        some <| match slot with
          | some _ => .error (.duplicate f.name)
          | none => (f.codec.decode n doc).map fun x => (some x, others)
      else (rest.put n name doc others).map fun result => result.map fun others => (slot, others)

/-- Reads a member, or passes over it. -/
def visit {γ : Type} (fs : Fields γ) (n : Nat) (slots : fs.Slots) :
    Option String × Document → Except DecodeError fs.Slots
  | (none, _) => .error .unreadable
  | (some name, doc) => (fs.put n name doc slots).getD (.ok slots)

/-- The values of the fields, with the defaults of the missing ones. -/
def close : {γ : Type} → (fs : Fields γ) → fs.Slots → Except DecodeError γ
  | _, nil, _ => .ok ()
  | _, cons f rest, slots =>
    match (slots : Option _ × rest.Slots) with
    | (slot, others) =>
      match slot.or f.default? with
      | some x => (rest.close others).map fun xs => (x, xs)
      | none => .error (.missing f.name)

/-- Reads the fields in the order of their declaration. -/
def decodeItems : {γ : Type} → (fs : Fields γ) → Nat → List Document → Except DecodeError γ
  | _, nil, _, [] => .ok ()
  | _, nil, _, _ :: _ => .error .stray
  | _, cons f rest, n, [] =>
    match f.default? with
    | some x => (rest.decodeItems n []).map fun xs => (x, xs)
    | none => .error .mismatch
  | _, cons f rest, n, doc :: docs => do
    let x ← f.codec.decode n doc
    return (x, ← rest.decodeItems n docs)

/-- Reads a record. -/
def decode {γ : Type} (fs : Fields γ) : Decoder γ
  | n + 1, .object members => do fs.close (← members.foldlM (fs.visit n) fs.noSlots)
  | n + 1, .array items => fs.decodeItems n items
  | 0, .object _ => .error .unreadable
  | 0, .array _ => .error .unreadable
  | _, doc => .error (Decoder.fault doc)

/-- The members that are written for the values of the fields. -/
def members : {γ : Type} → Fields γ → γ → List (String × Json)
  | _, nil, _ => []
  | _, cons f rest, (x, xs) =>
    if f.isOmitted x then rest.members xs else (f.name, f.codec.encode x) :: rest.members xs

/-- Writes a record. -/
def encode {γ : Type} (fs : Fields γ) (xs : γ) : Json := .object (fs.members xs)

end Fields

end CommandRouter
