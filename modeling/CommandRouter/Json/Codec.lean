import CommandRouter.Json.Reader

/-!
# Codecs

A codec reads values of a type from documents and writes them as JSON. Reading goes from the
beginning of the document to its end and stops at the first fault; what it passes over is not looked
at. It also counts levels: a decoder is given the number of arrays and objects that it may still
enter. Reading from text allows `textLevels` of them; a document that is at hand as a value may be
entered to its full depth.
-/

namespace CommandRouter

/-- The data that is written as a small number on the wire. -/
inductive CodedKind where
  | option
  | command
  | interaction
  | response
  deriving DecidableEq

/-- What the coded data is called. -/
def CodedKind.name : CodedKind → String
  | option => "option"
  | command => "command"
  | interaction => "interaction"
  | response => "response"

/-- Why a document cannot be decoded. -/
inductive DecodeError where
  /-- The text is not JSON, or a part of it has no value. -/
  | unreadable
  /-- A part of the document has the wrong shape. -/
  | mismatch
  /-- There is a token at a place where the shape of the data allows for none: a further element of
  a record, or what cannot begin a keyword. -/
  | stray
  /-- A field is missing. -/
  | missing (field : String)
  /-- A field occurs twice. -/
  | duplicate (field : String)
  /-- A number stands for nothing of its kind. -/
  | unsupported (kind : CodedKind) (code : Nat)
  deriving DecidableEq

namespace DecodeError

/-- The error in words, if it is more than a wrong shape. -/
def message? : DecodeError → Option String
  | missing field => some s!"missing field `{field}`"
  | duplicate field => some s!"duplicate field `{field}`"
  | unsupported kind code => some s!"unsupported {kind.name} type: {code}"
  | _ => none

/-- The error as it shows when the document is read from text: a stray token is a fault of the
text. -/
def inText : DecodeError → DecodeError
  | stray => unreadable
  | e => e

end DecodeError

/-- Reads a document that may be entered to the given number of levels. -/
abbrev Decoder (α : Type) := Nat → Document → Except DecodeError α

/-- The number of levels to which a text may be entered. -/
def textLevels : Nat := 127

namespace Decoder

variable {α β : Type}

/-- Reads a document at hand. -/
def run (d : Decoder α) (doc : Document) : Except DecodeError α := d doc.depth doc

/-- Reads a value at hand. -/
def ofJson (d : Decoder α) (j : Json) : Except DecodeError α := d.run j.document

/-- Reads a text. One that is not JSON is refused as a whole, before anything in it is decoded. -/
def ofText (d : Decoder α) (text : String) : Except DecodeError α := do
  let some doc := Document.read text | throw .unreadable
  (d textLevels doc).mapError DecodeError.inText

/-- The fault of a document that does not have the shape looked for. -/
def fault : Document → DecodeError
  | .unusable => .unreadable
  | _ => .mismatch

/-- Reads a document and goes on with what was read. -/
def andThen (d : Decoder α) (f : α → Except DecodeError β) : Decoder β := fun n doc => do
  f (← d n doc)

/-! ## Scalars -/

/-- Reads a string. -/
def string : Decoder String
  | _, .string s => .ok s
  | _, doc => .error (fault doc)

/-- Reads a truth value. -/
def bool : Decoder Bool
  | _, .bool b => .ok b
  | _, doc => .error (fault doc)

/-- Reads an integer of the given range. -/
def integer (fits : Int → Bool) : Decoder Int
  | _, .number (.integer n) => if fits n then .ok n else .error .mismatch
  | _, doc => .error (fault doc)

/-- Reads a byte that stands for something of the given kind. -/
def coded (kind : CodedKind) (ofCode? : Nat → Option α) : Decoder α :=
  (integer fun n => decide (0 ≤ n) && decide (n ≤ 255)).andThen fun n =>
    match ofCode? n.toNat with
    | some x => .ok x
    | none => .error (.unsupported kind n.toNat)

/-- Reads a document that may be null. -/
def optional (d : Decoder α) : Decoder (Option α)
  | _, .null => .ok none
  | n, doc => (d n doc).map some

/-! ## Containers -/

/-- Reads an array of documents of one kind. -/
def list (d : Decoder α) : Decoder (List α)
  | 0, .array _ => .error .unreadable
  | n + 1, .array items => items.mapM (d n)
  | _, doc => .error (fault doc)

mutual

/-- Reads free data. The members of an object are put in the order of their names, and of several
with one name the last is kept. -/
def value : Decoder Json
  | _, .null => .ok .null
  | _, .bool b => .ok (.bool b)
  | _, .number n => .ok (.number n)
  | _, .string s => .ok (.string s)
  | 0, .array _ => .error .unreadable
  | n + 1, .array items => (values n items).map .array
  | 0, .object _ => .error .unreadable
  | n + 1, .object members => (memberValues n members).map fun ms => .object (Json.sortMembers ms)
  | _, .unusable => .error .unreadable

/-- Reads the items of free data. -/
def values (n : Nat) : List Document → Except DecodeError (List Json)
  | [] => .ok []
  | d :: ds => do return (← value n d) :: (← values n ds)

/-- Reads the members of free data. -/
def memberValues (n : Nat) :
    List (Option String × Document) → Except DecodeError (List (String × Json))
  | [] => .ok []
  | (none, _) :: _ => .error .unreadable
  | (some name, d) :: ms => do return (name, ← value n d) :: (← memberValues n ms)

end

end Decoder

/-- A way to read and to write the values of a type. -/
structure Codec (α : Type) where
  /-- Reads a value. -/
  decode : Decoder α
  /-- Writes a value. -/
  encode : α → Json

namespace Codec

variable {α : Type}

/-- A string. -/
def string : Codec String := ⟨.string, .string⟩

/-- A truth value. -/
def bool : Codec Bool := ⟨.bool, .bool⟩

/-- Free data. -/
def json : Codec Json := ⟨.value, id⟩

/-- An unsigned 64-bit word. -/
def word : Codec UInt64 :=
  ⟨(Decoder.integer Decimal.fitsUnsigned).andThen fun n => .ok (.ofNat n.toNat),
    fun n => .nat n.toNat⟩

/-- Data of the given kind, written as a small number. -/
def coded (kind : CodedKind) (code : α → Nat) (ofCode? : Nat → Option α) : Codec α :=
  ⟨.coded kind ofCode?, fun x => .nat (code x)⟩

/-- An array. -/
def list (c : Codec α) : Codec (List α) := ⟨.list c.decode, fun xs => .array (xs.map c.encode)⟩

/-- A value that may be absent, which is written as null. -/
def nullable (c : Codec α) : Codec (Option α) :=
  ⟨.optional c.decode, fun x => (x.map c.encode).getD .null⟩

end Codec

end CommandRouter
