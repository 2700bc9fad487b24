import CommandRouter.Json.Value

/-!
# JSON documents as they are read

A text is read into a `Document`, which differs from a value in two ways. It keeps every member of
an object, in the order of the text. And it has a place for what is well written but has no value:
a number beyond all doubles and a string with half of a surrogate pair are `unusable`, and a member
that has such a string for its name has no name. Whether that is a fault is for the one to say who
decodes the document: what is passed over may be unusable.
-/

namespace CommandRouter

/-- A JSON text as it was read. -/
inductive Document where
  | null
  | bool (b : Bool)
  | number (n : Number)
  | string (s : String)
  | array (items : List Document)
  | object (members : List (Option String × Document))
  /-- A token that has no value. -/
  | unusable

namespace Document

mutual

/-- How many arrays and objects lie inside one another, at most. -/
def depth : Document → Nat
  | array items => depthOfItems items + 1
  | object members => depthOfMembers members + 1
  | _ => 0

/-- The depth of the deepest document. -/
def depthOfItems : List Document → Nat
  | [] => 0
  | d :: ds => max d.depth (depthOfItems ds)

/-- The depth of the deepest member. -/
def depthOfMembers : List (Option String × Document) → Nat
  | [] => 0
  | (_, d) :: ms => max d.depth (depthOfMembers ms)

end

end Document

mutual

/-- The document of a value. -/
def Json.document : Json → Document
  | null => .null
  | bool b => .bool b
  | number n => .number n
  | string s => .string s
  | array items => .array (Json.documents items)
  | object members => .object (Json.memberDocuments members)

/-- The documents of a list of values. -/
def Json.documents : List Json → List Document
  | [] => []
  | j :: js => j.document :: Json.documents js

/-- The documents of a list of members. -/
def Json.memberDocuments : List (String × Json) → List (Option String × Document)
  | [] => []
  | (name, j) :: ms => (some name, j.document) :: Json.memberDocuments ms

end

end CommandRouter
