import CommandRouter.Json.Value

/-!
# Settings

A setting is a value as a source of configuration gives it: a tree whose inner nodes are tables and
arrays. Tables are kept in the order of their keys. Sources are laid over one another by `merge`: a
table is merged with the table below it key by key, and everything else hides what is below it.
-/

namespace CommandRouter

/-- A value in a source of configuration. -/
inductive Setting where
  /-- No value. -/
  | empty
  | bool (b : Bool)
  | char (c : Char)
  | string (s : String)
  | integer (n : Int)
  /-- A number with a fraction or an exponent. Nothing is configured by such a number, so that its
  value is not kept. -/
  | real
  | array (items : List Setting)
  | table (members : List (String × Setting))

namespace Setting

/-- The table with the given members; of several with one key the last is kept. -/
def ofMembers (members : List (String × Setting)) : Setting := .table (Json.sortMembers members)

mutual

/-- A setting laid over another one. -/
def merge (below : Setting) : Setting → Setting
  | .table members => match below with
    | .table others => .table (mergeMembers others members)
    | _ => .table members
  | above => above

/-- Members laid over the members of a table. -/
def mergeMembers (below : List (String × Setting)) :
    List (String × Setting) → List (String × Setting)
  | [] => below
  | (key, x) :: members =>
    let x := match below.lookup key with
      | some y => merge y x
      | none => x
    mergeMembers (Json.insertMember key x below) members

end

/-- The setting under the given keys, and nothing else. The keys end at the first empty one. -/
def nest (x : Setting) : List String → Setting
  | [] => x
  | key :: keys => if key.isEmpty then x else .table [(key, nest x keys)]

/-- The keys of a dotted path. -/
def keys (path : String) : List String :=
  (path.toList.splitOn '.').map String.ofList

mutual

/-- A JSON value as a setting. -/
def ofJson : Json → Setting
  | .null => .empty
  | .bool b => .bool b
  | .number (.integer n) => .integer n
  | .number (.double _) => .real
  | .string s => .string s
  | .array items => .array (ofItems items)
  | .object members => .ofMembers (ofJsonMembers members)

/-- JSON values as settings. -/
def ofItems : List Json → List Setting
  | [] => []
  | j :: js => ofJson j :: ofItems js

/-- The members of a JSON object as settings. -/
def ofJsonMembers : List (String × Json) → List (String × Setting)
  | [] => []
  | (key, j) :: ms => (key, ofJson j) :: ofJsonMembers ms

end

end Setting

end CommandRouter
