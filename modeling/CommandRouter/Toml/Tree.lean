import CommandRouter.Config.Setting

/-!
# Trees of TOML tables

While a document is read its tables differ in how they came about, and this decides what may still
be added to them. A table under a header is *explicit* and gets no second header. A table on the way
to a header is *implied* and may still get a header of its own. A table on the way to a dotted key
is *dotted*; it takes further dotted keys but no header. A value takes nothing more.
-/

namespace CommandRouter.Toml

/-- How a table came about. -/
inductive Origin where
  /-- By a header. -/
  | explicit
  /-- On the way to a header. -/
  | implied
  /-- On the way to a dotted key. -/
  | dotted
  deriving DecidableEq

/-- What stands under a key of a table. -/
inductive Node where
  /-- A value. -/
  | value (x : Setting)
  /-- A table. -/
  | table (origin : Origin) (members : List (String × Node))
  /-- Tables with one header, the last first. -/
  | tables (last : List (String × Node)) (others : List (List (String × Node)))

/-- The members of a table. -/
abbrev Members : Type := List (String × Node)

namespace Members

/-- The members with another node under a key. -/
def put (key : String) (node : Node) : Members → Members
  | [] => [(key, node)]
  | (k, x) :: ms => if k = key then (k, node) :: ms else (k, x) :: put key node ms

/-- The members with a value added under a key, on the way to which lie the given keys. -/
def define (key : String) (x : Setting) : List String → Members → Option Members
  | [], ms => if (ms.lookup key).isSome then none else some (ms ++ [(key, .value x)])
  | k :: path, ms =>
    match ms.lookup k with
    | none => (define key x path []).map fun sub => ms ++ [(k, .table .dotted sub)]
    | some (.table origin sub) =>
      if origin = .explicit ∨ (path.isEmpty ∧ origin ≠ .dotted) then none
      else (define key x path sub).map fun sub => put k (.table origin sub) ms
    | some (.tables last others) =>
      if path.isEmpty then none
      else (define key x path last).map fun last => put k (.tables last others) ms
    | some (.value _) => none

/-- The members with a change made to the table that a path of headers leads to. -/
def within (change : Members → Option Members) : List String → Members → Option Members
  | [], ms => change ms
  | k :: path, ms =>
    match ms.lookup k with
    | none => (within change path []).map fun sub => ms ++ [(k, .table .implied sub)]
    | some (.table origin sub) =>
      (within change path sub).map fun sub => put k (.table origin sub) ms
    | some (.tables last others) =>
      (within change path last).map fun last => put k (.tables last others) ms
    | some (.value _) => none

/-- The members with a header for the table under a key. -/
def openTable (key : String) (ms : Members) : Option Members :=
  match ms.lookup key with
  | none => some (ms ++ [(key, .table .explicit [])])
  | some (.table .implied sub) => some (put key (.table .explicit sub) ms)
  | some _ => none

/-- The members with a header for one more of the tables under a key. -/
def appendTable (key : String) (ms : Members) : Option Members :=
  match ms.lookup key with
  | none => some (ms ++ [(key, .tables [] [])])
  | some (.tables last others) => some (put key (.tables [] (last :: others)) ms)
  | some _ => none

end Members

mutual

/-- A node as a setting. -/
def Node.setting : Node → Setting
  | .value x => x
  | .table _ ms => .ofMembers (Node.settings ms)
  | .tables last others =>
    .array ((Node.listed others).reverse ++ [.ofMembers (Node.settings last)])

/-- The members of a table as settings. -/
def Node.settings : List (String × Node) → List (String × Setting)
  | [] => []
  | (k, x) :: ms => (k, x.setting) :: Node.settings ms

/-- Tables as settings. -/
def Node.listed : List (List (String × Node)) → List Setting
  | [] => []
  | ms :: others => .ofMembers (Node.settings ms) :: Node.listed others

end

end CommandRouter.Toml
