import CommandRouter.Config.Schema
import CommandRouter.Logging.ValuePattern.Reader

/-!
# Log directives

A directive says down to which level something is logged: everything, what belongs to a module, or
what happens in certain spans. It is written `target[span{field=value,..}]=level`, and every part of
it may be left out. A level alone is meant for everything, a target alone logs all levels.
-/

namespace CommandRouter

/-- Down to which level something is logged, or that it is not logged at all. -/
abbrev LogLimit : Type := Option Level

namespace LogLimit

/-- Whether a level is logged. -/
def admits (limit : LogLimit) (level : Level) : Bool := limit.any fun l => level.rank ≤ l.rank

/-- The limit that a word stands for: a level, its rank, or `off`. -/
def ofText? (s : List Char) : Option LogLimit :=
  match Decimal.unsigned? s with
  | some 0 => some none
  | some n => (Level.all.find? fun l => (l.rank : Int) == n).map some
  | none =>
    let word := String.ofList (s.map Char.toLower)
    if word == "off" then some none else (Level.ofName? word).map some

end LogLimit

/-- A field that a span must have. -/
structure FieldMatch where
  /-- The name of the field. -/
  name : String
  /-- The value that the field must have, if it is given. -/
  value : Option String
  deriving DecidableEq

/-- What a directive is about, and down to which level it is logged. -/
structure Directive where
  /-- The beginning of the names of the modules. -/
  target : Option String := none
  /-- The name of the span. -/
  span : Option String := none
  /-- The fields of the span. -/
  fields : List FieldMatch := []
  /-- Down to which level is logged. -/
  limit : LogLimit := some .trace
  deriving DecidableEq

namespace Directive

/-! ## Reading -/

/-- Where the reader of a directive is; a part that is being read is given by its beginning, counted
in bytes. -/
inductive State where
  /-- At the beginning. -/
  | start
  /-- In a level or a target. -/
  | levelOrTarget (first : Nat)
  /-- In the name of a span. -/
  | span (first : Nat)
  /-- In a field of a span. -/
  | field (first : Nat)
  /-- Behind the fields of a span. -/
  | fields
  /-- Behind a span. -/
  | spanEnd
  /-- In a level. -/
  | level (first : Nat)
  /-- Behind the directive. -/
  | complete

/-- The characters from one place to another. -/
def slice (text : List Char) (first last : Nat) : List Char :=
  Text.takeBytes (last - first) (Text.dropBytes first text)

/-- The directive with the given characters as its level or its target. -/
def withLevelOrTarget (d : Directive) (s : List Char) : Directive :=
  match LogLimit.ofText? s with
  | some limit => { d with limit, target := none }
  | none => { d with limit := some .trace, target := some (.ofList s) }

/-- The directive with the given characters as its level; no characters stand for all levels. -/
def withLevel (d : Directive) (s : List Char) : Option Directive :=
  if s.isEmpty then some { d with limit := some .trace }
  else (LogLimit.ofText? s).map fun limit => { d with limit }

/-- The directive with a field, of which the given characters are the name and the value. The value
is a truth value, a number or a pattern. -/
def withField (d : Directive) (s : List Char) : Option Directive :=
  if s.isEmpty then none
  else match s.splitOn '=' with
    | name :: value :: _ =>
      if ValuePattern.isNumber value || ValuePattern.isValid value then
        some { d with fields := d.fields ++ [⟨.ofList name, some (.ofList value)⟩] }
      else none
    | _ => some { d with fields := d.fields ++ [⟨.ofList s, none⟩] }

/-- Whether a directive may begin with a character. -/
def mayBegin (c : Char) : Bool := c == '-' || c == ':' || c == '_' || Text.isAlphanumeric c

/-- The reader behind the character at the given place. A level or target with a comma behind it is
taken together with the comma and so is always a target. -/
def step (text : List Char) (index : Nat) (c : Char) :
    State × Directive → Option (State × Directive)
  | (.start, d) =>
    if c = '[' then some (.span (index + 1), d)
    else if mayBegin c then some (.levelOrTarget index, d)
    else none
  | (.levelOrTarget first, d) =>
    let part := slice text first index
    if c = '=' then some (.level (index + 1), { d with target := some (.ofList part) })
    else if c = '[' then some (.span (index + 1), { d with target := some (.ofList part) })
    else if c = ',' then some (.complete, d.withLevelOrTarget (Text.dropBytes first text))
    else some (.levelOrTarget first, d)
  | (.span first, d) =>
    let name := String.ofList (slice text first index)
    if c = ']' then some (.spanEnd, { d with span := some name })
    else if c = '{' then
      some (.field (index + 1), { d with span := if name.isEmpty then none else some name })
    else some (.span first, d)
  | (.field first, d) =>
    if c = '}' then (d.withField (slice text first index)).map (.fields, ·)
    else if c = ',' then (d.withField (slice text first index)).map (.field (index + 1), ·)
    else some (.field first, d)
  | (.fields, d) => if c = ']' then some (.spanEnd, d) else none
  | (.spanEnd, d) => if c = '=' then some (.level (index + 1), d) else none
  | (.level first, d) =>
    if c = ',' then (d.withLevel (slice text first index)).map (.complete, ·)
    else some (.level first, d)
  | (.complete, _) => none

/-- The reader behind all given characters. -/
def steps (text : List Char) (index : Nat) (s : State × Directive) :
    List Char → Option (State × Directive)
  | [] => some s
  | c :: cs => (step text index c s).bind fun s => steps text (index + c.utf8Size) s cs

/-- Reads a directive. Blanks at its ends do not count as characters of it, but its parts are taken
from the text as it stands. -/
def parse (line : String) : Option Directive := do
  let text := line.toList
  let (state, d) ← steps text 0 (.start, {}) (Text.trim text)
  match state with
  | .levelOrTarget first => some (d.withLevelOrTarget (Text.dropBytes first text))
  | .level first => d.withLevel (Text.dropBytes first text)
  | .spanEnd | .complete => some d
  | _ => none

end Directive

end CommandRouter
