import CommandRouter.Logging.ValuePattern.Brackets
import CommandRouter.Text.Alphanumeric
import CommandRouter.Text.Decimal

/-!
# Patterns for values

`isValid` says which texts are patterns. A pattern is a sequence of items, or several of them with
bars between: characters and escapes, brackets, and groups in parentheses. An item may be repeated
by `?`, `*` or `+`, with a further `?` behind. A group can have a name, which no other group has, or
marks that change the mode for it; marks alone change the mode for what follows in the same group.

A value that reads as a number is no pattern, even if it is written like one; `isNumber` says which
values those are.
-/

namespace CommandRouter.ValuePattern

open Text

/-- A group that is being read, or the pattern as a whole. -/
structure Group where
  /-- The mode in which the group is read on. -/
  mode : Mode := {}
  /-- How deep the branches before the last bar are. -/
  branches : List Nat := []
  /-- How deep the items behind the last bar are, the last item first. A change of the mode is an
  item without depth. -/
  items : List (Option Nat) := []

namespace Group

/-- How deep the branch is that is being read. -/
def branchDepth (g : Group) : Nat := depthOf (g.items.map (·.getD 0))

/-- How deep the group is so far. -/
def depth (g : Group) : Nat := depthOf (g.branchDepth :: g.branches)

/-- The group with one more item. -/
def push (g : Group) (depth : Nat) : Group := { g with items := some depth :: g.items }

/-- The group with a change of the mode for what follows. -/
def change (g : Group) (mode : Mode) : Group := { g with mode, items := none :: g.items }

/-- The group with a bar behind its items. -/
def bar (g : Group) : Group := { g with branches := g.branchDepth :: g.branches, items := [] }

/-- The group with its last item repeated; there has to be one, and it must not be a change of the
mode. -/
def repeated? (g : Group) : Option Group :=
  match g.items with
  | some depth :: items => some { g with items := some (depth + 1) :: items }
  | _ => none

end Group

/-! ## The beginning of a group -/

/-- What an opening parenthesis and the text behind it begin. -/
inductive Opening where
  /-- A change of the mode. -/
  | change (mode : Mode)
  /-- A group, which may have a name. -/
  | group (mode : Mode) (name : Option (List Char))

/-- Whether a text may be the name of a group. -/
def isGroupName : List Char → Bool
  | [] => false
  | c :: cs =>
    (c == '_' || isLetter c) &&
      cs.all fun c => c == '_' || c == '.' || c == '[' || c == ']' || isAlphanumeric c

/-- The mode behind a mark, which may be negated. -/
def Mode.mark? (m : Mode) (isNegated : Bool) : Char → Option Mode
  | 'x' => some { m with ignoresSpace := !isNegated }
  | 'u' => some { m with knowsUnicode := !isNegated }
  | 'i' | 'm' | 's' | 'U' | 'R' => some m
  | _ => none

/-- Reads marks. A hyphen negates those behind it; none of them may occur twice, and the hyphen must
not be the last. The marks before are given, the last first. -/
def marks (m : Mode) (before : List Char) : List Char → Option (Opening × List Char)
  | [] => none
  | c :: cs =>
    if c == ':' || c == ')' then
      if before.head? == some '-' || (c == ')' && before.isEmpty) then none
      else some (if c == ':' then .group m none else .change m, cs)
    else if before.contains c then none
    else if c == '-' then marks m (c :: before) cs
    else (m.mark? (before.contains '-') c).bind fun m => marks m (c :: before) cs

/-- Reads the name of a group up to its end. -/
def groupName (m : Mode) (names : List (List Char)) (cs : List Char) :
    Option (Opening × List Char) :=
  match cutAt '>' cs with
  | some (name, rest) =>
    if isGroupName name && !names.contains name then some (.group m (some name), rest) else none
  | none => none

/-- Reads the text behind an opening parenthesis up to where the items of the group begin. -/
def parenthesis (m : Mode) (names : List (List Char)) : Scan Opening := do
  skipSpace m
  fun cs => match cs with
    | '?' :: 'P' :: '<' :: rest => groupName m names rest
    | '?' :: '<' :: rest => groupName m names rest
    | '?' :: rest => marks m [] rest
    | cs => some (.group m none, cs)

/-! ## The whole pattern -/

/-- Reads a single character or an escape. -/
def single (m : Mode) : Scan Unit
  | '\\' :: rest => (escape m rest).map fun (_, rest) => ((), rest)
  | '.' :: rest => if m.knowsUnicode then some ((), rest) else none
  | _ :: rest => some ((), rest)
  | [] => none

/-- Whether a character repeats the item before it. -/
def isRepetition (c : Char) : Bool := c == '?' || c == '*' || c == '+'

/-- Reads a pattern to its end, in at most the given number of steps, and gives its depth. The
groups around the place are given from the inside to the outside, and the names of all groups before
it. -/
def sequence : Nat → Group → List Group → List (List Char) → Scan Nat
  | 0, _, _, _ => failure
  | n + 1, g, outer, names => do
    skipSpace g.mode
    fun cs => match cs with
      | [] => if outer.isEmpty then some (g.depth, []) else none
      | '(' :: rest =>
        match parenthesis g.mode names rest with
        | some (.change mode, rest) => sequence n (g.change mode) outer names rest
        | some (.group mode name, rest) =>
          sequence n { mode } (g :: outer) (name.toList ++ names) rest
        | none => none
      | ')' :: rest =>
        match outer with
        | o :: outer => sequence n (o.push (g.depth + 1)) outer names rest
        | [] => none
      | '|' :: rest => sequence n g.bar outer names rest
      | '{' :: _ => none
      | '[' :: rest =>
        match (do brackets g.mode cs.length (← opening g.mode) []).run rest with
        | some (depth, rest) => sequence n (g.push depth) outer names rest
        | none => none
      | c :: rest =>
        if isRepetition c then
          match g.repeated? with
          | some g =>
            sequence n g outer names (if rest.head? == some '?' then rest.tail else rest)
          | none => none
        else
          match single g.mode cs with
          | some ((), rest) => sequence n (g.push 0) outer names rest
          | none => none

/-- Whether a text is a pattern. -/
def isValid (cs : List Char) : Bool :=
  ((sequence (cs.length + 1) {} [] []).all? cs).any (· ≤ maxDepth)

/-- Whether a value reads as a number. -/
def isNumber (cs : List Char) : Bool :=
  let unsigned := match cs with
    | '+' :: cs | '-' :: cs => cs
    | cs => cs
  Decimal.isReal cs ||
    ["inf", "infinity", "nan"].contains (String.ofList (unsigned.map Char.toLower))

end CommandRouter.ValuePattern
