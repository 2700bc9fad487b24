import CommandRouter.Json.Value
import CommandRouter.Text.Decimal

/-!
# Printing JSON

The compact form has no space between tokens. The pretty form puts every item and every member on a
line of its own, two spaces further in than the brackets around it, and leaves empty arrays and
objects closed. In strings only what JSON requires is escaped.
-/

namespace CommandRouter

namespace Json

/-- A character inside the quotes of a string. -/
def escapeChar (c : Char) : List Char :=
  if c = '"' then ['\\', '"']
  else if c = '\\' then ['\\', '\\']
  else if c = '\x08' then ['\\', 'b']
  else if c = '\x0c' then ['\\', 'f']
  else if c = '\n' then ['\\', 'n']
  else if c = '\r' then ['\\', 'r']
  else if c = '\t' then ['\\', 't']
  else if c.toNat < 0x20 then
    ['\\', 'u', '0', '0', Nat.digitChar (c.toNat / 16), Nat.digitChar (c.toNat % 16)]
  else [c]

/-- A string in quotes. -/
def quote (s : String) : List Char := '"' :: (s.toList.flatMap escapeChar ++ ['"'])

/-- A number. A double is written in full. -/
def numberText : Number → List Char
  | .integer n => Decimal.render n
  | .double x => x.decimal

/-- The name of a truth value. -/
def boolText (b : Bool) : List Char := (if b then "true" else "false").toList

/-- A pair of brackets around parts that are separated by commas. -/
def bracket (opening closing : Char) (parts : List (List Char)) : List Char :=
  opening :: ([','].intercalate parts ++ [closing])

mutual

/-- The compact form of a value. -/
def compact : Json → List Char
  | null => "null".toList
  | bool b => boolText b
  | number n => numberText n
  | string s => quote s
  | array items => bracket '[' ']' (compactItems items)
  | object members => bracket '{' '}' (compactMembers members)

/-- The compact forms of the items of an array. -/
def compactItems : List Json → List (List Char)
  | [] => []
  | j :: js => j.compact :: compactItems js

/-- The compact forms of the members of an object. -/
def compactMembers : List (String × Json) → List (List Char)
  | [] => []
  | (name, j) :: ms => (quote name ++ ':' :: j.compact) :: compactMembers ms

end

/-- A line break and the space before what stands at the given level. -/
def lineBreak (level : Nat) : List Char := '\n' :: List.replicate (2 * level) ' '

/-- A pair of brackets at the given level around parts that have lines of their own. -/
def block (opening closing : Char) (level : Nat) (parts : List (List Char)) : List Char :=
  if parts.isEmpty then [opening, closing]
  else opening :: ([','].intercalate (parts.map (lineBreak (level + 1) ++ ·)) ++
    lineBreak level ++ [closing])

mutual

/-- The pretty form of a value at the given level. -/
def prettyAt (level : Nat) : Json → List Char
  | null => "null".toList
  | bool b => boolText b
  | number n => numberText n
  | string s => quote s
  | array items => block '[' ']' level (prettyItems (level + 1) items)
  | object members => block '{' '}' level (prettyMembers (level + 1) members)

/-- The pretty forms of the items of an array. -/
def prettyItems (level : Nat) : List Json → List (List Char)
  | [] => []
  | j :: js => j.prettyAt level :: prettyItems level js

/-- The pretty forms of the members of an object. -/
def prettyMembers (level : Nat) : List (String × Json) → List (List Char)
  | [] => []
  | (name, j) :: ms => (quote name ++ ':' :: ' ' :: j.prettyAt level) :: prettyMembers level ms

end

/-- The compact form, as a string. -/
def toCompact (j : Json) : String := .ofList j.compact

/-- The pretty form, as a string. -/
def toPretty (j : Json) : String := .ofList (j.prettyAt 0)

end Json

end CommandRouter
