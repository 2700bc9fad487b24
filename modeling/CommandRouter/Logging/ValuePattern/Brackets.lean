import CommandRouter.Logging.ValuePattern.Atom

/-!
# Patterns for values: characters in brackets

Brackets match one of several characters, or with a `^` at their beginning one of all others. There
stand characters and escapes in them, ranges, names such as `[:alpha:]`, and brackets again; `&&`,
`--` and `~~` combine what stands before and behind them. A bracket that closes is a character of
its own if it comes first, and so are hyphens at the beginning and before the end.
-/

namespace CommandRouter.ValuePattern

open Text

/-- Brackets that are being read. -/
structure Brackets where
  /-- How deep the parts behind the last operator are. -/
  items : List Nat := []
  /-- How deep the part before the last operator is, if there is one. -/
  left : Option Nat := none

namespace Brackets

/-- How deep the brackets are so far. -/
def depth (b : Brackets) : Nat := depthOf (b.left.toList ++ [depthOf b.items])

/-- The brackets with one more part. -/
def push (b : Brackets) (depth : Nat) : Brackets := { b with items := depth :: b.items }

/-- The brackets with an operator behind their parts. -/
def combine (b : Brackets) : Brackets := { left := some b.depth }

end Brackets

/-- The names of families of characters. -/
def familyNames : List String :=
  ["alnum", "alpha", "ascii", "blank", "cntrl", "digit", "graph", "lower", "print", "punct",
    "space", "upper", "word", "xdigit"]

/-- Reads the name of a family between `[:` and `:]`, and whether its complement is meant. -/
def familyName : Scan Bool := do
  Scan.chars ['[', ':']
  let hat ← Scan.optional (Scan.char '^')
  let name ← Scan.takeWhile (· != ':')
  Scan.chars [':', ']']
  guard (familyNames.contains (.ofList name))
  return hat.isSome

/-- Reads hyphens, at most as many as given, each of which is a part without depth. -/
def hyphens (m : Mode) : Nat → Scan (List Nat)
  | 0 => return []
  | n + 1 => (do Scan.char '-'; skipSpace m; return 0 :: (← hyphens m n)) <|> return []

/-- Reads what has a meaning of its own behind an opening bracket: the `^` of a complement, hyphens,
and a closing bracket that stands for itself. -/
def opening (m : Mode) : Scan Brackets := do
  skipSpace m
  let hat ← Scan.optional (Scan.char '^')
  guard (m.knowsUnicode || hat.isNone)
  skipSpace m
  let items ← fun cs => hyphens m cs.length cs
  if items.isEmpty then
    (do Scan.char ']'; skipSpace m; return { items := [0] }) <|> return {}
  else return { items }

/-- Reads a character or a family of characters. -/
def memberAtom (m : Mode) : Scan Atom := do
  let atom ← (do Scan.char '\\'; escape m) <|> (do
    let c ← Scan.charWhere (· != '\\')
    return .char c)
  match atom with
  | .char c => guard (m.knowsUnicode || decide (c.toNat < 0x80))
  | .family => return atom
  | .place => failure
  return atom

/-- The character behind a hyphen. A comment counts for no more than its hash sign. -/
def behindHyphen (m : Mode) (cs : List Char) : Option Char :=
  if !m.ignoresSpace then cs.head?
  else match cs.dropWhile isBlank with
    | '#' :: cs => (cs.dropWhile isBlank).head?
    | cs => cs.head?

/-- Reads a member: a character, a family of characters, or a range. -/
def member (m : Mode) : Scan Unit := do
  let first ← memberAtom m
  skipSpace m
  match ← get with
  | '-' :: rest =>
    let next := behindHyphen m rest
    if next == some ']' || next == some '-' then return
    set rest
    skipSpace m
    match first, ← memberAtom m with
    | .char low, .char high => guard (decide (low ≤ high))
    | _, _ => failure
  | _ => return

/-- Reads brackets up to their end, in at most the given number of steps, and gives their depth. The
brackets around them are given from the inside to the outside. -/
def brackets (m : Mode) : Nat → Brackets → List Brackets → Scan Nat
  | 0, _, _ => failure
  | n + 1, b, outer => do
    skipSpace m
    fun cs => match cs with
      | ']' :: rest =>
        match outer with
        | [] => some (b.depth + 1, rest)
        | o :: outer => brackets m n (o.push (b.depth + 1)) outer rest
      | '&' :: '&' :: rest => brackets m n b.combine outer rest
      | '-' :: '-' :: rest => brackets m n b.combine outer rest
      | '~' :: '~' :: rest => brackets m n b.combine outer rest
      | '[' :: rest =>
        match familyName cs with
        | some (isComplement, rest) =>
          if isComplement && !m.knowsUnicode then none
          else brackets m n (b.push 0) outer rest
        | none =>
          match opening m rest with
          | some (inner, rest) => brackets m n inner (b :: outer) rest
          | none => none
      | cs =>
        match member m cs with
        | some ((), rest) => brackets m n (b.push 0) outer rest
        | none => none

end CommandRouter.ValuePattern
