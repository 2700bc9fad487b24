import CommandRouter.Toml.Scalar
import CommandRouter.Toml.Tree

/-!
# Reading TOML documents

A document is a sequence of lines: headers, pairs of a key and a value, comments and blank lines.
A pair belongs to the last header before it. `Toml.read` gives the settings of a document, or
nothing if the text is not TOML.
-/

namespace CommandRouter.Toml

open Text

/-- The number of arrays, tables and keys that may lie inside one another is less than this. -/
def levels : Nat := 80

/-! ## Keys -/

/-- Whether a character may stand in a key without quotes. -/
def isKeyChar (c : Char) : Bool := c.isAlphanum || c == '_' || c == '-'

/-- Reads a key without dots, and the space around it. -/
def simpleKey : Scan String := do
  Scan.skipWhile isSpace
  let key ← shortString <|> (String.ofList <$> Scan.takeSome isKeyChar)
  Scan.skipWhile isSpace
  return key

/-- Reads more parts of a dotted key, in at most the given number of steps. -/
def moreKeys : Nat → Scan (List String)
  | 0 => failure
  | n + 1 => do
    match ← Scan.optional (Scan.char '.') with
    | some () => return (← simpleKey) :: (← moreKeys n)
    | none => return []

/-- Reads a dotted key: the keys on the way to it, and the last one. -/
def dottedKey : Scan (List String × String) := do
  let keys := (← simpleKey) :: (← moreKeys (levels - 1))
  match keys.getLast? with
  | some key => return (keys.dropLast, key)
  | none => failure

/-! ## Values -/

/-- The text without space, line ends and comments at its beginning. -/
def dropFill (inComment : Bool) : List Char → List Char
  | [] => []
  | c :: cs =>
    if inComment then
      if c = '\n' then dropFill false cs else if isPlain c then dropFill true cs else c :: cs
    else if isSpace c || c == '\n' then dropFill false cs
    else if c = '#' then dropFill true cs
    else c :: cs

/-- Passes over space, line ends and comments. -/
def skipFill : Scan Unit := fun cs => some ((), dropFill false cs)

mutual

/-- Reads a value that may have the given number of levels, in at most the given number of steps. -/
def value : Nat → Nat → Scan Setting
  | 0, _ => failure
  | n + 1, level => fun cs =>
    match cs, level with
    | '[' :: rest, l + 1 => (items n l rest).map fun (xs, rest) => (.array xs, rest)
    | '{' :: rest, l + 1 =>
      match rest.dropWhile isSpace with
      | '}' :: rest => some (.table [], rest)
      | rest => (pairs n l [] rest).map fun (ms, rest) => (.ofMembers (Node.settings ms), rest)
    | cs, _ => scalar cs

/-- Reads the items of an array up to its end. -/
def items : Nat → Nat → Scan (List Setting)
  | 0, _ => failure
  | n + 1, level => do
    skipFill
    match ← Scan.optional (Scan.char ']') with
    | some () => return []
    | none =>
      let x ← value n level
      skipFill
      match ← Scan.optional (Scan.char ',') with
      | some () => return x :: (← items n level)
      | none =>
        Scan.char ']'
        return [x]

/-- Reads the pairs of a table in braces up to its end and adds them to members. -/
def pairs : Nat → Nat → Members → Scan Members
  | 0, _, _ => failure
  | n + 1, level, ms => do
    let (path, key) ← dottedKey
    Scan.char '='
    Scan.skipWhile isSpace
    let x ← value n level
    Scan.skipWhile isSpace
    let ms ← StateT.lift (ms.define key x path)
    match ← Scan.optional (Scan.char ',') with
    | some () => pairs n level ms
    | none =>
      Scan.char '}'
      return ms

end

/-! ## Lines -/

/-- Reads the rest of a line, which is blank or a comment. -/
def lineEnd : Scan Unit := do
  Scan.skipWhile isSpace
  Scan.skipOptional (do Scan.char '#'; Scan.skipWhile isPlain)
  unless ← Scan.atEnd do Scan.char '\n'

/-- A document that has been read so far. -/
structure Draft where
  /-- The members of the outermost table. -/
  root : Members := []
  /-- The keys of the last header. -/
  header : List String := []

/-- Reads a line that is not blank, in at most the given number of steps within a value. -/
def line (steps : Nat) (d : Draft) : Scan Draft := fun cs =>
  match cs with
  | '[' :: '[' :: rest => (do
      let (path, key) ← dottedKey
      Scan.chars [']', ']']
      lineEnd
      return { root := ← StateT.lift (d.root.within (Members.appendTable key) path),
               header := path ++ [key] } : Scan Draft) rest
  | '[' :: rest => (do
      let (path, key) ← dottedKey
      Scan.char ']'
      lineEnd
      return { root := ← StateT.lift (d.root.within (Members.openTable key) path),
               header := path ++ [key] } : Scan Draft) rest
  | cs => (do
      let (path, key) ← dottedKey
      Scan.char '='
      Scan.skipWhile isSpace
      let x ← value steps (levels - 1)
      lineEnd
      return { d with root := ← StateT.lift (d.root.within (Members.define key x path) d.header) } :
        Scan Draft) cs

/-- Reads the lines of a document, of which there are at most as many as given. -/
def readLines (steps : Nat) : Nat → Draft → List Char → Option Draft
  | 0, _, _ => none
  | n + 1, d, cs =>
    match cs.dropWhile isSpace with
    | [] => some d
    | '\n' :: rest => readLines steps n d rest
    | '#' :: rest => do
      let ((), rest) ← lineEnd.run ('#' :: rest)
      readLines steps n d rest
    | rest => do
      let (d, rest) ← (line steps d).run rest
      readLines steps n d rest

/-- The text without the mark that tells the order of bytes. -/
def dropMark : List Char → List Char
  | '\ufeff' :: cs => cs
  | cs => cs

/-- The settings of a document. -/
def read (text : String) : Option Setting :=
  let cs := lines (dropMark text.toList)
  (readLines (2 * cs.length + 2) (cs.length + 1) {} cs).map fun d =>
    .ofMembers (Node.settings d.root)

end CommandRouter.Toml
