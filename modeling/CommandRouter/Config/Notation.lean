import CommandRouter.Config.Setting
import CommandRouter.Text.Blank
import CommandRouter.Text.Decimal
import CommandRouter.Text.Hex
import CommandRouter.Text.Scan

/-!
# The notation of variables

The value of an environment variable is one line of text that can stand for any setting. It is
`true` or `false`, a string in double quotes, a character in single quotes, an array in brackets, a
table in braces, or a bare word. A bare word is a number if it reads as one and a string otherwise;
it ends before a bracket, a brace or a comma. Text that is not exactly one such value stands for
itself.
-/

namespace CommandRouter.Setting

open Text

/-- Whether a character may stand around a value. -/
def isSpace (c : Char) : Bool := c == ' ' || c == '\t' || c == '\n' || c == '\x0c' || c == '\r'

/-- Whether a character may stand in a bare word. -/
def isBare (c : Char) : Bool := !(c == ',' || c == '{' || c == '}' || c == '[' || c == ']')

/-- Whether a character may stand in a key without quotes. -/
def isKeyChar (c : Char) : Bool := c.isAlphanum || c == '_' || c == '-'

/-! ## Strings -/

/-- The text up to the closing quote, in which a backslash hides what follows it, and the text
behind the quote. -/
def enclosed : List Char → Option (List Char × List Char)
  | [] => none
  | '"' :: rest => some ([], rest)
  | '\\' :: c :: rest => (enclosed rest).map fun (cs, rest) => ('\\' :: c :: cs, rest)
  | c :: rest => (enclosed rest).map fun (cs, rest) => (c :: cs, rest)

/-- Whether a character may stand in a string: of the control characters below the letters only the
tab may. -/
def isStringChar (c : Char) : Bool := c == '\t' || (decide (0x20 ≤ c.toNat) && c != '\x7f')

/-- The text that is meant by a text with escapes. -/
def unescape? : List Char → Option (List Char)
  | [] => some []
  | '\\' :: 'u' :: a :: b :: c :: d :: rest => do
    return (← hexChar? [a, b, c, d]) :: (← unescape? rest)
  | '\\' :: 'U' :: a :: b :: c :: d :: e :: f :: g :: h :: rest => do
    return (← hexChar? [a, b, c, d, e, f, g, h]) :: (← unescape? rest)
  | '\\' :: '"' :: rest => (unescape? rest).map ('"' :: ·)
  | '\\' :: '\\' :: rest => (unescape? rest).map ('\\' :: ·)
  | '\\' :: 'b' :: rest => (unescape? rest).map ('\x08' :: ·)
  | '\\' :: 'f' :: rest => (unescape? rest).map ('\x0c' :: ·)
  | '\\' :: 'n' :: rest => (unescape? rest).map ('\n' :: ·)
  | '\\' :: 'r' :: rest => (unescape? rest).map ('\r' :: ·)
  | '\\' :: 't' :: rest => (unescape? rest).map ('\t' :: ·)
  | '\\' :: _ => none
  | c :: rest => if isStringChar c then (unescape? rest).map (c :: ·) else none

/-- The text that is meant by the text between quotes. If there is an escape in it, the text before
the first one is cut down to as many bytes as it has characters. -/
def unquote? (cs : List Char) : Option (List Char) :=
  let (plain, rest) := cs.span (· != '\\')
  if !plain.all isStringChar then none
  else if rest.isEmpty then some plain
  else (unescape? rest).map (takeBytes plain.length plain ++ ·)

/-- Reads a string in double quotes. -/
def quotedString : Scan String := do
  Scan.char '"'
  let cs ← (enclosed : Scan (List Char))
  let cs ← StateT.lift (unquote? cs)
  return .ofList cs

/-! ## Bare words -/

/-- The setting that a bare word stands for. -/
def ofWord (cs : List Char) : Setting :=
  if cs.contains '.' && Decimal.isReal cs then .real
  else match (Decimal.unsigned? cs).or (Decimal.signed? cs) with
    | some n => .integer n
    | none => .string (.ofList cs)

/-! ## Values -/

/-- Reads a key. -/
def key : Scan String := quotedString <|> (String.ofList <$> Scan.takeSome isKeyChar)

mutual

/-- Reads a value and the space around it, in at most the given number of steps. -/
def value : Nat → Scan Setting
  | 0 => failure
  | n + 1 => do
    Scan.skipWhile isSpace
    let x ← fun cs => match cs with
      | 't' :: 'r' :: 'u' :: 'e' :: rest => some (.bool true, rest)
      | 'f' :: 'a' :: 'l' :: 's' :: 'e' :: rest => some (.bool false, rest)
      | '[' :: rest => (items n rest).map fun (xs, rest) => (.array xs, rest)
      | '{' :: rest => (members n rest).map fun (ms, rest) => (.ofMembers ms, rest)
      | '"' :: _ => (quotedString cs).map fun (s, rest) => (.string s, rest)
      | '\'' :: c :: '\'' :: rest => some (.char c, rest)
      | '\'' :: _ => none
      | cs => some (.ofWord (trim (cs.takeWhile isBare)), cs.dropWhile isBare)
    Scan.skipWhile isSpace
    return x

/-- Reads the items of an array up to its end. -/
def items : Nat → Scan (List Setting)
  | 0 => failure
  | n + 1 => (do Scan.char ']'; return []) <|> do
    let x ← value n
    (do Scan.char ','; return x :: (← items n)) <|> (do Scan.char ']'; return [x])

/-- Reads the members of a table up to its end. -/
def members : Nat → Scan (List (String × Setting))
  | 0 => failure
  | n + 1 => (do Scan.char '}'; return []) <|> do
    Scan.skipWhile isSpace
    let k ← key
    Scan.skipWhile isSpace
    Scan.char '='
    let x ← value n
    (do Scan.char ','; return (k, x) :: (← members n)) <|> (do Scan.char '}'; return [(k, x)])

end

/-- The setting that the value of an environment variable stands for. -/
def ofVariable (s : String) : Setting :=
  let cs := s.toList
  ((value (2 * cs.length + 1)).all? cs).getD (.string s)

end CommandRouter.Setting
