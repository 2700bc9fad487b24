import CommandRouter.Config.Setting
import CommandRouter.Json.Double
import CommandRouter.Text.Decimal
import CommandRouter.Text.Hex
import CommandRouter.Text.Scan

/-!
# TOML scalars

The strings, numbers, truth values, dates and times of a TOML document. A line ends with a line feed
here; `Toml.lines` makes one of every pair of a carriage return and a line feed.
-/

namespace CommandRouter.Toml

open Text

/-! ## Characters -/

/-- The text with a line feed in place of every pair of a carriage return and a line feed. -/
def lines : List Char → List Char
  | '\r' :: '\n' :: cs => '\n' :: lines cs
  | c :: cs => c :: lines cs
  | [] => []

/-- Whether a character is space within a line. -/
def isSpace (c : Char) : Bool := c == ' ' || c == '\t'

/-- Whether a character may stand in a comment or a string: a tab or no control character. -/
def isPlain (c : Char) : Bool := c == '\t' || (decide (0x20 ≤ c.toNat) && c.toNat != 0x7F)

/-! ## Strings -/

/-- The character that a backslash and the given character stand for. -/
def escaped? : Char → Option Char
  | 'b' => some '\x08'
  | 't' => some '\t'
  | 'n' => some '\n'
  | 'f' => some '\x0c'
  | 'r' => some '\r'
  | '"' => some '"'
  | '\\' => some '\\'
  | _ => none

/-- A character in front of a text that was read. -/
def push (c : Char) (result : Option (List Char × List Char)) : Option (List Char × List Char) :=
  result.map fun (cs, rest) => (c :: cs, rest)

/-- The rest of a string with escapes, and the text behind its closing quote. -/
def basicRest : List Char → Option (List Char × List Char)
  | [] => none
  | '"' :: rest => some ([], rest)
  | '\\' :: 'u' :: a :: b :: c :: d :: rest => do
    push (← hexChar? [a, b, c, d]) (basicRest rest)
  | '\\' :: 'U' :: a :: b :: c :: d :: e :: f :: g :: h :: rest => do
    push (← hexChar? [a, b, c, d, e, f, g, h]) (basicRest rest)
  | '\\' :: e :: rest => do push (← escaped? e) (basicRest rest)
  | c :: rest => if isPlain c then push c (basicRest rest) else none

/-- The rest of a string without escapes, and the text behind its closing quote. -/
def literalRest : List Char → Option (List Char × List Char)
  | [] => none
  | '\'' :: rest => some ([], rest)
  | c :: rest => if isPlain c then push c (literalRest rest) else none

/-- Up to two quotes at the beginning of a text, and what follows them. -/
def trailingQuotes (quote : Char) : List Char → List Char × List Char
  | c :: d :: rest =>
    if c = quote then if d = quote then ([c, d], rest) else ([c], d :: rest)
    else ([], c :: d :: rest)
  | [c] => if c = quote then ([c], []) else ([], [c])
  | [] => ([], [])

/-- Whether nothing but space stands before the end of the line. -/
def endsLine (cs : List Char) : Bool := (cs.dropWhile isSpace).head? == some '\n'

/-- The rest of a string with escapes over several lines, and the text behind its closing quotes. A
backslash at the end of a line makes it pass over the space up to the next character. -/
def longBasicRest (passing : Bool) : List Char → Option (List Char × List Char)
  | [] => none
  | '"' :: '"' :: '"' :: rest => some (trailingQuotes '"' rest)
  | '\\' :: 'u' :: a :: b :: c :: d :: rest => do
    push (← hexChar? [a, b, c, d]) (longBasicRest false rest)
  | '\\' :: 'U' :: a :: b :: c :: d :: e :: f :: g :: h :: rest => do
    push (← hexChar? [a, b, c, d, e, f, g, h]) (longBasicRest false rest)
  | '\\' :: e :: rest =>
    if endsLine (e :: rest) then longBasicRest true rest
    else do push (← escaped? e) (longBasicRest false rest)
  | c :: rest =>
    if passing && (isSpace c || c == '\n') then longBasicRest true rest
    else if isPlain c || c == '\n' then push c (longBasicRest false rest)
    else none

/-- The rest of a string without escapes over several lines, and the text behind its closing
quotes. -/
def longLiteralRest : List Char → Option (List Char × List Char)
  | [] => none
  | '\'' :: '\'' :: '\'' :: rest => some (trailingQuotes '\'' rest)
  | c :: rest => if isPlain c || c == '\n' then push c (longLiteralRest rest) else none

/-- The text without a line feed at its beginning. -/
def dropLineFeed : List Char → List Char
  | '\n' :: cs => cs
  | cs => cs

/-- Reads a string on one line. -/
def shortString : Scan String
  | '"' :: cs => (basicRest cs).map fun (s, rest) => (.ofList s, rest)
  | '\'' :: cs => (literalRest cs).map fun (s, rest) => (.ofList s, rest)
  | _ => none

/-- Reads a string. -/
def string : Scan String
  | '"' :: '"' :: '"' :: cs =>
    (longBasicRest false (dropLineFeed cs)).map fun (s, rest) => (.ofList s, rest)
  | '\'' :: '\'' :: '\'' :: cs =>
    (longLiteralRest (dropLineFeed cs)).map fun (s, rest) => (.ofList s, rest)
  | cs => shortString cs

/-! ## Numbers -/

/-- More digits of a number; an underscore may stand between two digits. -/
def moreDigits (p : Char → Bool) : Scan (List Char)
  | '_' :: c :: cs => if p c then push c (moreDigits p cs) else none
  | ['_'] => none
  | c :: cs => if p c then push c (moreDigits p cs) else some ([], c :: cs)
  | [] => some ([], [])

/-- Reads one or more digits; an underscore may stand between two digits. -/
def digits (p : Char → Bool) : Scan (List Char) := do
  let c ← Scan.charWhere p
  return c :: (← moreDigits p)

/-- Reads a sign, and whether it is a minus sign. -/
def sign : Scan Bool :=
  (do Scan.char '-'; return true) <|> (do Scan.skipOptional (Scan.char '+'); return false)

/-- Reads the digits of a decimal integer, of which only a single one may be a leading zero. -/
def wholeDigits : Scan (List Char) :=
  (do Scan.char '0'; return ['0']) <|> digits Char.isDigit

/-- Reads an exponent. -/
def exponent : Scan Int := do
  let _ ← Scan.charWhere fun c => c == 'e' || c == 'E'
  let negative ← sign
  let n := Nat.ofDigitChars 10 (← digits Char.isDigit) 0
  return if negative then -(n : Int) else n

/-- Whether a decimal number lies within the doubles. -/
def isInRange (significand : Nat) (places : Nat) (exponent : Int) : Bool :=
  let shift := exponent - places
  if significand = 0 then true
  else if 310 < shift then false
  else if shift < -(400 + (significand.log2 : Int)) then true
  else Double.isFiniteMagnitude
    (Double.nearest (significand * Nat.pow 10 shift.toNat) (Nat.pow 10 (-shift).toNat) 0)

/-- Reads a number with a fraction or an exponent. Positive numbers must lie within the doubles. -/
def realNumber : Scan Setting := do
  let negative ← sign
  let whole ← wholeDigits
  let fraction ← Scan.optional (do Scan.char '.'; digits Char.isDigit)
  let e ← Scan.optional exponent
  if fraction.isNone && e.isNone then failure
  let fraction := fraction.getD []
  let significand := Nat.ofDigitChars 10 (whole ++ fraction) 0
  if negative || isInRange significand fraction.length (e.getD 0) then return .real else failure

/-- Reads an infinite number or none at all. -/
def specialNumber : Scan Setting := do
  let _ ← sign
  Scan.chars ['i', 'n', 'f'] <|> Scan.chars ['n', 'a', 'n']
  return .real

/-- A number in the given base. -/
def inBase (base : Nat) (ds : List Char) : Nat :=
  ds.foldl (fun n c => base * n + (hexDigit? c).getD 0) 0

/-- Reads an integer in a base that is given by a letter. -/
def basedNumber (letter : Char) (base : Nat) : Scan Int := do
  Scan.chars ['0', letter]
  let ds ← digits fun c => (hexDigit? c).any (· < base)
  return inBase base ds

/-- Reads a signed 64-bit integer. -/
def integer : Scan Setting := do
  let n ← basedNumber 'x' 16 <|> basedNumber 'o' 8 <|> basedNumber 'b' 2 <|> do
    let negative ← sign
    let n := Nat.ofDigitChars 10 (← wholeDigits) 0
    return if negative then -(n : Int) else n
  if Decimal.fitsSigned n then return .integer n else failure

/-! ## Dates and times -/

/-- Reads a number of so many digits that lies in a range. -/
def field (count low high : Nat) : Scan Nat := do
  let n := Nat.ofDigitChars 10 (← Scan.exactly Char.isDigit count) 0
  if low ≤ n ∧ n ≤ high then return n else failure

/-- The number of days of a month. -/
def daysOf (year month : Nat) : Nat :=
  if month = 2 then if year % 4 = 0 ∧ (year % 100 ≠ 0 ∨ year % 400 = 0) then 29 else 28
  else if month ∈ [4, 6, 9, 11] then 30
  else 31

/-- Reads a date. -/
def date : Scan Unit := do
  let year ← field 4 0 9999
  Scan.char '-'
  let month ← field 2 1 12
  Scan.char '-'
  let _ ← field 2 1 (daysOf year month)

/-- Reads a time of day. -/
def time : Scan Unit := do
  let _ ← field 2 0 23
  Scan.char ':'
  let _ ← field 2 0 59
  Scan.char ':'
  let _ ← field 2 0 60
  Scan.skipOptional (do Scan.char '.'; let _ ← Scan.takeSome Char.isDigit)

/-- Reads the distance of a time from the universal time. -/
def offset : Scan Unit :=
  (do let _ ← Scan.charWhere fun c => c == 'Z' || c == 'z') <|> do
    let _ ← Scan.charWhere fun c => c == '+' || c == '-'
    let _ ← field 2 0 23
    Scan.char ':'
    let _ ← field 2 0 59

/-- Reads a date, a date and a time, or a time. -/
def moment : Scan Unit :=
  (do
    date
    Scan.skipOptional (do
      let _ ← Scan.charWhere fun c => c == 'T' || c == 't' || c == ' '
      time
      Scan.skipOptional offset)) <|> time

/-- The key under which a date or a time stands in a setting. -/
def momentKey : String := "$__toml_private_datetime"

/-- Reads a date or a time as the setting that has it under its key. -/
def momentSetting : Scan Setting := fun cs =>
  (moment.run cs).map fun ((), rest) =>
    (.table [(momentKey, .string (.ofList (cs.take (cs.length - rest.length))))], rest)

/-! ## Scalars -/

/-- Reads a truth value. -/
def truth : Scan Setting :=
  (do Scan.chars ['t', 'r', 'u', 'e']; return .bool true) <|>
    (do Scan.chars ['f', 'a', 'l', 's', 'e']; return .bool false)

/-- Reads a scalar. -/
def scalar : Scan Setting :=
  (Setting.string <$> string) <|> truth <|> momentSetting <|> realNumber <|> specialNumber <|>
    integer

end CommandRouter.Toml
