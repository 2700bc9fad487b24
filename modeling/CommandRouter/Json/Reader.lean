import CommandRouter.Json.Document
import CommandRouter.Text.Decimal
import CommandRouter.Text.Hex

/-!
# Reading JSON text

`Document.read` reads a text that is JSON from its beginning to its end. Space is a blank, a tab, a
line feed or a carriage return. A number is an integer if it has neither a point nor an exponent and
fits a signed or unsigned 64-bit word; `-0` is a double.
-/

namespace CommandRouter

namespace Document

/-- Whether a character may stand between tokens. -/
def isSpace (c : Char) : Bool := c == ' ' || c == '\t' || c == '\n' || c == '\r'

/-- The text without leading space. -/
def dropSpace (cs : List Char) : List Char := cs.dropWhile isSpace

/-! ## Strings -/

/-- A part of a string: a character, or a 16-bit unit written as an escape. -/
inductive Piece where
  | char (c : Char)
  | unit (n : Nat)

/-- The character that a backslash and the given character stand for. -/
def escaped? : Char → Option Char
  | '"' => some '"'
  | '\\' => some '\\'
  | '/' => some '/'
  | 'b' => some '\x08'
  | 'f' => some '\x0c'
  | 'n' => some '\n'
  | 'r' => some '\r'
  | 't' => some '\t'
  | _ => none

/-- The parts of a string up to its closing quote, and the text behind it. -/
def readPieces : List Char → Option (List Piece × List Char)
  | [] => none
  | '"' :: rest => some ([], rest)
  | '\\' :: 'u' :: a :: b :: c :: d :: rest => do
    let n ← Text.hexNumber? [a, b, c, d]
    let (ps, rest) ← readPieces rest
    return (.unit n :: ps, rest)
  | '\\' :: e :: rest => do
    let c ← escaped? e
    let (ps, rest) ← readPieces rest
    return (.char c :: ps, rest)
  | c :: rest =>
    if c.toNat < 0x20 then none
    else do
      let (ps, rest) ← readPieces rest
      return (.char c :: ps, rest)

/-- The characters of a string. Units above the basic plane come as a high and a low surrogate; a
surrogate without its partner has no character. -/
def joinPieces : List Piece → Option (List Char)
  | [] => some []
  | .char c :: ps => (joinPieces ps).map (c :: ·)
  | .unit high :: .unit low :: ps =>
    if 0xD800 ≤ high ∧ high < 0xDC00 then
      if 0xDC00 ≤ low ∧ low < 0xE000 then
        (joinPieces ps).map (Char.ofNat (0x10000 + (high - 0xD800) * 0x400 + (low - 0xDC00)) :: ·)
      else none
    else if 0xDC00 ≤ high ∧ high < 0xE000 then none
    else (joinPieces (.unit low :: ps)).map (Char.ofNat high :: ·)
  | .unit n :: ps =>
    if 0xD800 ≤ n ∧ n < 0xE000 then none else (joinPieces ps).map (Char.ofNat n :: ·)

/-! ## Numbers -/

/-- A number as it is written. -/
structure NumberText where
  /-- Whether there is a minus sign. -/
  negative : Bool
  /-- The digits before the point. -/
  whole : List Char
  /-- The digits behind the point, if there is one. -/
  fraction : Option (List Char)
  /-- Whether the exponent has a minus sign, and its digits, if there is an exponent. -/
  exponent : Option (Bool × List Char)

/-- The leading digits of a text and the text behind them. -/
def readDigits (cs : List Char) : List Char × List Char := cs.span Char.isDigit

/-- The digits before the point, of which a zero is the last if it is the first. -/
def readWhole : List Char → Option (List Char × List Char)
  | '0' :: cs => if (cs.head?.map Char.isDigit).getD false then none else some (['0'], cs)
  | cs =>
    let (ds, rest) := readDigits cs
    if ds.isEmpty then none else some (ds, rest)

/-- The point and the digits behind it, of which there is at least one. -/
def readFraction : List Char → Option (Option (List Char) × List Char)
  | '.' :: cs =>
    let (ds, rest) := readDigits cs
    if ds.isEmpty then none else some (some ds, rest)
  | cs => some (none, cs)

/-- The sign of an exponent. -/
def readExponentSign : List Char → Bool × List Char
  | '-' :: cs => (true, cs)
  | '+' :: cs => (false, cs)
  | cs => (false, cs)

/-- The exponent, which has at least one digit. -/
def readExponent : List Char → Option (Option (Bool × List Char) × List Char)
  | c :: cs =>
    if c == 'e' || c == 'E' then
      let (negative, cs) := readExponentSign cs
      let (ds, rest) := readDigits cs
      if ds.isEmpty then none else some (some (negative, ds), rest)
    else some (none, c :: cs)
  | [] => some (none, [])

/-- The sign of a number. -/
def readSign : List Char → Bool × List Char
  | '-' :: cs => (true, cs)
  | cs => (false, cs)

/-- A number and the text behind it. -/
def readNumber (cs : List Char) : Option (NumberText × List Char) := do
  let (negative, cs) := readSign cs
  let (whole, cs) ← readWhole cs
  let (fraction, cs) ← readFraction cs
  let (exponent, cs) ← readExponent cs
  return (⟨negative, whole, fraction, exponent⟩, cs)

/-- A significand extended by as many digits as leave it in an unsigned 64-bit word, and the digits
left over. -/
def extendSignificand (n : Nat) : List Char → Nat × List Char
  | [] => (n, [])
  | d :: ds =>
    let more := 10 * n + (d.toNat - '0'.toNat)
    if more ≤ 18446744073709551615 then extendSignificand more ds else (n, d :: ds)

/-- The number that is written, if there is one. Digits that leave the 64-bit significand count for
the size of the number only. -/
def NumberText.value? (t : NumberText) : Option Number :=
  let (n, left) := extendSignificand 0 t.whole
  match t.fraction, t.exponent with
  | none, none =>
    if left.isEmpty && !t.negative then some (.integer n)
    else if left.isEmpty && decide (0 < n) && decide (n ≤ 9223372036854775808) then
      some (.integer (-n))
    else (Double.ofDecimal? t.negative n left.length).map .double
  | fraction, exponent =>
    let ds := fraction.getD []
    let (n, unused) := extendSignificand n ds
    let shift : Int := match exponent with
      | none => 0
      | some (negative, e) =>
        if negative then -(Nat.ofDigitChars 10 e 0 : Int) else Nat.ofDigitChars 10 e 0
    let exponent : Int := (left.length : Int) - ((ds.length - unused.length : Nat) : Int) + shift
    (Double.ofDecimal? t.negative n exponent).map .double

/-! ## Values -/

mutual

/-- The value at the beginning of a text and the text behind it, in at most the given number of
steps. -/
def readValue : Nat → List Char → Option (Document × List Char)
  | 0, _ => none
  | n + 1, cs =>
    match dropSpace cs with
    | '{' :: rest =>
      match dropSpace rest with
      | '}' :: rest => some (object [], rest)
      | rest => (readMembers n rest).map fun (members, rest) => (object members, rest)
    | '[' :: rest =>
      match dropSpace rest with
      | ']' :: rest => some (array [], rest)
      | rest => (readItems n rest).map fun (items, rest) => (array items, rest)
    | '"' :: rest => (readPieces rest).map fun (ps, rest) =>
      (((joinPieces ps).map fun s => string (.ofList s)).getD unusable, rest)
    | 'n' :: 'u' :: 'l' :: 'l' :: rest => some (null, rest)
    | 't' :: 'r' :: 'u' :: 'e' :: rest => some (bool true, rest)
    | 'f' :: 'a' :: 'l' :: 's' :: 'e' :: rest => some (bool false, rest)
    | rest => (readNumber rest).map fun (t, rest) => ((t.value?.map number).getD unusable, rest)

/-- The items of an array from one of them on, and the text behind the array. -/
def readItems : Nat → List Char → Option (List Document × List Char)
  | 0, _ => none
  | n + 1, cs => do
    let (item, rest) ← readValue n cs
    match dropSpace rest with
    | ',' :: rest =>
      let (items, rest) ← readItems n rest
      return (item :: items, rest)
    | ']' :: rest => return ([item], rest)
    | _ => none

/-- The members of an object from one of them on, and the text behind the object. -/
def readMembers : Nat → List Char → Option (List (Option String × Document) × List Char)
  | 0, _ => none
  | n + 1, cs =>
    match dropSpace cs with
    | '"' :: rest => do
      let (ps, rest) ← readPieces rest
      let name := (joinPieces ps).map String.ofList
      match dropSpace rest with
      | ':' :: rest =>
        let (value, rest) ← readValue n rest
        match dropSpace rest with
        | ',' :: rest =>
          let (members, rest) ← readMembers n rest
          return ((name, value) :: members, rest)
        | '}' :: rest => return ([(name, value)], rest)
        | _ => none
      | _ => none
    | _ => none

end

/-- Reads a text: a value with nothing but space around it. -/
def read (text : String) : Option Document :=
  let cs := text.toList
  match readValue (2 * cs.length + 2) cs with
  | some (root, rest) => if (dropSpace rest).isEmpty then some root else none
  | none => none

end Document

end CommandRouter
