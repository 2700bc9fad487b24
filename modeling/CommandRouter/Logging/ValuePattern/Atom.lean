import CommandRouter.Text.Blank
import CommandRouter.Text.Hex
import CommandRouter.Text.Scan

/-!
# Patterns for values: single characters

A directive can ask that the value of a field have a certain form, which it gives as a *pattern*, a
regular expression. No value is ever compared with it here, but a directive with something that is
no pattern is refused, so what matters is which texts are patterns.

An *atom* is what a single character or an escape stands for. A pattern is read in a mode, which can
change on the way. In a mode with Unicode a pattern may not ask for the edge of a word, which cannot
be told without looking around; in a mode without it a pattern works on bytes, and what could match
a part of a character is refused. What stands in braces is never complete, because a value ends
before a closing brace.
-/

namespace CommandRouter.ValuePattern

open Text

/-- How a pattern is read. -/
structure Mode where
  /-- Whether blanks and comments are passed over. -/
  ignoresSpace : Bool := false
  /-- Whether characters beyond ASCII are known. -/
  knowsUnicode : Bool := true

/-- What a single character or an escape stands for. -/
inductive Atom where
  /-- A character. -/
  | char (c : Char)
  /-- One of several characters. -/
  | family
  /-- A place between characters. -/
  | place

/-! ## Space -/

/-- The text without the blanks and comments at its beginning. A comment goes from a hash sign to
the end of the line; the text may begin inside of one. -/
def dropSpace (inComment : Bool) : List Char → List Char
  | [] => []
  | c :: cs =>
    if inComment then dropSpace (c != '\n') cs
    else if isBlank c then dropSpace false cs
    else if c == '#' then dropSpace true cs
    else c :: cs

/-- Passes over blanks and comments if the mode asks for it. -/
def skipSpace (m : Mode) : Scan Unit := fun cs =>
  some ((), if m.ignoresSpace then dropSpace false cs else cs)

/-! ## Escapes -/

/-- Reads as many hexadecimal digits as are asked for. -/
def hexDigits (m : Mode) : Nat → Scan (List Char)
  | 0 => return []
  | n + 1 => do
    skipSpace m
    let d ← Scan.charWhere fun d => (hexDigit? d).isSome
    return d :: (← hexDigits m n)

/-- Reads the character whose code point is written with the given number of digits. -/
def codedChar (m : Mode) (digits : Nat) : Scan Char := do
  let ds ← hexDigits m digits
  StateT.lift (hexChar? ds)

/-- Whether a letter names one of the major categories of characters. -/
def isCategory (c : Char) : Bool := ['C', 'L', 'M', 'N', 'P', 'S', 'Z'].contains c.toUpper

/-- Reads what follows the backslash of an escape. -/
def escape (m : Mode) : Scan Atom := do
  let c ← Scan.charWhere fun _ => true
  match c with
  | 'x' =>
    let c ← codedChar m 2
    guard (m.knowsUnicode || decide (c.toNat < 0x80))
    return .char c
  | 'u' => return .char (← codedChar m 4)
  | 'U' => return .char (← codedChar m 8)
  | 'p' | 'P' =>
    guard m.knowsUnicode
    skipSpace m
    let _ ← Scan.charWhere isCategory
    return .family
  | 'd' | 's' | 'w' => return .family
  | 'D' | 'S' | 'W' => guard m.knowsUnicode; return .family
  | 'a' => return .char '\x07'
  | 'f' => return .char '\x0c'
  | 't' => return .char '\t'
  | 'n' => return .char '\n'
  | 'r' => return .char '\r'
  | 'v' => return .char '\x0b'
  | 'A' | 'z' => return .place
  | 'b' | 'B' | '<' | '>' => guard !m.knowsUnicode; return .place
  | c =>
    guard (decide (c.toNat < 0x80) && !c.isAlphanum)
    return .char c

/-! ## Depth -/

/-- The greatest number of patterns that a pattern may have inside one another. -/
def maxDepth : Nat := 250

/-- How deep a pattern is that consists of parts of the given depths: one part stands for itself. -/
def depthOf : List Nat → Nat
  | [] => 0
  | [d] => d
  | ds => ds.foldl max 0 + 1

end CommandRouter.ValuePattern
