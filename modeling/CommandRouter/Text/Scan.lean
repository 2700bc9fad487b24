import CommandRouter.Text.Cut

/-!
# Scanners

A scanner reads a value from the beginning of a text and leaves the rest of the text, or fails. A
scanner that failed has read nothing, so another one can be tried in its place with `<|>`.
-/

namespace CommandRouter.Text

/-- Reads a value from the beginning of a text. -/
abbrev Scan (α : Type) : Type := StateT (List Char) Option α

namespace Scan

variable {α : Type}

/-- Reads a whole text. -/
def all? (s : Scan α) (cs : List Char) : Option α :=
  match s.run cs with
  | some (x, []) => some x
  | _ => none

/-- Reads a character with the property. -/
def charWhere (p : Char → Bool) : Scan Char
  | [] => none
  | c :: cs => if p c then some (c, cs) else none

/-- Reads the given character. -/
def char (c : Char) : Scan Unit := do let _ ← charWhere (· == c)

/-- Reads the given characters. -/
def chars (ds : List Char) : Scan Unit := fun cs => (dropStart? ds cs).map ((), ·)

/-- Reads characters as long as they have the property. -/
def takeWhile (p : Char → Bool) : Scan (List Char) :=
  fun cs => some (cs.takeWhile p, cs.dropWhile p)

/-- Passes over characters as long as they have the property. -/
def skipWhile (p : Char → Bool) : Scan Unit := fun cs => some ((), cs.dropWhile p)

/-- Reads one or more characters with the property. -/
def takeSome (p : Char → Bool) : Scan (List Char) := do
  let c ← charWhere p
  return c :: (← takeWhile p)

/-- Reads as many characters with the property as are asked for. -/
def exactly (p : Char → Bool) : Nat → Scan (List Char)
  | 0 => return []
  | n + 1 => do
    let c ← charWhere p
    return c :: (← exactly p n)

/-- Reads a value if there is one. -/
def optional (s : Scan α) : Scan (Option α) := fun cs =>
  match s.run cs with
  | some (x, rest) => some (some x, rest)
  | none => some (none, cs)

/-- Passes over a value if there is one. -/
def skipOptional (s : Scan α) : Scan Unit := do let _ ← optional s

/-- Whether the text has come to its end. -/
def atEnd : Scan Bool := fun cs => some (cs.isEmpty, cs)

end Scan

end CommandRouter.Text
