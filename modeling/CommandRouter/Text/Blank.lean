/-!
# Blank characters and words

A *blank* is a character with the Unicode property White_Space. Text is read as its *words*: the
maximal runs of characters that are not blank. Two texts with the same words differ only in how
they are spaced, and `collapse` picks the one among them that separates its words by single spaces.
-/

namespace CommandRouter.Text

/-- The code points with the property White_Space, as ranges with both ends included. -/
def blankRanges : List (Nat × Nat) :=
  [(0x09, 0x0D), (0x20, 0x20), (0x85, 0x85), (0xA0, 0xA0), (0x1680, 0x1680), (0x2000, 0x200A),
    (0x2028, 0x2029), (0x202F, 0x202F), (0x205F, 0x205F), (0x3000, 0x3000)]

/-- Whether a code point lies in one of the given ranges. -/
def inRanges (ranges : List (Nat × Nat)) (n : Nat) : Bool :=
  ranges.any fun (low, high) => decide (low ≤ n) && decide (n ≤ high)

/-- Whether a character is blank. -/
def isBlank (c : Char) : Bool := inRanges blankRanges c.toNat

/-- The words of a text, in order. -/
def words (cs : List Char) : List (List Char) :=
  (cs.splitOnP isBlank).filter fun word => !word.isEmpty

/-- The given words with a single space between neighbours. -/
def unwords (ws : List (List Char)) : List Char := [' '].intercalate ws

/-- The same words with nothing but single spaces between them. -/
def collapse (cs : List Char) : List Char := unwords (words cs)

/-- The text without the blanks at its two ends. -/
def trim (cs : List Char) : List Char :=
  ((cs.dropWhile isBlank).reverse.dropWhile isBlank).reverse

/-- Whether a text has no character that is not blank. -/
def isBlankText (cs : List Char) : Bool := cs.all isBlank

/-! ## Small facts about the definitions -/

@[simp] theorem words_nil : words [] = [] := by simp [words]

@[simp] theorem collapse_nil : collapse [] = [] := by simp [collapse, unwords]

/-- No word is empty. -/
theorem ne_nil_of_mem_words {cs w : List Char} (h : w ∈ words cs) : w ≠ [] := by
  intro hw
  simp [words, hw] at h

end CommandRouter.Text
