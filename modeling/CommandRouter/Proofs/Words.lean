import CommandRouter.Text.Blank
import CommandRouter.Text.Cut

/-!
# Words and pieces of a text

What splitting a text gives back. The words of a text hold no blanks, and words put together with
single spaces are the words of the result. The pieces between delimiters hold no delimiter, and a
text is cut at the first place where its delimiter stands.
-/

namespace CommandRouter.Text

/-- Whether all characters of a text have a property is found by going through the text, and not
through all characters there are. -/
instance (priority := high) decidableForallMem (p : Char → Prop) [DecidablePred p]
    (cs : List Char) : Decidable (∀ c ∈ cs, p c) := List.decidableBAll p cs

/-! ## Pieces -/

/-- The pieces of a split consist of characters at which the text was not split. -/
theorem splitOnP_pieces (p : Char → Bool) (cs : List Char) :
    ∀ piece ∈ cs.splitOnP p, ∀ c ∈ piece, p c = false := by
  induction cs with
  | nil => simp
  | cons x xs ih =>
    rw [List.splitOnP_cons_eq_if_modifyHead]
    cases hsplit : xs.splitOnP p with
    | nil => exact absurd hsplit (List.splitOnP_ne_nil p xs)
    | cons first others =>
      rw [hsplit] at ih
      have hfirst : ∀ c ∈ first, p c = false := ih first List.mem_cons_self
      by_cases hx : p x = true
      · simpa [hx] using ih
      · -- `x` joins the first piece, and the other pieces are as they were.
        simp only [hx, Bool.false_eq_true, ↓reduceIte, List.modifyHead_cons, List.forall_mem_cons]
        exact ⟨⟨by simp, hfirst⟩, fun piece h => ih piece (List.mem_cons_of_mem _ h)⟩

/-- No piece between delimiters holds the delimiter. -/
theorem not_mem_of_mem_splitOn {d : Char} {cs piece : List Char} (h : piece ∈ cs.splitOn d) :
    d ∉ piece := by
  intro hd
  rw [List.splitOn_eq_splitOnP] at h
  have hne := splitOnP_pieces (· == d) cs piece h d hd
  simp at hne

/-- The characters of pieces put together are those of the pieces and, between them, the
delimiter. -/
theorem mem_intercalate_iff {d c : Char} {pieces : List (List Char)} :
    c ∈ [d].intercalate pieces ↔ c = d ∧ 2 ≤ pieces.length ∨ ∃ piece ∈ pieces, c ∈ piece := by
  induction pieces with
  | nil => simp
  | cons first others ih =>
    cases others with
    | nil => simp
    | cons second others =>
      rw [List.intercalate_cons_cons, List.mem_append, List.mem_append, ih, List.mem_singleton]
      constructor
      · rintro ((h | rfl) | (⟨rfl, -⟩ | ⟨piece, hpiece, h⟩))
        · exact Or.inr ⟨first, by simp, h⟩
        · exact Or.inl ⟨rfl, by simp⟩
        · exact Or.inl ⟨rfl, by simp⟩
        · exact Or.inr ⟨piece, List.mem_cons_of_mem first hpiece, h⟩
      · rintro (⟨rfl, -⟩ | ⟨piece, hpiece, h⟩)
        · exact Or.inl (Or.inr rfl)
        · rcases List.mem_cons.mp hpiece with rfl | hpiece
          · exact Or.inl (Or.inl h)
          · exact Or.inr (Or.inr ⟨piece, hpiece, h⟩)

/-- Every character of a piece is a character of the text. -/
theorem mem_of_mem_splitOn {d c : Char} {cs piece : List Char} (h : piece ∈ cs.splitOn d)
    (hc : c ∈ piece) : c ∈ cs := by
  have hcs : [d].intercalate (cs.splitOn d) = cs := List.intercalate_splitOn d
  rw [← hcs, mem_intercalate_iff]
  exact Or.inr ⟨piece, h, hc⟩

/-- A text that is put together from pieces splits where they do. -/
theorem splitOn_intercalate_eq_flatMap (d : Char) {pieces : List (List Char)} (hne : pieces ≠ []) :
    ([d].intercalate pieces).splitOn d = pieces.flatMap (List.splitOn d) := by
  induction pieces with
  | nil => contradiction
  | cons first others ih =>
    cases others with
    | nil => simp
    | cons second others =>
      rw [List.intercalate_cons_cons, List.append_assoc, List.singleton_append,
        List.splitOn_append_cons_self, ih (List.cons_ne_nil _ _), ← List.flatMap_cons]

/-- Without the delimiter there is one piece, the whole. -/
theorem splitOn_of_not_mem {α : Type} [DecidableEq α] {d : α} {cs : List α} (h : d ∉ cs) :
    cs.splitOn d = [cs] := by
  have hwhole : ([d].intercalate [cs]).splitOn d = [cs] :=
    List.splitOn_intercalate d (List.forall_mem_singleton.mpr h) (List.cons_ne_nil _ _)
  rwa [List.intercalate_singleton] at hwhole

/-- The names that a text spells, with a space between any two. -/
def namesIn (s : String) : List String := (s.toList.splitOn ' ').map .ofList

theorem namesIn_of_not_mem {s : String} (h : ' ' ∉ s.toList) : namesIn s = [s] := by
  rw [namesIn, splitOn_of_not_mem h, List.map_singleton, String.ofList_toList]

theorem flatMap_namesIn_of_not_mem {names : List String} (h : ∀ s ∈ names, ' ' ∉ s.toList) :
    names.flatMap namesIn = names := by
  induction names with
  | nil => rfl
  | cons s names ih =>
    obtain ⟨hs, hnames⟩ := List.forall_mem_cons.mp h
    rw [List.flatMap_cons, namesIn_of_not_mem hs, ih hnames, List.singleton_append]

/-! ## Words -/

/-- No visible ASCII character is a blank. -/
theorem isBlank_of_ascii {c : Char} (hlow : 33 ≤ c.toNat) (hhigh : c.toNat ≤ 126) :
    isBlank c = false := by
  simp only [isBlank, inRanges, blankRanges, List.any_cons, List.any_nil, Bool.or_false,
    Bool.or_eq_false_iff, Bool.and_eq_false_iff, decide_eq_false_iff_not]
  omega

/-- No word holds a blank. -/
theorem isBlank_of_mem_words {cs w : List Char} (h : w ∈ words cs) :
    ∀ c ∈ w, isBlank c = false :=
  splitOnP_pieces isBlank cs w (List.mem_filter.mp h).1

/-- Words are split at a blank. -/
theorem words_append_blank {b : Char} (hb : isBlank b = true) (cs ds : List Char) :
    words (cs ++ b :: ds) = words cs ++ words ds := by
  unfold words
  rw [List.splitOnP_append_cons cs ds hb, List.filter_append]

/-- A non-empty text without blanks is its only word. -/
theorem words_of_no_blank {w : List Char} (hne : w ≠ []) (hw : ∀ c ∈ w, isBlank c = false) :
    words w = [w] := by
  unfold words
  rw [List.splitOnP_eq_singleton hw]
  simp [hne]

/-- Words that are put together with single spaces are read back. -/
theorem words_unwords {ws : List (List Char)}
    (h : ∀ w ∈ ws, w ≠ [] ∧ ∀ c ∈ w, isBlank c = false) : words (unwords ws) = ws := by
  induction ws with
  | nil => simp [unwords]
  | cons w ws ih =>
    obtain ⟨hne, hw⟩ := h w List.mem_cons_self
    have hrest := ih fun v hv => h v (List.mem_cons_of_mem _ hv)
    cases ws with
    | nil => simpa [unwords] using words_of_no_blank hne hw
    | cons v ws =>
      have hcat : unwords (w :: v :: ws) = w ++ ' ' :: unwords (v :: ws) := by
        simp [unwords, List.intercalate_cons_cons]
      rw [hcat, words_append_blank (by decide), words_of_no_blank hne hw, hrest]
      rfl

/-! ## Ends -/

/-- A text loses its last character exactly if that is the given one. -/
theorem dropLast?_eq_some_iff {d : Char} {cs rest : List Char} :
    dropLast? d cs = some rest ↔ cs = rest ++ [d] := by
  unfold dropLast?
  constructor
  · intro h
    split at h
    · rename_i hd
      obtain ⟨front, rfl⟩ := List.getLast?_eq_some_iff.mp hd
      simpa using h
    · cases h
  · rintro rfl
    simp

/-- A text keeps its last character if the given one does not occur. -/
theorem dropLast?_eq_none {d : Char} {cs : List Char} (h : d ∉ cs) : dropLast? d cs = none := by
  unfold dropLast?
  rw [if_neg]
  exact fun hd => h (List.mem_of_getLast? hd)

end CommandRouter.Text
