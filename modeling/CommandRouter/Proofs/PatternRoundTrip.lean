import CommandRouter.Pattern.Writer
import CommandRouter.Proofs.PatternGrammar

/-!
# Patterns read back

The line of a well-formed pattern is one of its spellings, and so it is read back as the pattern.
With the grammar this makes `Pattern.parse` and `Pattern.render` inverse to each other as far as
they can be: every line that is read gives a well-formed pattern, and every well-formed pattern is
given by its own line.
-/

namespace CommandRouter

/-! ## The line of a pattern spells it -/

/-- A value is shown as a text that spells it. -/
theorem ChoiceValue.Suits.spelled_display {kind : OptionType} {v : ChoiceValue}
    (h : v.Suits kind) : v.Spelled kind v.display.toList := by
  cases v with
  | integer n =>
    refine ⟨h, ?_⟩
    rw [display, Decimal.text, String.toList_ofList]
    exact Decimal.signed?_render (Decimal.fitsSigned_toInt n)
  | text s => exact ⟨h.1, rfl⟩

/-- A value is shown without blanks and commas. -/
theorem ChoiceValue.Suits.display_char {kind : OptionType} {v : ChoiceValue} (h : v.Suits kind) :
    ∀ c ∈ v.display.toList, Text.isBlank c = false ∧ c ≠ ',' := by
  cases v with
  | integer n =>
    intro c hc
    rw [display, Decimal.text, String.toList_ofList] at hc
    rcases Decimal.mem_render hc with rfl | hdigit
    · decide
    · have hrange : 48 ≤ c.toNat ∧ c.toNat ≤ 57 := by
        simpa [Char.isDigit, UInt32.le_iff_toNat_le] using hdigit
      refine ⟨Text.isBlank_of_ascii (by omega) (by omega), ?_⟩
      rintro rfl
      exact absurd hrange (by decide)
  | text s => exact h.2.2

theorem Choice.WellFormed.spelled_line {kind : OptionType} {c : Choice} (h : c.WellFormed kind) :
    c.Spelled kind c.line :=
  ⟨_, .pair fun heq => (h.chars '=' heq).2.2 rfl, h.value.spelled_display⟩

/-- A choice is written without blanks and commas. -/
theorem Choice.WellFormed.line_char {kind : OptionType} {c : Choice} (h : c.WellFormed kind) :
    ∀ ch ∈ c.line, Text.isBlank ch = false ∧ ch ≠ ',' := by
  intro ch hch
  rcases List.mem_append.mp hch with hname | hvalue
  · exact ⟨(h.chars ch hname).1, (h.chars ch hname).2.1⟩
  · rcases List.mem_cons.mp hvalue with rfl | hvalue
    · decide
    · exact h.value.display_char ch hvalue

/-- The list of choices that is written for an option spells its choices. -/
theorem OptionSpec.spelled_choiceLine {kind : OptionType} {cs : List Choice}
    (h : ∀ c ∈ cs, c.WellFormed kind) : ChoicesSpelled kind (choiceLine cs) cs := by
  cases cs with
  | nil => exact .free
  | cons c cs =>
    refine .list (by simp) ?_ ?_
    · intro entry hentry
      obtain ⟨d, hd, rfl⟩ := List.mem_map.mp hentry
      exact fun hcomma => ((h d hd).line_char ',' hcomma).2 rfl
    · rw [List.forall₂_map_left_iff, List.forall₂_same]
      exact fun d hd => (h d hd).spelled_line

/-- The list of choices that is written for an option holds no blanks. -/
theorem OptionSpec.not_blank_choiceLine {kind : OptionType} {cs : List Choice}
    (h : ∀ c ∈ cs, c.WellFormed kind) : ∀ ch ∈ choiceLine cs, Text.isBlank ch = false := by
  intro ch hch
  unfold choiceLine at hch
  split at hch
  · cases hch
  · simp only [List.mem_cons, List.mem_append, Text.mem_intercalate_iff, List.not_mem_nil,
      or_false] at hch
    rcases hch with rfl | ((⟨rfl, -⟩ | ⟨entry, hentry, hmem⟩) | rfl)
    · decide
    · decide
    · obtain ⟨c, hc, rfl⟩ := List.mem_map.mp hentry
      exact ((h c hc).line_char ch hmem).1
    · decide

/-- An option is written without blanks. -/
theorem OptionSpec.WellFormed.not_blank_line {o : OptionSpec} (h : o.WellFormed) :
    ∀ ch ∈ o.line, Text.isBlank ch = false := by
  intro ch hch
  simp only [line, List.mem_append, List.mem_cons] at hch
  rcases hch with ((hname | hmark) | (rfl | htype)) | hchoices
  · exact h.name.not_blank ch hname
  · split at hmark
    · cases hmark
    · rw [List.mem_singleton.mp hmark]
      decide
  · decide
  · exact (Pattern.typeName_char o.kind ch htype).1
  · exact not_blank_choiceLine h.choices ch hchoices

theorem OptionSpec.WellFormed.spelled_line {o : OptionSpec} (h : o.WellFormed) :
    o.Spelled o.line :=
  ⟨choiceLine o.choices, by simp [line, label], spelled_choiceLine h.choices⟩

/-- The line of a pattern spells it. -/
theorem Pattern.WellFormed.spelled_words {p : Pattern} (h : p.WellFormed) :
    p.Spelled p.words := by
  refine ⟨p.options.map OptionSpec.line, rfl, ?_⟩
  rw [List.forall₂_map_left_iff, List.forall₂_same]
  exact fun o ho => (h.options o ho).spelled_line

/-- The words of a pattern are words: they are not empty and hold no blanks. -/
theorem Pattern.WellFormed.word_of_mem {p : Pattern} (h : p.WellFormed) :
    ∀ w ∈ p.words, w ≠ [] ∧ ∀ ch ∈ w, Text.isBlank ch = false := by
  intro w hw
  simp only [words, List.mem_cons, List.mem_append, List.mem_map] at hw
  rcases hw with rfl | (⟨s, hs, rfl⟩ | ⟨o, ho, rfl⟩)
  · refine ⟨by simp, ?_⟩
    intro ch hch
    rcases List.mem_cons.mp hch with rfl | hch
    · decide
    · exact h.name.not_blank ch hch
  · exact ⟨(h.path s hs).ne_nil, (h.path s hs).not_blank⟩
  · refine ⟨?_, (h.options o ho).not_blank_line⟩
    simp [OptionSpec.line, (h.options o ho).name.ne_nil]

namespace Pattern

/-! ## Lines -/

/-- A line is read as a pattern exactly if its words spell it and it is well-formed. -/
theorem parse_eq_ok_iff {line : String} {p : Pattern} :
    parse line = .ok p ↔ p.Spelled (Text.words line.toList) ∧ p.WellFormed := by
  have hwords : ∀ w ∈ Text.words line.toList, ∀ ch ∈ w, Text.isBlank ch = false :=
    fun w hw => Text.isBlank_of_mem_words hw
  rw [← ofWords_eq_ok_iff hwords]
  unfold parse
  split
  · rename_i hnil
    rw [hnil]
    simp [ofWords]
  · cases ofWords (Text.words line.toList) <;> simp [Except.mapError]

theorem words_render {p : Pattern} (h : p.WellFormed) :
    Text.words p.render.toList = p.words := by
  rw [render, String.toList_ofList]
  exact Text.words_unwords h.word_of_mem

/-- Reading accepts exactly the spellings of well-formed patterns, and takes the line of every
well-formed pattern back to it. -/
theorem parse_exact :
    (∀ (line : String) (p : Pattern),
      parse line = .ok p ↔ p.Spelled (Text.words line.toList) ∧ p.WellFormed) ∧
    ∀ p : Pattern, p.WellFormed → parse p.render = .ok p := by
  refine ⟨fun line p => parse_eq_ok_iff, ?_⟩
  intro p h
  rw [parse_eq_ok_iff, words_render h]
  exact ⟨h.spelled_words, h⟩

/-- Delimiters may stand in the names and values of choices. -/
theorem parse_delimiters_in_choices :
    Pattern.WellFormed ⟨"a", ["g", "s"],
      [⟨"x", .string, false, [⟨"<k:>", .text "v=:<>"⟩]⟩,
        ⟨"n", .integer, true, [⟨"d6", .integer (-6)⟩]⟩]⟩ ∧
    parse "/a g s x?:string<<k:>=v=:<>> n:integer<d6=-6>" = .ok ⟨"a", ["g", "s"],
      [⟨"x", .string, false, [⟨"<k:>", .text "v=:<>"⟩]⟩,
        ⟨"n", .integer, true, [⟨"d6", .integer (-6)⟩]⟩]⟩ := by
  have h : Pattern.WellFormed ⟨"a", ["g", "s"],
      [⟨"x", .string, false, [⟨"<k:>", .text "v=:<>"⟩]⟩,
        ⟨"n", .integer, true, [⟨"d6", .integer (-6)⟩]⟩]⟩ := by decide
  exact ⟨h, parse_exact.2 _ h⟩

end Pattern

end CommandRouter
