import CommandRouter.Pattern.Reader
import CommandRouter.Proofs.Steps
import CommandRouter.Proofs.Words

/-!
# Spacing

Which words a text has is said here without the function that finds them: they are the maximal runs
of characters that are not blank. Every text has exactly one sequence of words, and `collapse` picks
one text for each sequence, that with single spaces. A pattern is read from its words alone, so how
they are spaced shows neither in what is read nor in what is found wrong.
-/

namespace CommandRouter

namespace Text

/-! ## Words as maximal runs -/

/-- The text has these words, which are its maximal runs of characters that are not blank: a word
goes on to the end of the text or to a blank. -/
inductive HasWords : List Char → List (List Char) → Prop where
  | nil : HasWords [] []
  | blank {b : Char} {cs : List Char} {ws : List (List Char)} (hb : isBlank b = true)
      (h : HasWords cs ws) : HasWords (b :: cs) ws
  | word {w cs : List Char} {ws : List (List Char)} (hne : w ≠ [])
      (hw : ∀ c ∈ w, isBlank c = false) (hend : ∀ c ∈ cs.head?, isBlank c = true)
      (h : HasWords cs ws) : HasWords (w ++ cs) (w :: ws)

/-- Every blank of the text is a single space with a character of a word on either side. -/
def SingleSpaced (cs : List Char) : Prop :=
  ∀ left b right, cs = left ++ b :: right → isBlank b = true →
    b = ' ' ∧ (∃ c ∈ left.getLast?, isBlank c = false) ∧ ∃ c ∈ right.head?, isBlank c = false

variable {cs ds : List Char} {ws : List (List Char)}

theorem words_cons_blank {b : Char} (hb : isBlank b = true) (cs : List Char) :
    words (b :: cs) = words cs := by
  have h := words_append_blank hb [] cs
  rwa [words_nil, List.nil_append, List.nil_append] at h

/-- The function finds the words. -/
theorem HasWords.words_eq (h : HasWords cs ws) : words cs = ws := by
  induction h with
  | nil => exact words_nil
  | blank hb _ ih => rw [words_cons_blank hb, ih]
  | @word w cs ws hne hw hend _ ih =>
    cases cs with
    | nil =>
      rw [words_nil] at ih
      rw [List.append_nil, words_of_no_blank hne hw, ← ih]
    | cons b cs =>
      have hb : isBlank b = true := hend b rfl
      rw [words_cons_blank hb] at ih
      rw [words_append_blank hb, words_of_no_blank hne hw, ih, List.singleton_append]

/-- A text that starts with a word is that word and a rest that, if anything, starts with a blank. -/
theorem exists_word {c : Char} (hc : isBlank c = false) (cs : List Char) :
    ∃ w rest, c :: cs = (c :: w) ++ rest ∧ rest.length ≤ cs.length ∧
      (∀ d ∈ c :: w, isBlank d = false) ∧ ∀ d ∈ rest.head?, isBlank d = true := by
  induction cs generalizing c with
  | nil => exact ⟨[], [], rfl, Nat.le_refl _, by simpa using hc, nofun⟩
  | cons b cs ih =>
    cases hb : isBlank b with
    | true =>
      refine ⟨[], b :: cs, rfl, Nat.le_refl _, by simpa using hc, fun d hd => ?_⟩
      rwa [← Option.some.inj hd]
    | false =>
      obtain ⟨w, rest, hcat, hlength, hw, hend⟩ := ih hb
      refine ⟨b :: w, rest, by rw [hcat]; rfl, by rw [List.length_cons]; omega, ?_, hend⟩
      exact List.forall_mem_cons.mpr ⟨hc, hw⟩

/-- Every text has words. By induction on its length, for a word is taken off as a whole. -/
theorem exists_hasWords (cs : List Char) : ∃ ws, HasWords cs ws := by
  induction hn : cs.length using Nat.strongRecOn generalizing cs with
  | ind n ih =>
    cases cs with
    | nil => exact ⟨[], .nil⟩
    | cons c cs =>
      rw [List.length_cons] at hn
      cases hc : isBlank c with
      | true =>
        obtain ⟨ws, hws⟩ := ih cs.length (by omega) cs rfl
        exact ⟨ws, .blank hc hws⟩
      | false =>
        obtain ⟨w, rest, hcat, hlength, hw, hend⟩ := exists_word hc cs
        obtain ⟨ws, hws⟩ := ih rest.length (by omega) rest rfl
        rw [hcat]
        exact ⟨_, .word (List.cons_ne_nil c w) hw hend hws⟩

/-- A text has exactly the words that the function finds. -/
theorem hasWords_iff : HasWords cs ws ↔ ws = words cs := by
  constructor
  · exact fun h => h.words_eq.symm
  · rintro rfl
    obtain ⟨vs, hvs⟩ := exists_hasWords cs
    rwa [hvs.words_eq]

/-! ## The text with single spaces -/

/-- A word is not empty and holds no blank. -/
theorem word_of_mem_words {w : List Char} (h : w ∈ words cs) :
    w ≠ [] ∧ ∀ c ∈ w, isBlank c = false :=
  ⟨ne_nil_of_mem_words h, isBlank_of_mem_words h⟩

/-- Spacing a text anew keeps its words. -/
theorem words_collapse (cs : List Char) : words (collapse cs) = words cs :=
  words_unwords fun _ hw => word_of_mem_words hw

/-- Where a character stands that does not occur in the first part of a text. -/
theorem cases_of_append_cons_eq {b d : Char} {w rest left right : List Char} (hb : b ∉ w)
    (h : w ++ d :: rest = left ++ b :: right) :
    left = w ∧ b = d ∧ right = rest ∨ ∃ mid, left = w ++ d :: mid ∧ rest = mid ++ b :: right := by
  rcases List.append_eq_append_iff.mp h with ⟨mid, rfl, hmid⟩ | ⟨mid, rfl, hmid⟩
  · cases mid with
    | nil =>
      obtain ⟨rfl, rfl⟩ := List.cons.inj hmid
      exact Or.inl ⟨List.append_nil w, rfl, rfl⟩
    | cons c mid =>
      obtain ⟨rfl, rfl⟩ := List.cons.inj hmid
      exact Or.inr ⟨mid, rfl, rfl⟩
  · cases mid with
    | nil =>
      obtain ⟨rfl, rfl⟩ := List.cons.inj hmid
      exact Or.inl ⟨(List.append_nil left).symm, rfl, rfl⟩
    | cons c mid =>
      obtain ⟨rfl, -⟩ := List.cons.inj hmid
      exact absurd (by simp) hb

/-- Words that are put together with single spaces are single-spaced. -/
theorem singleSpaced_unwords (h : ∀ w ∈ ws, w ≠ [] ∧ ∀ c ∈ w, isBlank c = false) :
    SingleSpaced (unwords ws) := by
  induction ws with
  | nil => simp [SingleSpaced, unwords]
  | cons w ws ih =>
    obtain ⟨⟨hne, hw⟩, hrest⟩ := List.forall_mem_cons.mp h
    intro left b right heq hb
    have hnot : b ∉ w := fun hmem => by simp [hw b hmem] at hb
    cases ws with
    | nil =>
      rw [unwords, List.intercalate_singleton] at heq
      exact absurd (by simp [heq]) hnot
    | cons v ws =>
      have hcat : unwords (w :: v :: ws) = w ++ ' ' :: unwords (v :: ws) := by
        simp [unwords, List.intercalate_cons_cons]
      rw [hcat] at heq
      rcases cases_of_append_cons_eq hnot heq with ⟨rfl, rfl, rfl⟩ | ⟨mid, rfl, hmid⟩
      · -- The blank is the space between the first two words.
        obtain ⟨⟨hvne, hv⟩, -⟩ := List.forall_mem_cons.mp hrest
        obtain ⟨c, v, rfl⟩ := List.exists_cons_of_ne_nil hvne
        have hhead : (unwords ((c :: v) :: ws)).head? = some c := by
          cases ws <;> simp [unwords, List.intercalate_cons_cons]
        have hlast := List.getLast?_eq_some_getLast hne
        exact ⟨rfl, ⟨_, hlast, hw _ (List.getLast_mem hne)⟩, c, hhead, hv c List.mem_cons_self⟩
      · obtain ⟨hspace, ⟨c, hc, hcblank⟩, hright⟩ := ih hrest mid b right hmid hb
        have hlast : (w ++ ' ' :: mid).getLast? = some c := by
          simp [List.getLast?_append, List.getLast?_cons, Option.mem_def.mp hc]
        exact ⟨hspace, ⟨c, hlast, hcblank⟩, hright⟩

/-- Two texts have the same words if spacing them anew makes them equal. -/
theorem collapse_eq_collapse_iff : collapse cs = collapse ds ↔ words cs = words ds := by
  constructor
  · intro h
    rw [← words_collapse cs, h, words_collapse]
  · intro h
    rw [collapse, h, collapse]

end Text

namespace Pattern

/-! ## Lines -/

/-- The line of the given words, with single spaces between them. -/
def lineOf (ws : List (List Char)) : String := .ofList (Text.unwords ws)

theorem words_lineOf {ws : List (List Char)}
    (h : ∀ w ∈ ws, w ≠ [] ∧ ∀ c ∈ w, Text.isBlank c = false) :
    Text.words (lineOf ws).toList = ws := by
  rw [lineOf, String.toList_ofList, Text.words_unwords h]

theorem toList_collapse (s : String) : (collapse s).toList = Text.collapse s.toList :=
  String.toList_ofList

theorem words_toList_collapse (s : String) :
    Text.words (collapse s).toList = Text.words s.toList := by
  rw [toList_collapse, Text.words_collapse]

theorem collapse_collapse (s : String) : collapse (collapse s) = collapse s := by
  rw [collapse, Text.collapse, words_toList_collapse]
  rfl

/-- A line with words is read from them, and an error shows it with single spaces. -/
theorem parse_of_words {s : String} (h : Text.words s.toList ≠ []) :
    parse s = (ofWords (Text.words s.toList)).mapError fun fault => ⟨collapse s, fault⟩ := by
  unfold parse
  split
  · rename_i hnil
    exact absurd hnil h
  · rfl

/-- A line without words is refused. -/
theorem parse_of_no_words {s : String} (h : Text.words s.toList = []) :
    parse s = .error ⟨s, .malformed .empty⟩ := by
  rw [parse, h]

/-- Spacing does not matter to patterns. Every line has exactly one sequence of words. The collapsed
line has the same words, single spaces between them and no other blanks; collapsing it again changes
nothing, and two lines collapse to the same exactly if they have the same words. A line with words
is read as its collapsed form is, whether that succeeds or fails, and an error shows the collapsed
form. A line without words is refused, for the same reason as its collapsed form. -/
theorem spacing_immaterial (s : String) :
    ∃ ws, (∀ vs, Text.HasWords s.toList vs ↔ vs = ws) ∧
      Text.HasWords (collapse s).toList ws ∧ Text.SingleSpaced (collapse s).toList ∧
      collapse (collapse s) = collapse s ∧
      (∀ t, collapse t = collapse s ↔ Text.HasWords t.toList ws) ∧
      (ws ≠ [] → parse (collapse s) = parse s ∧ ∀ e, parse s = .error e → e.line = collapse s) ∧
      (ws = [] → parse s = .error ⟨s, .malformed .empty⟩ ∧
        parse (collapse s) = .error ⟨collapse s, .malformed .empty⟩) := by
  refine ⟨Text.words s.toList, fun vs => Text.hasWords_iff, ?_, ?_, collapse_collapse s, ?_, ?_, ?_⟩
  · rw [Text.hasWords_iff, words_toList_collapse]
  · rw [toList_collapse]
    exact Text.singleSpaced_unwords fun _ hw => Text.word_of_mem_words hw
  · intro t
    rw [Text.hasWords_iff, collapse, collapse, String.ofList_inj, Text.collapse_eq_collapse_iff,
      eq_comm]
  · intro hne
    have hcollapse : Text.words (collapse s).toList ≠ [] := by rwa [words_toList_collapse]
    rw [parse_of_words hne, parse_of_words hcollapse, words_toList_collapse, collapse_collapse]
    refine ⟨rfl, fun e he => ?_⟩
    obtain ⟨fault, -, rfl⟩ := mapError_eq_error_iff.mp he
    rfl
  · intro hnil
    have hcollapse : Text.words (collapse s).toList = [] := by rw [words_toList_collapse, hnil]
    exact ⟨parse_of_no_words hnil, parse_of_no_words hcollapse⟩

/-- A line with tabs and wide spaces is found wrong as its collapsed form is. -/
theorem spacing_immaterial_of_tabs :
    collapse "\t/a \u2003 x:float\n" = "/a x:float" ∧
      parse "\t/a \u2003 x:float\n" = .error ⟨"/a x:float", .unknownType "x" "float"⟩ ∧
      parse "/a x:float" = .error ⟨"/a x:float", .unknownType "x" "float"⟩ := by
  have hcollapse : collapse "\t/a \u2003 x:float\n" = "/a x:float" := by decide
  have hparse : parse "/a x:float" = .error ⟨"/a x:float", .unknownType "x" "float"⟩ := rfl
  obtain ⟨ws, hws, -, -, -, -, hwords, -⟩ := spacing_immaterial "\t/a \u2003 x:float\n"
  have hne : ws ≠ [] := by
    rw [← (hws _).mp (Text.hasWords_iff.mpr rfl)]
    decide
  rw [hcollapse] at hwords
  exact ⟨hcollapse, (hwords hne).1.symm.trans hparse, hparse⟩

end Pattern

end CommandRouter
