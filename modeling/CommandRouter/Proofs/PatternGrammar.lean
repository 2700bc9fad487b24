import CommandRouter.Pattern.Reader
import CommandRouter.Proofs.Decimals
import CommandRouter.Proofs.Steps
import CommandRouter.Proofs.Words
import Mathlib.Data.List.Forall2
import Mathlib.Data.List.Induction

/-!
# The grammar of patterns

Two descriptions of patterns that do not mention the reader. A pattern is *well-formed* if its names
are names, its options have value types and its choices are such that no delimiter is ambiguous. A
list of words *spells* a pattern if it is put together as the grammar says:

    /name segment... label:type<choice,name=value,...>...

A pattern has many spellings, for a choice whose value is its name may leave the value out, and an
integer may be written with a plus sign or with leading zeros.

The reader takes words to a pattern exactly if the words spell it and it is well-formed. This is
proved from the inside out: names, choices, lists of choices, options and lines, each by one lemma
that says when a reading succeeds and with which result.
-/

namespace CommandRouter

/-! ## Well-formed patterns -/

/-- The text matches `[A-Za-z0-9_-]{1,32}`. -/
def Pattern.IsName (s : String) : Prop :=
  1 ≤ s.length ∧ s.length ≤ 32 ∧ ∀ c ∈ s.toList,
    'A' ≤ c ∧ c ≤ 'Z' ∨ 'a' ≤ c ∧ c ≤ 'z' ∨ '0' ≤ c ∧ c ≤ '9' ∨ c = '_' ∨ c = '-'

/-- The value suits an option of the given type, which is that of the value. -/
def ChoiceValue.Suits (kind : OptionType) : ChoiceValue → Prop
  | .integer _ => kind = .integer
  | .text s => kind = .string ∧ s ≠ "" ∧ ∀ c ∈ s.toList, Text.isBlank c = false ∧ c ≠ ','

/-- A choice that an option of the given type may have. -/
structure Choice.WellFormed (kind : OptionType) (c : Choice) : Prop where
  nonempty : 1 ≤ c.name.length
  short : c.name.length ≤ Pattern.maxChoiceName
  chars : ∀ ch ∈ c.name.toList, Text.isBlank ch = false ∧ ch ≠ ',' ∧ ch ≠ '='
  value : c.value.Suits kind

/-- An option that a pattern may have. -/
structure OptionSpec.WellFormed (o : OptionSpec) : Prop where
  name : Pattern.IsName o.name
  kind : o.kind.isNesting = false
  choices : ∀ c ∈ o.choices, c.WellFormed o.kind
  distinct : (o.choices.map (·.name)).Nodup

/-- A pattern that has a spelling. -/
structure Pattern.WellFormed (p : Pattern) : Prop where
  name : IsName p.name
  depth : p.path.length ≤ maxDepth
  path : ∀ s ∈ p.path, IsName s
  options : ∀ o ∈ p.options, o.WellFormed
  distinct : (p.options.map (·.name)).Nodup

/-! The conditions are finite checks, so whether a given pattern is well-formed can be computed. -/

instance (s : String) : Decidable (Pattern.IsName s) := inferInstanceAs (Decidable (_ ∧ _ ∧ _))

instance (kind : OptionType) : (v : ChoiceValue) → Decidable (v.Suits kind)
  | .integer _ => inferInstanceAs (Decidable (_ = _))
  | .text _ => inferInstanceAs (Decidable (_ ∧ _ ∧ _))

instance (kind : OptionType) (c : Choice) : Decidable (c.WellFormed kind) :=
  decidable_of_iff (_ ∧ _ ∧ _ ∧ _)
    ⟨fun ⟨h₁, h₂, h₃, h₄⟩ => ⟨h₁, h₂, h₃, h₄⟩, fun h => ⟨h.nonempty, h.short, h.chars, h.value⟩⟩

instance (o : OptionSpec) : Decidable o.WellFormed :=
  decidable_of_iff (_ ∧ _ ∧ _ ∧ _)
    ⟨fun ⟨h₁, h₂, h₃, h₄⟩ => ⟨h₁, h₂, h₃, h₄⟩, fun h => ⟨h.name, h.kind, h.choices, h.distinct⟩⟩

instance (p : Pattern) : Decidable p.WellFormed :=
  decidable_of_iff (_ ∧ _ ∧ _ ∧ _ ∧ _)
    ⟨fun ⟨h₁, h₂, h₃, h₄, h₅⟩ => ⟨h₁, h₂, h₃, h₄, h₅⟩,
      fun h => ⟨h.name, h.depth, h.path, h.options, h.distinct⟩⟩

/-! ## Spellings -/

/-- The text spells the value of a choice of an option of the given type. -/
def ChoiceValue.Spelled (kind : OptionType) (cs : List Char) : ChoiceValue → Prop
  | .integer n => kind = .integer ∧ Decimal.signed? cs = some n.toInt
  | .text s => kind = .string ∧ cs = s.toList

/-- The name and the value that a choice is made of; without `=` the text is both. -/
inductive Choice.Parts : List Char → List Char → List Char → Prop where
  | pair {name value : List Char} (h : '=' ∉ name) : Parts (name ++ '=' :: value) name value
  | bare {name : List Char} (h : '=' ∉ name) : Parts name name name

/-- The text spells a choice of an option of the given type. -/
def Choice.Spelled (kind : OptionType) (entry : List Char) (c : Choice) : Prop :=
  ∃ value, Parts entry c.name.toList value ∧ c.value.Spelled kind value

/-- The text spells the choices of an option of the given type. -/
inductive OptionSpec.ChoicesSpelled (kind : OptionType) : List Char → List Choice → Prop where
  | free : ChoicesSpelled kind [] []
  | list {entries : List (List Char)} {cs : List Choice} (hne : entries ≠ [])
      (hcomma : ∀ entry ∈ entries, ',' ∉ entry)
      (h : List.Forall₂ (Choice.Spelled kind) entries cs) :
      ChoicesSpelled kind ('<' :: ([','].intercalate entries ++ ['>'])) cs

/-- The name of an option in a line, with its mark if it may be left out. -/
def OptionSpec.label (o : OptionSpec) : List Char :=
  o.name.toList ++ if o.required then [] else ['?']

/-- The word spells an option. -/
def OptionSpec.Spelled (word : List Char) (o : OptionSpec) : Prop :=
  ∃ tail, word = o.label ++ ':' :: (o.kind.name.toList ++ tail) ∧
    ChoicesSpelled o.kind tail o.choices

/-- The words spell a pattern. -/
def Pattern.Spelled (words : List (List Char)) (p : Pattern) : Prop :=
  ∃ optionWords,
    words = ('/' :: p.name.toList) :: (p.path.map String.toList ++ optionWords) ∧
      List.Forall₂ OptionSpec.Spelled optionWords p.options

theorem Choice.WellFormed.ne_nil {kind : OptionType} {c : Choice} (h : c.WellFormed kind) :
    c.name.toList ≠ [] := by
  have hlen := h.nonempty
  rw [← String.length_toList] at hlen
  exact List.length_pos_iff.mp hlen

namespace Pattern

/-! ## Names -/

/-- The characters of names by their ranges. -/
theorem isNameChar_iff {c : Char} : isNameChar c = true ↔
    'A' ≤ c ∧ c ≤ 'Z' ∨ 'a' ≤ c ∧ c ≤ 'z' ∨ '0' ≤ c ∧ c ≤ '9' ∨ c = '_' ∨ c = '-' := by
  have hupper : c.isUpper = decide ('A' ≤ c ∧ c ≤ 'Z') := rfl
  have hlower : c.isLower = (decide ('a' ≤ c) && decide (c ≤ 'z')) := rfl
  have hdigit : c.isDigit = (decide ('0' ≤ c) && decide (c ≤ '9')) := rfl
  have halpha : c.isAlpha = (c.isUpper || c.isLower) := rfl
  have halphanum : c.isAlphanum = (c.isAlpha || c.isDigit) := rfl
  rw [isNameChar, halphanum, halpha, hupper, hlower, hdigit]
  simp only [Bool.or_eq_true, Bool.and_eq_true, decide_eq_true_eq, beq_iff_eq, or_assoc]

theorem isName_toList {s : String} : isName s.toList = true ↔ IsName s := by
  simp only [isName, Bool.and_eq_true, decide_eq_true_eq, List.all_eq_true, isNameChar_iff,
    String.length_toList, IsName, and_assoc]

theorem readName_eq_ok_iff {cs : List Char} {s : String} :
    readName cs = .ok s ↔ cs = s.toList ∧ IsName s := by
  unfold readName
  constructor
  · intro h
    split at h
    · rename_i hname
      obtain rfl := Except.ok.inj h
      exact ⟨String.toList_ofList.symm, isName_toList.mp (by rwa [String.toList_ofList])⟩
    · cases h
  · rintro ⟨rfl, hname⟩
    rw [if_pos (isName_toList.mpr hname), String.ofList_toList]

/-- The code points of the characters of a name. -/
theorem IsName.toNat {s : String} (h : IsName s) {c : Char} (hc : c ∈ s.toList) :
    65 ≤ c.toNat ∧ c.toNat ≤ 90 ∨ 97 ≤ c.toNat ∧ c.toNat ≤ 122 ∨ 48 ≤ c.toNat ∧ c.toNat ≤ 57 ∨
      c.toNat = 95 ∨ c.toNat = 45 := by
  obtain ⟨-, -, hchars⟩ := h
  rcases hchars c hc with ⟨hlo, hhi⟩ | ⟨hlo, hhi⟩ | ⟨hlo, hhi⟩ | rfl | rfl
  · exact Or.inl ⟨hlo, hhi⟩
  · exact Or.inr (Or.inl ⟨hlo, hhi⟩)
  · exact Or.inr (Or.inr (Or.inl ⟨hlo, hhi⟩))
  · exact Or.inr (Or.inr (Or.inr (Or.inl rfl)))
  · exact Or.inr (Or.inr (Or.inr (Or.inr rfl)))

/-- A name holds no blanks. -/
theorem IsName.not_blank {s : String} (h : IsName s) : ∀ c ∈ s.toList, Text.isBlank c = false := by
  intro c hc
  have hn := h.toNat hc
  exact Text.isBlank_of_ascii (by omega) (by omega)

/-- A name holds no character whose code point no name has. -/
theorem IsName.not_mem {s : String} (h : IsName s) {d : Char}
    (hd : d.toNat < 45 ∨ 45 < d.toNat ∧ d.toNat < 48 ∨ 57 < d.toNat ∧ d.toNat < 65) :
    d ∉ s.toList := by
  intro hmem
  have hn := h.toNat hmem
  omega

theorem IsName.ne_nil {s : String} (h : IsName s) : s.toList ≠ [] := by
  intro hnil
  have hlen := h.1
  rw [← String.length_toList, hnil] at hlen
  simp at hlen

/-! ## Choices -/

/-- The first `=` tells the parts of a choice. -/
theorem parts_iff {entry name value : List Char} :
    Choice.Parts entry name value ↔ (Text.cutAt '=' entry).getD (entry, entry) = (name, value) := by
  constructor
  · rintro (h | h)
    · rw [Text.cutAt_eq_some_iff.mpr ⟨rfl, h⟩]
      rfl
    · rw [Text.cutAt_eq_none_iff.mpr h]
      rfl
  · intro h
    cases hcut : Text.cutAt '=' entry with
    | none =>
      rw [hcut] at h
      obtain ⟨rfl, rfl⟩ := Prod.mk.inj h
      exact .bare (Text.cutAt_eq_none_iff.mp hcut)
    | some parts =>
      obtain ⟨left, right⟩ := parts
      rw [hcut] at h
      obtain ⟨rfl, rfl⟩ := Prod.mk.inj h
      obtain ⟨rfl, hname⟩ := Text.cutAt_eq_some_iff.mp hcut
      exact .pair hname

/-- The parts of a choice are made of its characters, and the name holds no `=`. -/
theorem mem_of_parts {entry name value : List Char} (h : Choice.Parts entry name value) {c : Char} :
    (c ∈ name → c ∈ entry ∧ c ≠ '=') ∧ (c ∈ value → c ∈ entry) := by
  cases h with
  | pair h => exact ⟨fun hc => ⟨by simp [hc], by rintro rfl; exact h hc⟩, fun hc => by simp [hc]⟩
  | bare h => exact ⟨fun hc => ⟨hc, by rintro rfl; exact h hc⟩, id⟩

/-- Only options of types that take choices have values that suit them. -/
theorem takesChoices_of_suits {kind : OptionType} {v : ChoiceValue} (h : v.Suits kind) :
    kind.takesChoices = true := by
  cases v with
  | integer n => rw [show kind = .integer from h]; rfl
  | text s => rw [h.1]; rfl

/-- The value of a choice is read as its text spells it. -/
theorem readChoiceValue_eq_ok_iff {option : String} {kind : OptionType} {entry value : List Char}
    {v : ChoiceValue} (hkind : kind.takesChoices = true) :
    readChoiceValue option kind entry value = .ok v ↔ v.Spelled kind value := by
  unfold readChoiceValue
  by_cases hinteger : kind = .integer
  · subst hinteger
    cases hread : Decimal.signed? value with
    | none => cases v <;> simp [ChoiceValue.Spelled, hread]
    | some n =>
      have hn := Decimal.toInt_ofInt (Decimal.fitsSigned_of_signed? hread)
      cases v with
      | integer m =>
        simp only [↓reduceIte, ChoiceValue.Spelled, hread, Except.ok.injEq,
          ChoiceValue.integer.injEq, Option.some.injEq, true_and]
        constructor
        · rintro rfl; exact hn.symm
        · rintro rfl; exact Int64.ofInt_toInt m
      | text s => simp [ChoiceValue.Spelled]
  · have hstring : kind = .string := by
      cases kind <;> first | rfl | exact absurd rfl hinteger | cases hkind
    subst hstring
    cases v with
    | integer n => simp [ChoiceValue.Spelled]
    | text s => simp [ChoiceValue.Spelled, ← String.toList_inj, eq_comm]

/-- A spelled value suits its option if its text does. -/
theorem suits_of_spelled {kind : OptionType} {value : List Char} {v : ChoiceValue}
    (h : v.Spelled kind value) (hne : value ≠ [])
    (hchars : ∀ c ∈ value, Text.isBlank c = false ∧ c ≠ ',') : v.Suits kind := by
  cases v with
  | integer n => exact h.1
  | text s =>
    obtain ⟨hkind, rfl⟩ := h
    exact ⟨hkind, fun hs => hne (by simp [hs]), hchars⟩

/-- The text of a value that suits its option is not empty. -/
theorem ne_nil_of_suits {kind : OptionType} {value : List Char} {v : ChoiceValue}
    (h : v.Spelled kind value) (hv : v.Suits kind) : value ≠ [] := by
  rintro rfl
  cases v with
  | integer n =>
    have hnone : Decimal.signed? [] = none := by decide
    rw [ChoiceValue.Spelled, hnone] at h
    cases h.2
  | text s => exact hv.2.1 (String.toList_inj.mp (by rw [← h.2]; rfl))

/-- A choice is read if its text spells a well-formed one with a name that is new. -/
theorem readChoice_eq_ok_iff {option : String} {kind : OptionType} {before : List Choice}
    {entry : List Char} {c : Choice} (hkind : kind.takesChoices = true)
    (hentry : ∀ ch ∈ entry, Text.isBlank ch = false ∧ ch ≠ ',') :
    readChoice option kind before entry = .ok c ↔
      c.Spelled kind entry ∧ c.WellFormed kind ∧ c.name ∉ before.map (·.name) := by
  unfold readChoice
  obtain ⟨⟨name, value⟩, hparts⟩ : ∃ parts, (Text.cutAt '=' entry).getD (entry, entry) = parts :=
    ⟨_, rfl⟩
  rw [hparts]
  rw [← parts_iff] at hparts
  simp only [check_eq_ok_iff, bind_eq_ok_iff, readChoiceValue_eq_ok_iff hkind, pure_eq_ok_iff,
    Bool.or_eq_true, List.isEmpty_iff, decide_eq_true_eq, List.any_eq_true, beq_iff_eq, not_or]
  constructor
  · rintro ⟨⟨⟨hname, hlen⟩, hvalue⟩, hnew, v, hv, rfl⟩
    refine ⟨⟨value, by simpa using hparts, hv⟩, ⟨?_, ?_, ?_, ?_⟩, ?_⟩
    · show 1 ≤ (String.ofList name).length
      rw [String.length_ofList]
      exact List.length_pos_iff.mpr hname
    · show (String.ofList name).length ≤ maxChoiceName
      rw [String.length_ofList]
      omega
    · intro ch hch
      obtain ⟨hmem, heq⟩ := (mem_of_parts hparts).1 (by simpa using hch)
      exact ⟨(hentry ch hmem).1, (hentry ch hmem).2, heq⟩
    · exact suits_of_spelled hv hvalue fun ch hch => hentry ch ((mem_of_parts hparts).2 hch)
    · intro hmem
      obtain ⟨c, hc, hcname⟩ := List.mem_map.mp hmem
      exact hnew ⟨c, hc, hcname⟩
  · rintro ⟨⟨value', hparts', hv⟩, hc, hnew⟩
    -- The text has only one pair of parts.
    obtain ⟨rfl, rfl⟩ : name = c.name.toList ∧ value = value' := by
      rw [parts_iff] at hparts hparts'
      exact Prod.mk.inj (hparts.symm.trans hparts')
    have hlen := hc.nonempty
    have hshort := hc.short
    rw [← String.length_toList] at hlen hshort
    refine ⟨⟨⟨List.length_pos_iff.mp hlen, by omega⟩, ne_nil_of_suits hv hc.value⟩, ?_, ?_⟩
    · rintro ⟨b, hb, hbname⟩
      exact hnew (List.mem_map.mpr ⟨b, hb, by simpa using hbname⟩)
    · exact ⟨c.value, hv, by simp⟩

/-! ## Lists of choices -/

/-- Choices are read one after another, each with a name that is new. -/
theorem foldlM_addChoice_eq_ok_iff {option : String} {kind : OptionType}
    {entries : List (List Char)} {before cs : List Choice} (hkind : kind.takesChoices = true)
    (hentries : ∀ entry ∈ entries, ∀ ch ∈ entry, Text.isBlank ch = false ∧ ch ≠ ',')
    (hbefore : (before.map (·.name)).Nodup) :
    entries.foldlM (addChoice option kind) before = .ok cs ↔
      ∃ new, cs = before ++ new ∧ List.Forall₂ (Choice.Spelled kind) entries new ∧
        (∀ c ∈ new, c.WellFormed kind) ∧ (cs.map (·.name)).Nodup := by
  induction entries generalizing before with
  | nil =>
    simp only [List.foldlM_nil, pure_eq_ok_iff]
    constructor
    · rintro rfl
      exact ⟨[], by simp, .nil, by simp, hbefore⟩
    · rintro ⟨new, rfl, hnew, -, -⟩
      cases hnew
      simp
  | cons entry entries ih =>
    have hentry := hentries entry List.mem_cons_self
    have hrest := fun e he => hentries e (List.mem_cons_of_mem entry he)
    simp only [List.foldlM_cons, addChoice, bind_eq_ok_iff, pure_eq_ok_iff,
      readChoice_eq_ok_iff hkind hentry]
    have hadd : ∀ c : Choice, c.name ∉ before.map (·.name) →
        ((before ++ [c]).map (·.name)).Nodup := by
      intro c hc
      rw [List.map_append, List.nodup_append]
      refine ⟨hbefore, by simp, ?_⟩
      intro a ha b hb hab
      have hbc : b = c.name := by simpa using hb
      exact hc (by rw [← hbc, ← hab]; exact ha)
    constructor
    · rintro ⟨_, ⟨c, ⟨hspelled, hwf, hnew⟩, rfl⟩, hread⟩
      obtain ⟨new, rfl, hall, hwfs, hnodup⟩ := (ih hrest (hadd c hnew)).mp hread
      refine ⟨c :: new, by simp, .cons hspelled hall, ?_, hnodup⟩
      exact List.forall_mem_cons.mpr ⟨hwf, hwfs⟩
    · rintro ⟨new, rfl, hall, hwfs, hnodup⟩
      cases hall with
      | @cons _ c _ new hspelled hall =>
        obtain ⟨hwf, hwfs⟩ := List.forall_mem_cons.mp hwfs
        have hnew : c.name ∉ before.map (·.name) := by
          intro hmem
          rw [List.map_append, List.nodup_append] at hnodup
          exact hnodup.2.2 c.name hmem c.name (by simp) rfl
        refine ⟨_, ⟨c, ⟨hspelled, hwf, hnew⟩, rfl⟩, ?_⟩
        exact (ih hrest (hadd c hnew)).mpr ⟨new, by simp, hall, hwfs, by simpa using hnodup⟩

/-- A list of choices in angle brackets is spelled by the pieces between its commas. -/
theorem choicesSpelled_list_iff {kind : OptionType} {body : List Char} {cs : List Choice} :
    OptionSpec.ChoicesSpelled kind ('<' :: (body ++ ['>'])) cs ↔
      List.Forall₂ (Choice.Spelled kind) (body.splitOn ',') cs := by
  constructor
  · intro h
    generalize htail : '<' :: (body ++ ['>']) = tail at h
    cases h with
    | free => cases htail
    | @list entries _ hne hcomma h =>
      have hbody : body = [','].intercalate entries :=
        List.append_cancel_right (List.cons.inj htail).2
      rwa [hbody, List.splitOn_intercalate ',' hcomma hne]
  · intro h
    have hbody : [','].intercalate (body.splitOn ',') = body := List.intercalate_splitOn ','
    have hlist := OptionSpec.ChoicesSpelled.list (List.splitOn_ne_nil ',' body)
      (fun entry hentry => Text.not_mem_of_mem_splitOn hentry) h
    rwa [hbody] at hlist

/-- The choices between angle brackets are read if the brackets spell well-formed ones with
different names. -/
theorem readChoices_eq_ok_iff {option : String} {kind : OptionType} {body : List Char}
    {cs : List Choice} (hbody : ∀ ch ∈ body, Text.isBlank ch = false) :
    readChoices option kind body = .ok cs ↔
      OptionSpec.ChoicesSpelled kind ('<' :: (body ++ ['>'])) cs ∧
        (∀ c ∈ cs, c.WellFormed kind) ∧ (cs.map (·.name)).Nodup := by
  have hentries : ∀ entry ∈ body.splitOn ',', ∀ ch ∈ entry,
      Text.isBlank ch = false ∧ ch ≠ ',' := by
    intro entry hentry ch hch
    refine ⟨hbody ch (Text.mem_of_mem_splitOn hentry hch), ?_⟩
    rintro rfl
    exact Text.not_mem_of_mem_splitOn hentry hch
  unfold readChoices
  simp only [check_eq_ok_iff, Bool.not_eq_true', Bool.not_eq_false, List.isEmpty_iff,
    choicesSpelled_list_iff]
  constructor
  · rintro ⟨hkind, -, hread⟩
    obtain ⟨new, rfl, hall, hwfs, hnodup⟩ :=
      (foldlM_addChoice_eq_ok_iff hkind hentries (by simp)).mp hread
    exact ⟨hall, hwfs, hnodup⟩
  · rintro ⟨hall, hwfs, hnodup⟩
    -- There is a first choice, which shows that the type takes choices and that it has a text.
    obtain ⟨entry, entries, hsplit⟩ :=
      List.exists_cons_of_ne_nil (List.splitOn_ne_nil ',' body)
    obtain ⟨c, rest, ⟨value, hparts, hvalue⟩, -, rfl⟩ :
        ∃ c rest, c.Spelled kind entry ∧ List.Forall₂ (Choice.Spelled kind) entries rest ∧
          cs = c :: rest := by
      rw [hsplit] at hall
      cases hall with
      | cons hc hrest => exact ⟨_, _, hc, hrest, rfl⟩
    have hc := hwfs c List.mem_cons_self
    have hkind : kind.takesChoices = true := takesChoices_of_suits hc.value
    refine ⟨hkind, ?_, (foldlM_addChoice_eq_ok_iff hkind hentries (by simp)).mpr
      ⟨c :: rest, rfl, hall, hwfs, hnodup⟩⟩
    rintro rfl
    have hempty : entry = [] := by simpa using (congrArg List.head? hsplit).symm
    obtain ⟨ch, hch⟩ := List.exists_mem_of_ne_nil _ hc.ne_nil
    have hmem := ((mem_of_parts hparts).1 hch).1
    simp [hempty] at hmem

/-! ## Options -/

theorem ofName?_eq_some_iff {s : String} {kind : OptionType} :
    OptionType.ofName? s = some kind ↔ kind.name = s ∧ kind.isNesting = false := by
  constructor
  · intro h
    have hname := List.find?_some h
    have hmem := List.mem_of_find?_eq_some h
    exact ⟨by simpa using hname, OptionType.mem_valueTypes.mp hmem⟩
  · rintro ⟨rfl, hkind⟩
    cases kind <;> first | decide | exact absurd hkind (by decide)

/-- The name of a type holds neither blanks nor brackets. -/
theorem typeName_char (kind : OptionType) :
    ∀ c ∈ kind.name.toList, Text.isBlank c = false ∧ c ≠ '<' := by
  cases kind <;> decide

/-- The text after the colon is a type without brackets, perhaps with a list of choices. -/
theorem cutChoices_eq_ok_iff {option : String} {spec type : List Char} {body : Option (List Char)} :
    cutChoices option spec = .ok (type, body) ↔
      '<' ∉ type ∧ spec = type ++ body.elim [] fun b => '<' :: (b ++ ['>']) := by
  unfold cutChoices
  constructor
  · intro h
    cases hcut : Text.cutAt '<' spec with
    | none =>
      rw [hcut] at h
      obtain ⟨rfl, rfl⟩ := Prod.mk.inj (Except.ok.inj h)
      exact ⟨Text.cutAt_eq_none_iff.mp hcut, by simp⟩
    | some parts =>
      obtain ⟨left, rest⟩ := parts
      obtain ⟨rfl, hleft⟩ := Text.cutAt_eq_some_iff.mp hcut
      cases hdrop : Text.dropLast? '>' rest with
      | none => simp [hcut, hdrop] at h
      | some b =>
        simp only [hcut, hdrop] at h
        obtain ⟨rfl, rfl⟩ := Prod.mk.inj (Except.ok.inj h)
        exact ⟨hleft, by simp [Text.dropLast?_eq_some_iff.mp hdrop]⟩
  · rintro ⟨htype, rfl⟩
    cases body with
    | none => simp [Text.cutAt_eq_none_iff.mpr htype]
    | some b =>
      simp only [Option.elim_some, Text.cutAt_eq_some_iff.mpr ⟨rfl, htype⟩,
        Text.dropLast?_eq_some_iff.mpr rfl]

/-- The mark at the end of a label says whether the option may be left out. -/
theorem dropLast?_label {o : OptionSpec} (h : IsName o.name) :
    Text.dropLast? '?' o.label = if o.required then none else some o.name.toList := by
  unfold OptionSpec.label
  split
  · rw [List.append_nil, Text.dropLast?_eq_none (h.not_mem (by decide))]
  · exact Text.dropLast?_eq_some_iff.mpr rfl

/-- A label is a name with a mark exactly if its last character is the mark. -/
theorem label_of_dropLast? {label name : List Char}
    (h : (Text.dropLast? '?' label).getD label = name) :
    label = name ++ if (Text.dropLast? '?' label).isNone then [] else ['?'] := by
  cases hdrop : Text.dropLast? '?' label with
  | none => simpa [hdrop] using h
  | some rest =>
    rw [hdrop] at h
    obtain rfl : rest = name := h
    simpa using Text.dropLast?_eq_some_iff.mp hdrop

/-- Behind the label of an option and its type, the list of choices decides. -/
theorem readOption_label {o : OptionSpec} (body : Option (List Char)) (hname : IsName o.name)
    (hkind : o.kind.isNesting = false) :
    readOption o.label (o.kind.name.toList ++ body.elim [] fun b => '<' :: (b ++ ['>'])) =
      (body.elim (.ok []) (readChoices o.name o.kind)).map fun cs => { o with choices := cs } := by
  have hlabel := dropLast?_label hname
  have hread : readName ((Text.dropLast? '?' o.label).getD o.label) = .ok o.name := by
    refine readName_eq_ok_iff.mpr ⟨?_, hname⟩
    rw [hlabel]
    unfold OptionSpec.label
    cases o.required <;> simp
  have hrequired : (Text.dropLast? '?' o.label).isNone = o.required := by
    rw [hlabel]
    cases o.required <;> rfl
  have htype : '<' ∉ o.kind.name.toList := fun h => (typeName_char o.kind '<' h).2 rfl
  have hcut : cutChoices o.name (o.kind.name.toList ++ body.elim [] fun b => '<' :: (b ++ ['>'])) =
      .ok (o.kind.name.toList, body) := cutChoices_eq_ok_iff.mpr ⟨htype, rfl⟩
  have hofName : OptionType.ofName? (String.ofList o.kind.name.toList) = some o.kind := by
    rw [String.ofList_toList]
    exact ofName?_eq_some_iff.mpr ⟨rfl, hkind⟩
  unfold readOption
  simp only [hread, hcut, hofName, hrequired, bind, Except.bind]
  cases body with
  | none => rfl
  | some b => cases hchoices : readChoices o.name o.kind b <;> simp [hchoices] <;> rfl

/-- An option is read if the texts around its first colon spell a well-formed one. -/
theorem readOption_eq_ok_iff {label spec : List Char} {o : OptionSpec}
    (hspec : ∀ ch ∈ spec, Text.isBlank ch = false) :
    readOption label spec = .ok o ↔
      label = o.label ∧ o.WellFormed ∧
        ∃ tail, spec = o.kind.name.toList ++ tail ∧
          OptionSpec.ChoicesSpelled o.kind tail o.choices := by
  constructor
  · intro h
    unfold readOption at h
    simp only [bind_eq_ok_iff, readName_eq_ok_iff, Prod.exists, cutChoices_eq_ok_iff] at h
    obtain ⟨name, ⟨hlabel, hname⟩, type, body, ⟨htype, rfl⟩, hread⟩ := h
    cases hkind : OptionType.ofName? (String.ofList type) with
    | none => simp [hkind, throw, throwThe, MonadExceptOf.throw] at hread
    | some kind =>
      obtain ⟨hkindName, hvalue⟩ := ofName?_eq_some_iff.mp hkind
      have htypeName : type = kind.name.toList := by rw [hkindName, String.toList_ofList]
      have hlabel := label_of_dropLast? hlabel
      cases body with
      | none =>
        simp only [hkind, pure_bind, pure_eq_ok_iff] at hread
        subst hread
        exact ⟨hlabel, ⟨hname, hvalue, by simp, by simp⟩, [], by simp [htypeName], .free⟩
      | some b =>
        have hb : ∀ ch ∈ b, Text.isBlank ch = false := fun ch hch => hspec ch (by simp [hch])
        simp only [hkind, bind_eq_ok_iff, pure_eq_ok_iff] at hread
        obtain ⟨choices, hchoices, rfl⟩ := hread
        obtain ⟨hspelled, hwfs, hnodup⟩ := (readChoices_eq_ok_iff hb).mp hchoices
        exact ⟨hlabel, ⟨hname, hvalue, hwfs, hnodup⟩, _, by simp [htypeName], hspelled⟩
  · rintro ⟨rfl, hwf, tail, rfl, hspelled⟩
    obtain ⟨name, kind, required, choices⟩ := o
    cases hspelled with
    | free => exact readOption_label none hwf.name hwf.kind
    | @list entries _ hne hcomma h =>
      have hbody : ∀ ch ∈ [','].intercalate entries, Text.isBlank ch = false :=
        fun ch hch => hspec ch (by simp [hch])
      have hread : readChoices name kind ([','].intercalate entries) = .ok choices :=
        (readChoices_eq_ok_iff hbody).mpr ⟨.list hne hcomma h, hwf.choices, hwf.distinct⟩
      exact (readOption_label (some _) hwf.name hwf.kind).trans
        (map_eq_ok_iff.mpr ⟨choices, hread, rfl⟩)

/-! ## Lines -/

/-- The first word is a slash and a name. -/
theorem start_eq_ok_iff {word : List Char} {p : Pattern} :
    start word = .ok p ↔ ∃ name : String, word = '/' :: name.toList ∧ IsName name ∧
      p = { name } := by
  unfold start
  split
  · simp only [bind_eq_ok_iff, readName_eq_ok_iff, pure_eq_ok_iff, List.cons.injEq, true_and]
    exact ⟨fun ⟨n, ⟨h, hn⟩, hp⟩ => ⟨n, h, hn, hp.symm⟩, fun ⟨n, h, hn, hp⟩ => ⟨n, ⟨h, hn⟩, hp.symm⟩⟩
  · rename_i hslash
    simp only [throw, throwThe, MonadExceptOf.throw, reduceCtorEq, false_iff]
    rintro ⟨name, rfl, -⟩
    exact hslash _ rfl

theorem colon_not_mem_label {o : OptionSpec} (h : IsName o.name) : ':' ∉ o.label := by
  have hname : ':' ∉ o.name.toList := h.not_mem (by decide)
  unfold OptionSpec.label
  cases o.required <;> simp [hname]

/-- A further word is an option with a new name, or a name that no option precedes and for which
there is room in the path. -/
theorem extend_eq_ok_iff {p q : Pattern} {word : List Char}
    (hword : ∀ ch ∈ word, Text.isBlank ch = false) :
    extend p word = .ok q ↔
      (∃ o : OptionSpec, o.Spelled word ∧ o.WellFormed ∧ o.name ∉ p.options.map (·.name) ∧
        q = { p with options := p.options ++ [o] }) ∨
      (∃ s : String, word = s.toList ∧ IsName s ∧ p.options = [] ∧ p.path.length < maxDepth ∧
        q = { p with path := p.path ++ [s] }) := by
  unfold extend
  cases hcut : Text.cutAt ':' word with
  | some parts =>
    obtain ⟨label, spec⟩ := parts
    obtain ⟨rfl, hlabel⟩ := Text.cutAt_eq_some_iff.mp hcut
    have hspec : ∀ ch ∈ spec, Text.isBlank ch = false := fun ch hch => hword ch (by simp [hch])
    simp only [bind_eq_ok_iff, readOption_eq_ok_iff hspec, check_eq_ok_iff, pure_eq_ok_iff,
      List.any_eq_true, beq_iff_eq, List.mem_map]
    constructor
    · rintro ⟨o, ⟨rfl, hwf, tail, rfl, hspelled⟩, hnew, rfl⟩
      exact Or.inl ⟨o, ⟨tail, rfl, hspelled⟩, hwf, hnew, rfl⟩
    · rintro (⟨o, ⟨tail, heq, hspelled⟩, hwf, hnew, rfl⟩ | ⟨s, hs, hname, -⟩)
      · -- The first colon stands behind the label.
        have hcut' := Text.cutAt_eq_some_iff.mpr ⟨heq, colon_not_mem_label hwf.name⟩
        obtain ⟨rfl, rfl⟩ := Prod.mk.inj (Option.some.inj (hcut.symm.trans hcut'))
        exact ⟨o, ⟨rfl, hwf, tail, rfl, hspelled⟩, hnew, rfl⟩
      · have hcolon : ':' ∈ s.toList := by simp [← hs]
        exact absurd hcolon (hname.not_mem (by decide))
  | none =>
    have hcolon := Text.cutAt_eq_none_iff.mp hcut
    simp only [check_eq_ok_iff, bind_eq_ok_iff, readName_eq_ok_iff, pure_eq_ok_iff,
      Bool.not_eq_true', Bool.not_eq_false, List.isEmpty_iff, Nat.not_le]
    constructor
    · rintro ⟨hoptions, s, ⟨rfl, hname⟩, hdepth, rfl⟩
      exact Or.inr ⟨s, rfl, hname, hoptions, hdepth, rfl⟩
    · rintro (⟨o, ⟨tail, rfl, -⟩, -⟩ | ⟨s, rfl, hname, hoptions, hdepth, rfl⟩)
      · simp at hcolon
      · exact ⟨hoptions, s, ⟨rfl, hname⟩, hdepth, rfl⟩

/-- Words that spell nothing but names lengthen the path. -/
theorem foldlM_extend_path {p : Pattern} {path : List String} (hoptions : p.options = [])
    (hpath : ∀ s ∈ path, IsName s) (hdepth : p.path.length + path.length ≤ maxDepth) :
    (path.map String.toList).foldlM extend p = .ok { p with path := p.path ++ path } := by
  induction path generalizing p with
  | nil => simp [pure, Except.pure]
  | cons s path ih =>
    obtain ⟨hs, hpath⟩ := List.forall_mem_cons.mp hpath
    rw [List.length_cons] at hdepth
    have hstep : extend p s.toList = .ok { p with path := p.path ++ [s] } :=
      (extend_eq_ok_iff hs.not_blank).mpr (Or.inr ⟨s, rfl, hs, hoptions, by omega, rfl⟩)
    simp only [List.map_cons, List.foldlM_cons, bind_eq_ok_iff]
    refine ⟨_, hstep, ?_⟩
    have hroom : (p.path ++ [s]).length + path.length ≤ maxDepth := by
      rw [List.length_append, List.length_singleton]
      omega
    rw [ih (p := { p with path := p.path ++ [s] }) hoptions hpath hroom, List.append_assoc]
    rfl

/-- Words that spell options are appended to the options. -/
theorem foldlM_extend_options {p : Pattern} {words : List (List Char)} {os : List OptionSpec}
    (hwords : ∀ w ∈ words, ∀ ch ∈ w, Text.isBlank ch = false)
    (hspelled : List.Forall₂ OptionSpec.Spelled words os) (hwf : ∀ o ∈ os, o.WellFormed)
    (hdistinct : ((p.options ++ os).map (·.name)).Nodup) :
    words.foldlM extend p = .ok { p with options := p.options ++ os } := by
  induction hspelled generalizing p with
  | nil => simp [pure, Except.pure]
  | @cons w o words os hw hspelled ih =>
    obtain ⟨ho, hwf⟩ := List.forall_mem_cons.mp hwf
    have hnew : o.name ∉ p.options.map (·.name) := by
      intro hmem
      rw [List.map_append, List.nodup_append] at hdistinct
      exact hdistinct.2.2 o.name hmem o.name (by simp) rfl
    have hstep : extend p w = .ok { p with options := p.options ++ [o] } :=
      (extend_eq_ok_iff (hwords w List.mem_cons_self)).mpr (Or.inl ⟨o, hw, ho, hnew, rfl⟩)
    simp only [List.foldlM_cons, bind_eq_ok_iff]
    refine ⟨_, hstep, ?_⟩
    have hwords := fun v hv => hwords v (List.mem_cons_of_mem w hv)
    rw [ih (p := { p with options := p.options ++ [o] }) hwords hwf (by simpa using hdistinct),
      List.append_assoc]
    rfl

/-- What the words read so far spell, they spell together with one more word. -/
theorem Spelled.extend {words : List (List Char)} {p q : Pattern} {word : List Char}
    (hword : ∀ ch ∈ word, Text.isBlank ch = false) (hp : p.Spelled words) (hwf : p.WellFormed)
    (h : Pattern.extend p word = .ok q) : q.Spelled (words ++ [word]) ∧ q.WellFormed := by
  obtain ⟨optionWords, rfl, hall⟩ := hp
  rcases (extend_eq_ok_iff hword).mp h with
    ⟨o, ho, howf, hnew, rfl⟩ | ⟨s, rfl, hs, hoptions, hdepth, rfl⟩
  · refine ⟨⟨optionWords ++ [word], by simp, ?_⟩, ?_⟩
    · exact List.rel_append hall (.cons ho .nil)
    · refine { hwf with options := ?_, distinct := ?_ }
      · intro o' ho'
        rcases List.mem_append.mp ho' with ho' | ho'
        · exact hwf.options o' ho'
        · rwa [List.mem_singleton.mp ho']
      · rw [List.map_append, List.nodup_append]
        refine ⟨hwf.distinct, by simp, ?_⟩
        rintro a ha b hb rfl
        exact hnew (by rwa [List.mem_singleton.mp hb] at ha)
  · -- No option has been read, so the word stands right behind the path.
    rw [hoptions] at hall
    cases hall
    refine ⟨⟨[], by simp, by simp [hoptions]⟩, ?_⟩
    refine { hwf with depth := ?_, path := ?_ }
    · rw [List.length_append, List.length_singleton]
      omega
    · intro s' hs'
      rcases List.mem_append.mp hs' with hs' | hs'
      · exact hwf.path s' hs'
      · rwa [List.mem_singleton.mp hs']

/-- Words are read as a pattern exactly if they spell it and it is well-formed. -/
theorem ofWords_eq_ok_iff {words : List (List Char)} {p : Pattern}
    (hwords : ∀ w ∈ words, ∀ ch ∈ w, Text.isBlank ch = false) :
    ofWords words = .ok p ↔ p.Spelled words ∧ p.WellFormed := by
  constructor
  · -- By induction on the number of words read, each of which extends the pattern.
    intro h
    cases words with
    | nil => cases h
    | cons first rest =>
      induction rest using List.reverseRecOn generalizing p with
      | nil =>
        obtain ⟨q, hstart, hp⟩ := bind_eq_ok_iff.mp h
        obtain ⟨name, rfl, hname, rfl⟩ := start_eq_ok_iff.mp hstart
        obtain rfl := pure_eq_ok_iff.mp hp
        exact ⟨⟨[], by simp, .nil⟩, ⟨hname, by simp, by simp, by simp, by simp⟩⟩
      | append_singleton rest w ih =>
        have hinit : ∀ v ∈ first :: rest, ∀ ch ∈ v, Text.isBlank ch = false :=
          fun v hv => hwords v (List.mem_append_left [w] hv)
        simp only [ofWords, bind_eq_ok_iff, List.foldlM_append, List.foldlM_cons,
          List.foldlM_nil, pure_eq_ok_iff] at h
        obtain ⟨q, hstart, r, hread, _, hextend, rfl⟩ := h
        obtain ⟨hspelled, hwf⟩ := ih hinit (bind_eq_ok_iff.mpr ⟨q, hstart, hread⟩)
        exact hspelled.extend (hwords w (by simp)) hwf hextend
  · rintro ⟨⟨optionWords, rfl, hall⟩, hwf⟩
    have hoptionWords : ∀ w ∈ optionWords, ∀ ch ∈ w, Text.isBlank ch = false :=
      fun w hw => hwords w (by simp [hw])
    have hstart : start ('/' :: p.name.toList) = .ok { name := p.name } :=
      start_eq_ok_iff.mpr ⟨p.name, rfl, hwf.name, rfl⟩
    have hpath := foldlM_extend_path (p := { name := p.name }) rfl hwf.path
      (by simpa using hwf.depth)
    have hoptions := foldlM_extend_options (p := { name := p.name, path := p.path })
      hoptionWords hall hwf.options (by simpa using hwf.distinct)
    simp only [ofWords, bind_eq_ok_iff, List.foldlM_append]
    exact ⟨_, hstart, _, hpath, hoptions⟩

end Pattern

end CommandRouter
