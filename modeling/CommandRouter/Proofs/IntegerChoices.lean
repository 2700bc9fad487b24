import CommandRouter.Pattern.Writer
import CommandRouter.Proofs.Numerals
import CommandRouter.Proofs.WordByWord

/-!
# Integer choices

The choices of an integer option are read exactly. If the entries of a list have names and no name
twice, then nothing but the value texts matters: the list is read if each of them is a numeral for
an integer of 64 bits, and each choice then has the integer that its numeral stands for. Otherwise
the first entry without such a numeral is at fault.
-/

namespace CommandRouter

open Decimal (Denotes DenotesWord)

/-- An entry of a list of choices, with the name and the value text that it is made of. -/
structure ChoiceEntry where
  text : List Char
  name : List Char
  value : List Char
  parts : Choice.Parts text name value

namespace ChoiceEntry

/-- The entries have names that choices may have, and no name twice. -/
structure WellNamed (es : List ChoiceEntry) : Prop where
  lengths : ∀ e ∈ es, 1 ≤ e.name.length ∧ e.name.length ≤ Pattern.maxChoiceName
  distinct : (es.map (·.name)).Nodup

/-- The value text is a numeral for an integer of 64 bits. -/
def IsNumeral (e : ChoiceEntry) : Prop := ∃ n, DenotesWord e.value n

/-- The choice has the name of the entry and the integer that its value text stands for. -/
def GivesInteger (e : ChoiceEntry) (c : Choice) : Prop :=
  ∃ n : Int64, Denotes e.value n.toInt ∧ c = ⟨.ofList e.name, .integer n⟩

/-- The choice has the name and the value text of the entry. -/
def asText (e : ChoiceEntry) : Choice := ⟨.ofList e.name, .text (.ofList e.value)⟩

/-- The entry is the first one that lacks a property. -/
def FirstWithout (P : ChoiceEntry → Prop) (es : List ChoiceEntry) (e : ChoiceEntry) : Prop :=
  ∃ before after, es = before ++ e :: after ∧ (∀ b ∈ before, P b) ∧ ¬ P e

/-- What is wrong with an entry that has no value, or none of the right type. -/
def fault (option : String) (e : ChoiceEntry) : Pattern.Fault :=
  if e.value = [] then .malformed (.badChoice (.ofList e.text) option)
  else .invalidChoiceValue option .integer (.ofList e.text)

/-- Reads an entry whose name is known to be good. -/
def read (option : String) (kind : OptionType) (e : ChoiceEntry) : Except Pattern.Fault Choice :=
  if e.value = [] then .error (.malformed (.badChoice (.ofList e.text) option))
  else (Pattern.readChoiceValue option kind e.text e.value).map fun v => ⟨.ofList e.name, v⟩

variable {option : String} {kind : OptionType} {body : List Char} {es : List ChoiceEntry}
  {e : ChoiceEntry} {c : Choice}

/-! ## One entry -/

theorem readChoice_eq_read {before : List Choice} (hpos : 1 ≤ e.name.length)
    (hshort : e.name.length ≤ Pattern.maxChoiceName)
    (hnew : String.ofList e.name ∉ before.map (·.name)) :
    Pattern.readChoice option kind before e.text = e.read option kind := by
  have hparts := Pattern.parts_iff.mp e.parts
  have hname : e.name.isEmpty = false := by
    rw [List.isEmpty_eq_false_iff, ← List.length_pos_iff]
    omega
  have hlong : decide (Pattern.maxChoiceName < e.name.length) = false := by
    rw [decide_eq_false_iff_not]
    omega
  have hany : (before.any fun c => c.name == String.ofList e.name) = false := by
    rw [List.any_eq_false]
    intro c hc hname
    exact hnew (List.mem_map.mpr ⟨c, hc, by simpa using hname⟩)
  unfold Pattern.readChoice read
  rw [hparts]
  by_cases hvalue : e.value = []
  · simp [hname, hlong, hvalue, throw, throwThe, MonadExceptOf.throw, bind, Except.bind]
  · rw [if_neg hvalue]
    simp only [hname, hlong, hany, List.isEmpty_eq_false_iff.mpr hvalue, Bool.or_self,
      Bool.false_eq_true, ↓reduceIte, bind, Except.bind, Except.map]
    split <;> rfl

theorem display_integer (n : Int64) :
    (ChoiceValue.integer n).display.toList = Decimal.render n.toInt := by
  simp [ChoiceValue.display, Decimal.text]

/-- The display text of an integer is a numeral for it. -/
theorem denotes_display (n : Int64) :
    DenotesWord (ChoiceValue.integer n).display.toList n.toInt := by
  rw [display_integer, ← Decimal.signed?_eq_some_iff]
  exact Decimal.signed?_render (Decimal.fitsSigned_toInt n)

theorem not_isNumeral_of_nil (h : e.value = []) : ¬ e.IsNumeral := by
  rintro ⟨n, hn⟩
  rw [h, ← Decimal.signed?_eq_some_iff] at hn
  cases hn

theorem isNumeral_iff : e.IsNumeral ↔ ∃ c, e.GivesInteger c := by
  constructor
  · rintro ⟨n, hn, hlow, hhigh⟩
    have hfits : Decimal.fitsSigned n = true := by simp [Decimal.fitsSigned, hlow, hhigh]
    refine ⟨_, .ofInt n, ?_, rfl⟩
    rwa [Decimal.toInt_ofInt hfits]
  · rintro ⟨-, n, hn, rfl⟩
    have hlow := Int64.le_toInt n
    have hhigh := Int64.toInt_lt n
    exact ⟨n.toInt, hn, by omega, by omega⟩

theorem read_integer_eq_ok_iff : e.read option .integer = .ok c ↔ e.GivesInteger c := by
  unfold read
  by_cases hvalue : e.value = []
  · rw [if_pos hvalue]
    constructor
    · intro h
      cases h
    · intro h
      exact absurd (isNumeral_iff.mpr ⟨c, h⟩) (not_isNumeral_of_nil hvalue)
  · rw [if_neg hvalue, map_eq_ok_iff]
    constructor
    · rintro ⟨v, hv, rfl⟩
      have hspelled := (Pattern.readChoiceValue_eq_ok_iff rfl).mp hv
      cases v with
      | integer n =>
        obtain ⟨hn, -⟩ := Decimal.signed?_eq_some_iff.mp hspelled.2
        exact ⟨n, hn, rfl⟩
      | text s => cases hspelled.1
    · rintro ⟨n, hn, rfl⟩
      have hlow := Int64.le_toInt n
      have hhigh := Int64.toInt_lt n
      have hread : Decimal.signed? e.value = some n.toInt :=
        Decimal.signed?_eq_some_iff.mpr ⟨hn, by omega, by omega⟩
      exact ⟨.integer n, (Pattern.readChoiceValue_eq_ok_iff rfl).mpr ⟨rfl, hread⟩, rfl⟩

theorem read_integer_of_not_isNumeral (h : ¬ e.IsNumeral) :
    e.read option .integer = .error (e.fault option) := by
  unfold read fault
  by_cases hvalue : e.value = []
  · rw [if_pos hvalue, if_pos hvalue]
  · have hread : Decimal.signed? e.value = none := by
      rw [Option.eq_none_iff_forall_ne_some]
      intro n hn
      exact h ⟨n, Decimal.signed?_eq_some_iff.mp hn⟩
    rw [if_neg hvalue, if_neg hvalue]
    simp [Pattern.readChoiceValue, hread, Except.map]

theorem read_string : e.read option .string =
    if e.value = [] then .error (e.fault option) else .ok e.asText := by
  unfold read fault
  by_cases hvalue : e.value = []
  · rw [if_pos hvalue, if_pos hvalue, if_pos hvalue]
  · rw [if_neg hvalue, if_neg hvalue]
    rfl

/-! ## Lists of entries -/

/-- Good names do not get in the way of each other, so each entry is read on its own. -/
theorem foldlM_addChoice_eq {before : List Choice} (hes : WellNamed es)
    (hbefore : ∀ e ∈ es, String.ofList e.name ∉ before.map (·.name)) :
    (es.map (·.text)).foldlM (Pattern.addChoice option kind) before =
      (es.mapM (read option kind)).map (before ++ ·) := by
  induction es generalizing before with
  | nil => simp [pure, Except.pure, Except.map]
  | cons e es ih =>
    obtain ⟨⟨hpos, hshort⟩, hlengths⟩ := List.forall_mem_cons.mp hes.lengths
    obtain ⟨hnotMem, hdistinct⟩ := List.nodup_cons.mp hes.distinct
    obtain ⟨hnew, hrest⟩ := List.forall_mem_cons.mp hbefore
    rw [List.map_cons, List.foldlM_cons, List.mapM_cons, Pattern.addChoice,
      readChoice_eq_read hpos hshort hnew]
    cases hread : e.read option kind with
    | error fault => rfl
    | ok c =>
      have hname : c.name = String.ofList e.name := by
        unfold read at hread
        split at hread
        · cases hread
        · obtain ⟨v, -, rfl⟩ := map_eq_ok_iff.mp hread
          rfl
      have hbefore' : ∀ f ∈ es, String.ofList f.name ∉ (before ++ [c]).map (·.name) := by
        intro f hf hmem
        rw [List.map_append, List.mem_append] at hmem
        rcases hmem with hmem | hmem
        · exact hrest f hf hmem
        · have heq : String.ofList f.name = c.name := by simpa using hmem
          rw [hname, String.ofList_inj] at heq
          exact hnotMem (List.mem_map.mpr ⟨f, hf, heq⟩)
      have hstep := ih ⟨hlengths, hdistinct⟩ hbefore'
      show (es.map (·.text)).foldlM (Pattern.addChoice option kind) (before ++ [c]) = _
      rw [hstep]
      cases es.mapM (read option kind) with
      | error fault => rfl
      | ok cs => simp [bind, Except.bind, pure, Except.pure, Except.map]

/-- A list with good names is read entry by entry. -/
theorem readChoices_eq_mapM (hbody : body.splitOn ',' = es.map (·.text)) (hes : WellNamed es)
    (hkind : kind.takesChoices = true) :
    Pattern.readChoices option kind body = es.mapM (read option kind) := by
  have hne : body ≠ [] := by
    rintro rfl
    have hsplit : ([] : List Char).splitOn ',' = [[]] := by decide
    rw [hsplit] at hbody
    obtain ⟨e, rfl⟩ : ∃ e, es = [e] := by
      cases es with
      | nil => simp at hbody
      | cons e es =>
        obtain ⟨-, hnil⟩ := List.cons.inj hbody
        exact ⟨e, by simpa using hnil.symm⟩
    obtain ⟨hpos, -⟩ := hes.lengths e List.mem_cons_self
    have htext : e.text = [] := by simpa using hbody.symm
    obtain ⟨ch, hch⟩ := List.exists_mem_of_length_pos hpos
    have hmem := ((Pattern.mem_of_parts e.parts).1 hch).1
    rw [htext] at hmem
    cases hmem
  have hfold : (es.map (·.text)).foldlM (Pattern.addChoice option kind) [] =
      (es.mapM (read option kind)).map ([] ++ ·) := foldlM_addChoice_eq hes (by simp)
  unfold Pattern.readChoices
  rw [hbody, hfold]
  simp only [hkind, List.isEmpty_eq_false_iff.mpr hne, Bool.not_true, Bool.false_eq_true,
    ↓reduceIte]
  cases es.mapM (read option kind) <;> rfl

/-- Where the good entries are those that have a property, the first one without it is at fault. -/
theorem mapM_read_eq_error_iff {P : ChoiceEntry → Prop} {fault : Pattern.Fault}
    (hgood : ∀ e, P e → ∃ c, e.read option kind = .ok c)
    (hbad : ∀ e, ¬ P e → e.read option kind = .error (e.fault option)) :
    es.mapM (read option kind) = .error fault ↔
      ∃ e, FirstWithout P es e ∧ fault = e.fault option := by
  have hread : ∀ e, (∃ c, e.read option kind = .ok c) → P e := by
    rintro e ⟨c, hc⟩
    by_contra hnot
    rw [hbad e hnot] at hc
    cases hc
  rw [mapM_eq_error_iff]
  constructor
  · rintro ⟨before, e, after, rfl, hbefore, he⟩
    have hnot : ¬ P e := by
      intro hP
      obtain ⟨c, hc⟩ := hgood e hP
      rw [he] at hc
      cases hc
    refine ⟨e, ⟨before, after, rfl, fun b hb => hread b (hbefore b hb), hnot⟩, ?_⟩
    rw [hbad e hnot] at he
    exact (Except.error.inj he).symm
  · rintro ⟨e, ⟨before, after, rfl, hbefore, hnot⟩, rfl⟩
    exact ⟨before, e, after, rfl, fun b hb => hgood b (hbefore b hb), hbad e hnot⟩

theorem mapM_read_string_eq_ok_iff {cs : List Choice} :
    es.mapM (read option .string) = .ok cs ↔ (∀ e ∈ es, e.value ≠ []) ∧ cs = es.map asText := by
  have hread : ∀ e : ChoiceEntry, ∀ c, e.read option .string = .ok c ↔
      e.value ≠ [] ∧ c = e.asText := by
    intro e c
    rw [read_string]
    by_cases hvalue : e.value = []
    · simp [hvalue]
    · rw [if_neg hvalue, Except.ok.injEq, eq_comm]
      simp [hvalue]
  simp only [mapM_eq_ok_iff, hread]
  induction es generalizing cs with
  | nil => simp
  | cons e es ih =>
    rw [List.forall₂_cons_left_iff, List.forall_mem_cons, List.map_cons]
    constructor
    · rintro ⟨c, rest, ⟨he, rfl⟩, hrest, rfl⟩
      obtain ⟨hes, rfl⟩ := ih.mp hrest
      exact ⟨⟨he, hes⟩, rfl⟩
    · rintro ⟨⟨he, hes⟩, rfl⟩
      exact ⟨_, _, ⟨he, rfl⟩, ih.mpr ⟨hes, rfl⟩, rfl⟩

/-! ## Choices written out again -/

/-- Each choice of a list can be written with its name and the display text of its value. -/
theorem exists_written {cs : List Choice} (h : List.Forall₂ GivesInteger es cs) :
    ∃ fs : List ChoiceEntry, cs.map Choice.line = fs.map (·.text) ∧
      fs.map (·.name) = es.map (·.name) ∧ List.Forall₂ GivesInteger fs cs := by
  induction h with
  | nil => exact ⟨[], rfl, rfl, .nil⟩
  | @cons e c es cs hc hcs ih =>
    obtain ⟨fs, htexts, hnames, hgives⟩ := ih
    obtain ⟨n, hn, rfl⟩ := hc
    have heq : '=' ∉ e.name := fun hmem => ((Pattern.mem_of_parts e.parts).1 hmem).2 rfl
    have hdisplay := (denotes_display n).1
    refine ⟨⟨_, e.name, (ChoiceValue.integer n).display.toList, .pair heq⟩ :: fs, ?_, ?_, ?_⟩
    · rw [List.map_cons, List.map_cons, htexts, Choice.line, String.toList_ofList]
    · rw [List.map_cons, List.map_cons, hnames]
    · exact .cons ⟨n, hdisplay, rfl⟩ hgives

theorem comma_not_mem_line (hname : ',' ∉ e.name) (h : e.GivesInteger c) : ',' ∉ c.line := by
  obtain ⟨n, -, rfl⟩ := h
  rw [Choice.line, display_integer, String.toList_ofList]
  intro hmem
  rcases List.mem_append.mp hmem with hmem | hmem
  · exact hname hmem
  rcases List.mem_cons.mp hmem with hmem | hmem
  · cases hmem
  rcases Decimal.mem_render hmem with hmem | hmem
  · cases hmem
  · cases hmem

/-- What is read from a list is read again from its choices as they are written out. -/
theorem readChoices_lines {cs : List Choice} (hbody : body.splitOn ',' = es.map (·.text))
    (hes : WellNamed es) (h : es.mapM (read option .integer) = .ok cs) :
    Pattern.readChoices option .integer ([','].intercalate (cs.map Choice.line)) = .ok cs := by
  have hgives : List.Forall₂ GivesInteger es cs := by
    simpa only [mapM_eq_ok_iff, read_integer_eq_ok_iff] using h
  obtain ⟨fs, htexts, hnames, hfsGives⟩ := exists_written hgives
  have hlengths : ∀ name ∈ fs.map (·.name),
      1 ≤ name.length ∧ name.length ≤ Pattern.maxChoiceName := by
    rw [hnames, List.forall_mem_map]
    exact hes.lengths
  have hfs : WellNamed fs := ⟨List.forall_mem_map.mp hlengths, hnames ▸ hes.distinct⟩
  have hne : cs.map Choice.line ≠ [] := by
    intro hnil
    have hlength := hgives.length_eq
    rw [List.map_eq_nil_iff.mp hnil, List.length_nil, List.length_eq_zero_iff] at hlength
    rw [hlength, List.map_nil] at hbody
    exact List.splitOn_ne_nil ',' body hbody
  have hcomma : ∀ line ∈ cs.map Choice.line, ',' ∉ line := by
    rw [List.forall_mem_map]
    intro c hc
    obtain ⟨e, he, hread⟩ := mem_of_mapM_eq_ok h c hc
    have hpiece : e.text ∈ body.splitOn ',' := hbody ▸ List.mem_map_of_mem he
    have hname : ',' ∉ e.name := fun hmem =>
      Text.not_mem_of_mem_splitOn hpiece ((Pattern.mem_of_parts e.parts).1 hmem).1
    exact comma_not_mem_line hname (read_integer_eq_ok_iff.mp hread)
  have hsplit := List.splitOn_intercalate ',' hcomma hne
  rw [readChoices_eq_mapM (hsplit.trans htexts) hfs rfl]
  simpa only [mapM_eq_ok_iff, read_integer_eq_ok_iff] using hfsGives

end ChoiceEntry

/-! ## In a line -/

/-- The word of an option with the given text between its angle brackets. -/
def OptionSpec.wordWith (o : OptionSpec) (body : List Char) : List Char :=
  o.label ++ ':' :: (o.kind.name.toList ++ '<' :: (body ++ ['>']))

namespace Pattern

variable {o : OptionSpec} {body : List Char} {p : Pattern}

/-- A new option whose name and type are in order stands and falls with its choices. -/
theorem extend_wordWith (hname : IsName o.name) (hkind : o.kind.isNesting = false)
    (hnew : o.name ∉ p.options.map (·.name)) :
    extend p (o.wordWith body) = (readChoices o.name o.kind body).map fun cs =>
      { p with options := p.options ++ [{ o with choices := cs }] } := by
  have hcut : Text.cutAt ':' (o.wordWith body) =
      some (o.label, o.kind.name.toList ++ '<' :: (body ++ ['>'])) :=
    Text.cutAt_eq_some_iff.mpr ⟨rfl, colon_not_mem_label hname⟩
  have hany : (p.options.any fun seen => seen.name == o.name) = false := by
    rw [List.any_eq_false]
    intro seen hseen heq
    exact hnew (List.mem_map.mpr ⟨seen, hseen, by simpa using heq⟩)
  have hread : readOption o.label (o.kind.name.toList ++ '<' :: (body ++ ['>'])) =
      (readChoices o.name o.kind body).map fun cs => { o with choices := cs } :=
    readOption_label (some body) hname hkind
  unfold extend
  simp only [hcut, hread]
  cases readChoices o.name o.kind body with
  | error fault => rfl
  | ok cs => simp [hany, bind, Except.bind, Except.map, pure, Except.pure]

/-- The same in a line whose words in front of the option are read. -/
theorem parse_of_wordWith {line : String} {ws rest : List (List Char)} (hname : IsName o.name)
    (hkind : o.kind.isNesting = false) (hnew : o.name ∉ p.options.map (·.name))
    (hwords : Text.words line.toList = ws ++ o.wordWith body :: rest) (hp : ofWords ws = .ok p) :
    parse line = ((readChoices o.name o.kind body).bind fun cs =>
      rest.foldlM extend { p with options := p.options ++ [{ o with choices := cs }] }).mapError
        fun fault => ⟨collapse line, fault⟩ := by
  have hne : ws ≠ [] := by
    rintro rfl
    cases hp
  have hline : Text.words line.toList ≠ [] := by
    rw [hwords]
    simp
  rw [parse_of_words hline, hwords, ofWords_append hne, hp]
  show ((o.wordWith body :: rest).foldlM extend p).mapError _ = _
  rw [List.foldlM_cons, extend_wordWith hname hkind hnew]
  cases readChoices o.name o.kind body <;> rfl

/-- Integer choices are read exactly. Take a list whose entries have good names, none of them twice.
As choices of an integer option, the entries give the integers that their value texts stand for, in
their order; the list is read if all of these texts are numerals for integers of 64 bits, and
otherwise the first entry without such a numeral is at fault. The choices that are read can be
written with the display texts of their values, and are read from that again. As choices of a string
option, the entries give their value texts as they stand, if none is empty. In a line the list
decides over its option, and a fault in it is the fault of the line. -/
theorem choices_read_exactly (option : String) {body : List Char} {es : List ChoiceEntry}
    (hbody : body.splitOn ',' = es.map (·.text)) (hes : ChoiceEntry.WellNamed es) :
    (∀ cs, readChoices option .integer body = .ok cs ↔
      List.Forall₂ ChoiceEntry.GivesInteger es cs) ∧
    ((∃ cs, readChoices option .integer body = .ok cs) ↔ ∀ e ∈ es, e.IsNumeral) ∧
    (∀ fault, readChoices option .integer body = .error fault ↔
      ∃ e, ChoiceEntry.FirstWithout ChoiceEntry.IsNumeral es e ∧ fault = e.fault option) ∧
    (∀ n : Int64, DenotesWord (ChoiceValue.integer n).display.toList n.toInt) ∧
    (∀ cs, readChoices option .integer body = .ok cs →
      readChoices option .integer ([','].intercalate (cs.map Choice.line)) = .ok cs) ∧
    (∀ cs, readChoices option .string body = .ok cs ↔
      (∀ e ∈ es, e.value ≠ []) ∧ cs = es.map ChoiceEntry.asText) ∧
    (∀ fault, readChoices option .string body = .error fault ↔
      ∃ e, ChoiceEntry.FirstWithout (·.value ≠ []) es e ∧ fault = e.fault option) ∧
    ∀ (kind : OptionType) (required : Bool) (p : Pattern) (line : String)
      (ws rest : List (List Char)), IsName option → kind.isNesting = false →
      option ∉ p.options.map (·.name) → ofWords ws = .ok p →
      Text.words line.toList = ws ++ OptionSpec.wordWith ⟨option, kind, required, []⟩ body :: rest →
      parse line = ((readChoices option kind body).bind fun cs =>
        rest.foldlM extend { p with
          options := p.options ++ [⟨option, kind, required, cs⟩] }).mapError
            fun fault => ⟨collapse line, fault⟩ := by
  have hintegers : readChoices option .integer body =
      es.mapM (ChoiceEntry.read option .integer) := ChoiceEntry.readChoices_eq_mapM hbody hes rfl
  have hstrings : readChoices option .string body =
      es.mapM (ChoiceEntry.read option .string) := ChoiceEntry.readChoices_eq_mapM hbody hes rfl
  have hgives : ∀ cs, readChoices option .integer body = .ok cs ↔
      List.Forall₂ ChoiceEntry.GivesInteger es cs := by
    intro cs
    simp only [hintegers, mapM_eq_ok_iff, ChoiceEntry.read_integer_eq_ok_iff]
  refine ⟨hgives, ?_, ?_, ChoiceEntry.denotes_display, ?_, ?_, ?_, ?_⟩
  · simp only [hintegers, exists_mapM_eq_ok_iff, ChoiceEntry.read_integer_eq_ok_iff,
      ChoiceEntry.isNumeral_iff]
  · intro fault
    rw [hintegers]
    apply ChoiceEntry.mapM_read_eq_error_iff
    · intro e he
      obtain ⟨c, hc⟩ := ChoiceEntry.isNumeral_iff.mp he
      exact ⟨c, ChoiceEntry.read_integer_eq_ok_iff.mpr hc⟩
    · intro e he
      exact ChoiceEntry.read_integer_of_not_isNumeral he
  · intro cs hcs
    exact ChoiceEntry.readChoices_lines hbody hes (hintegers ▸ hcs)
  · intro cs
    rw [hstrings]
    exact ChoiceEntry.mapM_read_string_eq_ok_iff
  · intro fault
    rw [hstrings]
    apply ChoiceEntry.mapM_read_eq_error_iff
    · intro e he
      exact ⟨e.asText, by rw [ChoiceEntry.read_string, if_neg he]⟩
    · intro e he
      rw [ChoiceEntry.read_string, if_pos (not_not.mp he)]
  · intro kind required p line ws rest hname hkind hnew hp hwords
    exact parse_of_wordWith hname hkind hnew hwords hp

/-- Both bounds, a plus sign and leading zeros, and a third entry that is its own value. -/
theorem choices_read_exactly_at_bounds :
    readChoices "n" .integer "a=-9223372036854775808,b=+09223372036854775807,-1".toList =
      .ok [⟨"a", .integer Int64.minValue⟩, ⟨"b", .integer Int64.maxValue⟩, ⟨"-1", .integer (-1)⟩] := by
  let es : List ChoiceEntry := [
    ⟨_, ['a'], "-9223372036854775808".toList, .pair (by decide)⟩,
    ⟨_, ['b'], "+09223372036854775807".toList, .pair (by decide)⟩,
    ⟨['-', '1'], ['-', '1'], ['-', '1'], .bare (by decide)⟩]
  have hbody : "a=-9223372036854775808,b=+09223372036854775807,-1".toList.splitOn ',' =
      es.map (·.text) := by decide
  have hes : ChoiceEntry.WellNamed es := ⟨by decide, by decide⟩
  refine ((choices_read_exactly "n" hbody hes).1 _).mpr ?_
  refine .cons ⟨_, ?_, rfl⟩ (.cons ⟨_, ?_, rfl⟩ (.cons ⟨_, ?_, rfl⟩ .nil))
  all_goals
    rw [← Decimal.integer?_eq_some_iff]
    decide

/-- An entry that ends in its `=` has no numeral for a value, and yet it is the form of the pattern
that is at fault and not the value of the choice. -/
theorem empty_value_is_malformed :
    parse "/x n:integer<a=>" =
      .error ⟨"/x n:integer<a=>", .malformed (.badChoice "a=" "n")⟩ ∧
    ¬ ∀ (body : List Char) (es : List ChoiceEntry), body.splitOn ',' = es.map (·.text) →
      (∀ e ∈ es, e.text ≠ []) → ChoiceEntry.WellNamed es → (¬ ∀ e ∈ es, e.IsNumeral) →
      ∃ e, ChoiceEntry.FirstWithout ChoiceEntry.IsNumeral es e ∧
        readChoices "n" .integer body =
          .error (.invalidChoiceValue "n" .integer (.ofList e.text)) := by
  refine ⟨by decide, ?_⟩
  intro h
  let entry : ChoiceEntry := ⟨_, ['a'], [], .pair (by decide)⟩
  have hnumeral : ¬ ∀ e ∈ [entry], e.IsNumeral := fun hall =>
    ChoiceEntry.not_isNumeral_of_nil rfl (hall entry List.mem_cons_self)
  obtain ⟨e, -, hread⟩ :=
    h ['a', '='] [entry] (by decide) (by decide) ⟨by decide, by decide⟩ hnumeral
  have hform : readChoices "n" .integer ['a', '='] = .error (.malformed (.badChoice "a=" "n")) := by
    decide
  rw [hform] at hread
  cases hread

end Pattern

end CommandRouter
