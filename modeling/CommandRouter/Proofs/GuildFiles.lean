import CommandRouter.Proofs.Decimals
import CommandRouter.Toml.Reader
import Mathlib.Data.List.Basic

/-!
# Files that give a guild

A file with the id of a guild in it, as a number or as a string of digits. The reader tries every
other kind of value before it takes a number for one, and all of them fail on digits that go on up
to the end of the line. So the file is read as the table that holds the id.
-/

namespace CommandRouter

namespace Text.Scan

variable {α β : Type}

theorem bind_apply (s : Scan α) (f : α → Scan β) (cs : List Char) :
    (s >>= f) cs = (s cs).bind fun result => f result.1 result.2 := rfl

theorem orElse_apply (s t : Scan α) (cs : List Char) : (s <|> t) cs = (s cs).or (t cs) := by
  show (s cs <|> t cs) = _
  cases s cs <;> rfl

end Text.Scan

namespace Toml

open Text Text.Scan

variable {cs ds rest : List Char} {c : Char} {n : Nat}

/-! ## Digits up to the end of a line -/

theorem ne_of_isDigit {d : Char} (hd : d.isDigit = true) (hc : c.isDigit = false) : d ≠ c := by
  rintro rfl
  rw [hd] at hc
  cases hc

/-- The text begins with digits, if with anything, and then the line ends. -/
def DigitsLine (cs : List Char) : Prop :=
  ∃ ds rest, (∀ d ∈ ds, d.isDigit = true) ∧ cs = ds ++ '\n' :: rest

namespace DigitsLine

theorem charWhere {p : Char → Bool} (h : DigitsLine cs)
    (hp : ∀ d, d.isDigit = true ∨ d = '\n' → p d = false) : Scan.charWhere p cs = none := by
  obtain ⟨ds, rest, hds, rfl⟩ := h
  cases ds with
  | nil => simp [Scan.charWhere, hp '\n' (Or.inr rfl)]
  | cons d ds => simp [Scan.charWhere, hp d (Or.inl (hds d List.mem_cons_self))]

theorem char (h : DigitsLine cs) (hc : c.isDigit = false) (hfeed : c ≠ '\n') :
    Scan.char c cs = none := by
  have hnone : Scan.charWhere (· == c) cs = none := by
    refine h.charWhere fun d hd => beq_eq_false_iff_ne.mpr ?_
    rcases hd with hd | rfl
    · exact ne_of_isDigit hd hc
    · exact hfeed.symm
  rw [Scan.char, bind_apply, hnone]
  rfl

theorem chars {more : List Char} (h : DigitsLine cs) (hc : c.isDigit = false) (hfeed : c ≠ '\n') :
    Scan.chars (c :: more) cs = none := by
  obtain ⟨ds, rest, hds, rfl⟩ := h
  cases ds with
  | nil => simp [Scan.chars, dropStart?, hfeed.symm]
  | cons d ds =>
    have hne : d ≠ c := ne_of_isDigit (hds d List.mem_cons_self) hc
    simp [Scan.chars, dropStart?, hne]

theorem exactly {k : Nat} {taken : List Char} (h : DigitsLine cs)
    (hread : Scan.exactly Char.isDigit k cs = some (taken, rest)) : DigitsLine rest := by
  induction k generalizing cs taken with
  | zero =>
    cases hread
    exact h
  | succ k ih =>
    obtain ⟨ds, behind, hds, rfl⟩ := h
    rw [Scan.exactly, bind_apply] at hread
    obtain ⟨⟨c, cs'⟩, hc, hread⟩ := Option.bind_eq_some_iff.mp hread
    cases ds with
    | nil => cases hc
    | cons d ds =>
      obtain ⟨hd, hmore⟩ := List.forall_mem_cons.mp hds
      rw [List.cons_append, Scan.charWhere, if_pos hd] at hc
      cases hc
      rw [bind_apply] at hread
      obtain ⟨_, hrest, hread⟩ := Option.bind_eq_some_iff.mp hread
      cases hread
      exact ih ⟨ds, behind, hmore, rfl⟩ hrest

theorem field {count low high x : Nat} (h : DigitsLine cs)
    (hread : field count low high cs = some (x, rest)) : DigitsLine rest := by
  rw [Toml.field, bind_apply] at hread
  obtain ⟨⟨taken, cs'⟩, hdigits, hread⟩ := Option.bind_eq_some_iff.mp hread
  simp only at hread
  split at hread
  · cases hread
    exact h.exactly hdigits
  · cases hread

/-- Behind the first field of a date or a time there is no separator. -/
theorem momentSetting (h : DigitsLine cs) : momentSetting cs = none := by
  have hdate : date cs = none := by
    rw [date, bind_apply, Option.bind_eq_none_iff]
    intro result hresult
    rw [bind_apply, (h.field hresult).char (by decide) (by decide)]
    rfl
  have htime : time cs = none := by
    rw [time, bind_apply, Option.bind_eq_none_iff]
    intro result hresult
    rw [bind_apply, (h.field hresult).char (by decide) (by decide)]
    rfl
  have hmoment : moment cs = none := by
    rw [moment, orElse_apply, bind_apply, hdate, htime]
    rfl
  rw [Toml.momentSetting, StateT.run, hmoment]
  rfl

theorem basedNumber {letter : Char} {base : Nat} (h : DigitsLine cs)
    (hletter : letter.isDigit = false) (hfeed : letter ≠ '\n') :
    basedNumber letter base cs = none := by
  have hnone : Scan.chars ['0', letter] cs = none := by
    obtain ⟨ds, rest, hds, rfl⟩ := h
    cases ds with
    | nil => rfl
    | cons d ds =>
      obtain ⟨-, hmore⟩ := List.forall_mem_cons.mp hds
      have hbehind : DigitsLine (ds ++ '\n' :: rest) := ⟨ds, rest, hmore, rfl⟩
      have hmark : Scan.chars [letter] (ds ++ '\n' :: rest) = none := hbehind.chars hletter hfeed
      rw [Scan.chars, Option.map_eq_none_iff] at hmark ⊢
      rw [List.cons_append, dropStart?]
      split
      · exact hmark
      · rfl
  rw [Toml.basedNumber, bind_apply, hnone]
  rfl

end DigitsLine

theorem moreDigits_of_digits (hds : ∀ d ∈ ds, d.isDigit = true) :
    moreDigits Char.isDigit (ds ++ '\n' :: rest) = some (ds, '\n' :: rest) := by
  induction ds with
  | nil => cases rest <;> rfl
  | cons d ds ih =>
    obtain ⟨hd, hmore⟩ := List.forall_mem_cons.mp hds
    have hne : d ≠ '_' := ne_of_isDigit hd (by decide)
    rw [List.cons_append]
    unfold moreDigits
    split
    · rename_i heq
      exact absurd (List.cons.inj heq).1 hne
    · rename_i heq
      exact absurd (List.cons.inj heq).1 hne
    · rename_i heq
      cases heq
      rw [if_pos hd, ih hmore]
      rfl
    · rename_i heq
      cases heq

/-! ## Numerals -/

/-- The text is a numeral without a leading zero that could be left out. -/
inductive Unpadded : List Char → Prop where
  | zero : Unpadded ['0']
  | cons {d : Char} {ds : List Char} (hne : d ≠ '0') (hds : ∀ c ∈ d :: ds, c.isDigit = true) :
      Unpadded (d :: ds)

theorem unpadded_digits (n : Nat) : Unpadded (Decimal.digits n) := by
  induction n using Nat.strongRecOn with
  | ind n ih =>
    have hdigits : ∀ d ∈ Decimal.digits n, d.isDigit = true :=
      fun d hd => Decimal.isDigit_of_mem_digits hd
    by_cases hn : n < 10
    · have hone : Decimal.digits n = [n.digitChar] := Nat.toDigits_of_lt_base hn
      rw [hone] at hdigits ⊢
      by_cases hzero : n = 0
      · subst hzero
        exact .zero
      · have hchar : ∀ m < 10, m ≠ 0 → m.digitChar ≠ '0' := by decide
        exact .cons (hchar n hn hzero) hdigits
    · have hmore : Decimal.digits n = Decimal.digits (n / 10) ++ [(n % 10).digitChar] :=
        Nat.toDigits_of_base_le (by decide) (by omega)
      have hfront := ih (n / 10) (by omega)
      have hvalue : Nat.ofDigitChars 10 (Decimal.digits (n / 10)) 0 = n / 10 :=
        Nat.ofDigitChars_toDigits (by decide) (by decide)
      rw [hmore] at hdigits ⊢
      generalize Decimal.digits (n / 10) = front at *
      cases hfront with
      | zero =>
        have hnone : Nat.ofDigitChars 10 ['0'] 0 = 0 := by decide
        omega
      | cons hne hds => exact .cons hne hdigits

namespace Unpadded

theorem isDigit (h : Unpadded ds) : ∀ d ∈ ds, d.isDigit = true := by
  cases h with
  | zero => decide
  | cons hne hds => exact hds

theorem digitsLine (h : Unpadded ds) (rest : List Char) : DigitsLine (ds ++ '\n' :: rest) :=
  ⟨ds, rest, h.isDigit, rfl⟩

theorem sign (h : Unpadded ds) :
    sign (ds ++ '\n' :: rest) = some (false, ds ++ '\n' :: rest) := by
  have hminus := (h.digitsLine rest).char (c := '-') (by decide) (by decide)
  have hplus := (h.digitsLine rest).char (c := '+') (by decide) (by decide)
  rw [Toml.sign, orElse_apply, bind_apply, hminus, bind_apply, skipOptional, bind_apply,
    Scan.optional, StateT.run, hplus]
  rfl

theorem wholeDigits (h : Unpadded ds) :
    wholeDigits (ds ++ '\n' :: rest) = some (ds, '\n' :: rest) := by
  cases h with
  | zero => rfl
  | @cons d ds hne hds =>
    obtain ⟨hd, hmore⟩ := List.forall_mem_cons.mp hds
    have hzero : Scan.char '0' (d :: ds ++ '\n' :: rest) = none := by
      simp [Scan.char, bind_apply, Scan.charWhere, hne]
    have hfirst : Scan.charWhere Char.isDigit (d :: ds ++ '\n' :: rest) =
        some (d, ds ++ '\n' :: rest) := if_pos hd
    rw [Toml.wholeDigits, orElse_apply, bind_apply, hzero, digits, bind_apply, hfirst]
    simp only [Option.bind_none, Option.none_or, Option.bind_some, bind_apply,
      moreDigits_of_digits hmore]
    rfl

theorem string (h : Unpadded ds) : string (ds ++ '\n' :: rest) = none := by
  cases h with
  | zero => rfl
  | @cons d ds hne hds =>
    have hd := hds d List.mem_cons_self
    have hquote : d ≠ '"' := ne_of_isDigit hd (by decide)
    have hapostrophe : d ≠ '\'' := ne_of_isDigit hd (by decide)
    simp [Toml.string, shortString, hquote, hapostrophe]

theorem truth (h : Unpadded ds) : truth (ds ++ '\n' :: rest) = none := by
  have htrue : Scan.chars ['t', 'r', 'u', 'e'] (ds ++ '\n' :: rest) = none :=
    (h.digitsLine rest).chars (by decide) (by decide)
  have hfalse : Scan.chars ['f', 'a', 'l', 's', 'e'] (ds ++ '\n' :: rest) = none :=
    (h.digitsLine rest).chars (by decide) (by decide)
  simp only [Toml.truth, bind_apply, orElse_apply, htrue, hfalse]
  rfl

/-- Digits alone have neither a fraction nor an exponent. -/
theorem realNumber (h : Unpadded ds) : realNumber (ds ++ '\n' :: rest) = none := by
  simp only [Toml.realNumber, bind_apply, h.sign, h.wholeDigits, Option.bind_some]
  rfl

theorem specialNumber (h : Unpadded ds) : specialNumber (ds ++ '\n' :: rest) = none := by
  have hinf : Scan.chars ['i', 'n', 'f'] (ds ++ '\n' :: rest) = none :=
    (h.digitsLine rest).chars (by decide) (by decide)
  have hnan : Scan.chars ['n', 'a', 'n'] (ds ++ '\n' :: rest) = none :=
    (h.digitsLine rest).chars (by decide) (by decide)
  simp only [Toml.specialNumber, bind_apply, h.sign, Option.bind_some, orElse_apply, hinf, hnan]
  rfl

theorem integer (h : Unpadded ds) (hvalue : Nat.ofDigitChars 10 ds 0 = n)
    (hn : Decimal.fitsSigned n = true) :
    integer (ds ++ '\n' :: rest) = some (.integer n, '\n' :: rest) := by
  have hline := h.digitsLine rest
  have hhex : Toml.basedNumber 'x' 16 (ds ++ '\n' :: rest) = none :=
    hline.basedNumber (by decide) (by decide)
  have hoctal : Toml.basedNumber 'o' 8 (ds ++ '\n' :: rest) = none :=
    hline.basedNumber (by decide) (by decide)
  have hbinary : Toml.basedNumber 'b' 2 (ds ++ '\n' :: rest) = none :=
    hline.basedNumber (by decide) (by decide)
  simp only [Toml.integer, bind_apply, orElse_apply, hhex, hoctal, hbinary, h.sign, h.wholeDigits,
    Option.none_or, Option.bind_some, hvalue]
  show (if Decimal.fitsSigned n = true then pure (.integer n) else failure : Scan Setting) _ = _
  rw [if_pos hn]
  rfl

/-- A numeral up to the end of the line is read as its number, which fits a machine word. -/
theorem scalar (h : Unpadded ds) (hvalue : Nat.ofDigitChars 10 ds 0 = n)
    (hn : Decimal.fitsSigned n = true) :
    scalar (ds ++ '\n' :: rest) = some (.integer n, '\n' :: rest) := by
  have hstring : (Setting.string <$> Toml.string) (ds ++ '\n' :: rest) = none := by
    show (Toml.string (ds ++ '\n' :: rest)).bind _ = none
    rw [h.string]
    rfl
  simp only [Toml.scalar, orElse_apply, hstring, h.truth, (h.digitsLine rest).momentSetting,
    h.realNumber, h.specialNumber, h.integer hvalue hn, Option.none_or]

end Unpadded

/-! ## Values -/

theorem isPlain_of_isDigit (hc : c.isDigit = true) : isPlain c = true := by
  have hrange : 48 ≤ c.toNat ∧ c.toNat ≤ 57 := by
    simpa [Char.isDigit, UInt32.le_iff_toNat_le] using hc
  have hlow : 0x20 ≤ c.toNat := by omega
  have hhigh : c.toNat ≠ 0x7F := by omega
  simp [isPlain, hlow, hhigh]

/-- Digits in quotes have no escapes among them. -/
theorem basicRest_of_digits (hds : ∀ d ∈ ds, d.isDigit = true) :
    basicRest (ds ++ '"' :: rest) = some (ds, rest) := by
  induction ds with
  | nil => rfl
  | cons d ds ih =>
    obtain ⟨hd, hmore⟩ := List.forall_mem_cons.mp hds
    have hquote : d ≠ '"' := ne_of_isDigit hd (by decide)
    have hslash : d ≠ '\\' := ne_of_isDigit hd (by decide)
    rw [List.cons_append, basicRest, if_pos (isPlain_of_isDigit hd), ih hmore]
    · rfl
    all_goals
      intros
      contradiction

/-- A string of digits in quotes is read as these digits. -/
theorem string_of_digits (hne : ds ≠ []) (hds : ∀ d ∈ ds, d.isDigit = true) :
    string ('"' :: ds ++ '"' :: rest) = some (.ofList ds, rest) := by
  obtain ⟨d, more, rfl⟩ := List.exists_cons_of_ne_nil hne
  have hquote : d ≠ '"' := ne_of_isDigit (hds d List.mem_cons_self) (by decide)
  have hshort : shortString ('"' :: (d :: more) ++ '"' :: rest) =
      some (.ofList (d :: more), rest) := by
    show (basicRest (d :: more ++ '"' :: rest)).map _ = _
    rw [basicRest_of_digits hds]
    rfl
  unfold string
  split
  · rename_i heq
    exact absurd (List.cons.inj (List.cons.inj heq).2).1 hquote
  · rename_i heq
    exact absurd (List.cons.inj heq).1 (by decide)
  · exact hshort

/-- A text that writes a number as the value of a pair, and what it is read as. -/
inductive Writes (n : Nat) : String → Setting → Prop where
  | number (hn : Decimal.fitsSigned n = true) : Writes n (toString n) (.integer n)
  | quoted : Writes n ("\"" ++ toString n ++ "\"") (.string (toString n))

theorem toList_toString (n : Nat) : (toString n).toList = Decimal.digits n := by
  rw [← Decimal.text_natCast, Decimal.text, String.toList_ofList]
  rfl

theorem toList_quoted (n : Nat) :
    ("\"" ++ toString n ++ "\"").toList = '"' :: Decimal.digits n ++ ['"'] := by
  rw [String.toList_append, String.toList_append, toList_toString]
  rfl

theorem Writes.scalar {text : String} {x : Setting} (h : Writes n text x) :
    scalar (text.toList ++ '\n' :: rest) = some (x, '\n' :: rest) := by
  have hdigits := unpadded_digits n
  cases h with
  | number hn =>
    rw [toList_toString]
    exact hdigits.scalar (Nat.ofDigitChars_toDigits (by decide) (by decide)) hn
  | quoted =>
    have hread : Toml.string ('"' :: Decimal.digits n ++ '"' :: '\n' :: rest) =
        some (.ofList (Decimal.digits n), '\n' :: rest) :=
      string_of_digits Nat.toDigits_ne_nil hdigits.isDigit
    have hfirst : (Setting.string <$> Toml.string)
        ('"' :: Decimal.digits n ++ '"' :: '\n' :: rest) =
          some (.string (toString n), '\n' :: rest) := by
      show (Toml.string ('"' :: Decimal.digits n ++ '"' :: '\n' :: rest)).bind _ = _
      rw [hread]
      rfl
    rw [toList_quoted, List.append_assoc, List.singleton_append, Toml.scalar, orElse_apply, hfirst,
      Option.some_or]

/-- Such a value is no space, no array and no table. -/
theorem Writes.head {text : String} {x : Setting} (h : Writes n text x) :
    ∃ c cs, text.toList = c :: cs ∧ c ≠ '[' ∧ c ≠ '\x7b' ∧ isSpace c = false := by
  cases h with
  | number hn =>
    have hdigits := (unpadded_digits n).isDigit
    obtain ⟨d, ds, hds⟩ := List.exists_cons_of_ne_nil (Nat.toDigits_ne_nil (b := 10) (n := n))
    have hd : d.isDigit = true := hdigits d (by rw [Decimal.digits, hds]; exact List.mem_cons_self)
    have hblank : d ≠ ' ' := ne_of_isDigit hd (by decide)
    have htab : d ≠ '\t' := ne_of_isDigit hd (by decide)
    have hspace : isSpace d = false := by simp [isSpace, hblank, htab]
    exact ⟨d, ds, (toList_toString n).trans hds, ne_of_isDigit hd (by decide),
      ne_of_isDigit hd (by decide), hspace⟩
  | quoted => exact ⟨'"', _, toList_quoted n, by decide, by decide, by decide⟩

/-- What does not begin like an array or a table is read as a scalar. -/
theorem value_eq_scalar {steps level : Nat} (hbracket : c ≠ '[') (hbrace : c ≠ '\x7b') :
    value (steps + 1) level (c :: cs) = scalar (c :: cs) := by
  rw [value]
  simp only
  split
  · rename_i heq
    exact absurd (List.cons.inj heq).1 hbracket
  · rename_i heq
    exact absurd (List.cons.inj heq).1 hbrace
  · rfl

theorem Writes.not_mem {text : String} {x : Setting} (h : Writes n text x)
    (hc : c.isDigit = false) (hquote : c ≠ '"') : c ∉ text.toList := by
  have hdigits : c ∉ Decimal.digits n :=
    fun hmem => ne_of_isDigit (Decimal.isDigit_of_mem_digits hmem) hc rfl
  cases h with
  | number hn => rwa [toList_toString]
  | quoted =>
    rw [toList_quoted]
    simp [hquote, hdigits]

/-! ## Files -/

/-- A file with nothing but the id of a guild in it. -/
def guildFile (value : String) : String := "[bot]\nguild_id = " ++ value ++ "\n"

/-- The line that opens the table of the bot. -/
def botHeader : List Char := ['[', 'b', 'o', 't', ']', '\n']

/-- The line with the id of the guild, up to its value. -/
def guildPair : List Char := ['g', 'u', 'i', 'l', 'd', '_', 'i', 'd', ' ', '=', ' ']

/-- Behind the header the table of the bot is there, and it is empty. -/
def opened : Draft := { root := [("bot", .table .explicit [])], header := ["bot"] }

theorem lines_of_not_mem (h : '\r' ∉ cs) : lines cs = cs := by
  induction cs with
  | nil => rfl
  | cons c cs ih =>
    obtain ⟨hc, hcs⟩ := List.ne_and_not_mem_of_not_mem_cons h
    unfold lines
    split
    · rename_i heq
      exact absurd (List.cons.inj heq).1.symm hc
    · rename_i heq
      cases heq
      rw [ih hcs]
    · rename_i heq
      cases heq

/-- A line that begins neither like a blank one nor like a comment is read as a header or a pair. -/
theorem readLines_cons {m steps : Nat} {d d' : Draft} (hspace : isSpace c = false)
    (hfeed : c ≠ '\n') (hcomment : c ≠ '#') (hline : line steps d (c :: cs) = some (d', rest)) :
    readLines steps (m + 1) d (c :: cs) = readLines steps m d' rest := by
  rw [readLines, List.dropWhile_cons_of_neg (by simp [hspace])]
  split
  · rename_i heq
    cases heq
  · rename_i heq
    exact absurd (List.cons.inj heq).1 hfeed
  · rename_i heq
    exact absurd (List.cons.inj heq).1 hcomment
  · show (line steps d (c :: cs)).bind _ = _
    rw [hline]
    rfl

theorem line_botHeader (steps : Nat) (rest : List Char) :
    line steps {} (botHeader ++ rest) = some (opened, rest) := by
  show line steps {} ('[' :: 'b' :: 'o' :: 't' :: ']' :: '\n' :: rest) = _
  unfold line
  rfl

theorem line_guildPair {steps : Nat} {x : Setting} (hspace : cs.dropWhile isSpace = cs)
    (hvalue : value steps (levels - 1) cs = some (x, '\n' :: rest)) :
    line steps opened (guildPair ++ cs) = some ({ opened with
      root := [("bot", .table .explicit [("guild_id", .value x)])] }, rest) := by
  have hkey : dottedKey (guildPair ++ cs) = some (([], "guild_id"), '=' :: ' ' :: cs) := rfl
  have hequals : Scan.char '=' ('=' :: ' ' :: cs) = some ((), ' ' :: cs) := rfl
  have hskip : Scan.skipWhile isSpace (' ' :: cs) = some ((), cs) := by
    rw [Scan.skipWhile, List.dropWhile_cons_of_pos (by decide), hspace]
  unfold line
  split
  · rename_i heq
    exact absurd (List.cons.inj heq).1 (by decide)
  · rename_i heq
    exact absurd (List.cons.inj heq).1 (by decide)
  · simp only [bind_apply, hkey, Option.bind_some, hequals, hskip, hvalue]
    rfl

theorem toList_guildFile (text : String) :
    (guildFile text).toList = botHeader ++ (guildPair ++ (text.toList ++ ['\n'])) := by
  have hbegin : "[bot]\nguild_id = ".toList = botHeader ++ guildPair := by decide
  have hend : "\n".toList = ['\n'] := by decide
  have happend (s t u : String) : (s ++ t ++ u).toList = s.toList ++ (t.toList ++ u.toList) := by
    rw [String.toList_append, String.toList_append, List.append_assoc]
  have hparts : (guildFile text).toList =
      "[bot]\nguild_id = ".toList ++ (text.toList ++ "\n".toList) := happend _ _ _
  rw [hparts, hbegin, hend, List.append_assoc]

/-- The file is read as the table of the bot with the id in it. -/
theorem read_guildFile {text : String} {x : Setting} (h : Writes n text x) :
    read (guildFile text) = some (Setting.nest x ["bot", "guild_id"]) := by
  obtain ⟨c, cs, htext, hbracket, hbrace, hspace⟩ := h.head
  have hlines : lines (dropMark (guildFile text).toList) =
      botHeader ++ (guildPair ++ (text.toList ++ ['\n'])) := by
    rw [toList_guildFile]
    have hheader : '\r' ∉ botHeader := by decide
    have hpair : '\r' ∉ guildPair := by decide
    have htext : '\r' ∉ text.toList := h.not_mem (by decide) (by decide)
    have hnone : '\r' ∉ botHeader ++ (guildPair ++ (text.toList ++ ['\n'])) := by
      simp [hheader, hpair, htext]
    exact lines_of_not_mem hnone
  have hvalue (steps : Nat) : value (steps + 1) (levels - 1) (text.toList ++ ['\n']) =
      some (x, ['\n']) := by
    have hscalar : scalar (text.toList ++ ['\n']) = some (x, ['\n']) := h.scalar
    rw [htext] at hscalar ⊢
    exact (value_eq_scalar hbracket hbrace).trans hscalar
  have hskip : (text.toList ++ ['\n']).dropWhile isSpace = text.toList ++ ['\n'] := by
    rw [htext]
    exact List.dropWhile_cons_of_neg (by simp [hspace])
  have hread (steps m : Nat) : readLines (steps + 1) (m + 3) {}
      (botHeader ++ (guildPair ++ (text.toList ++ ['\n']))) =
        some { opened with root := [("bot", .table .explicit [("guild_id", .value x)])] } := by
    have hheader := readLines_cons (m := m + 2) (by decide) (by decide) (by decide)
      (line_botHeader (steps + 1) (guildPair ++ (text.toList ++ ['\n'])))
    have hpair := readLines_cons (m := m + 1) (by decide) (by decide) (by decide)
      (line_guildPair hskip (hvalue steps))
    exact hheader.trans hpair
  obtain ⟨m, hm⟩ : ∃ m, (botHeader ++ (guildPair ++ (text.toList ++ ['\n']))).length = m + 2 :=
    ⟨_, rfl⟩
  rw [read, hlines]
  simp only [hm, hread]
  rfl

end Toml

end CommandRouter
