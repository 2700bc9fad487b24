import CommandRouter.Proofs.GuildFiles
import CommandRouter.Proofs.CheckedConfigs
import CommandRouter.Proofs.Words
import Mathlib.Data.List.TakeWhile

/-!
# The id of the guild

The id of a guild comes as a text or as a number, and as which of them depends on the source and on
the size of the number: a variable gives a number as long as a machine word holds it, and the text of
it beyond that. It makes no difference. The id is the same from every source, and what else is
configured stays as it is without the id. A negative number is no id, whichever way it is given.

The merged settings with an id differ from those without it at one path only, so that they are read
alike beside it; and at the path stands what the one source gives.
-/

namespace CommandRouter

open Setting (latest)
open Decimal (Denotes AreDigits)

/-! ## Numerals in variables -/

namespace Setting

open Text

/-- The characters of numerals without a plus sign. -/
def IsNumeralChar (c : Char) : Prop := c = '-' ∨ c.isDigit = true

instance (c : Char) : Decidable (IsNumeralChar c) := inferInstanceAs (Decidable (_ ∨ _))

theorem IsNumeralChar.plain {c : Char} (h : IsNumeralChar c) :
    isSpace c = false ∧ isBare c = true ∧ isBlank c = false := by
  have hspace : isSpace c = false := by
    rw [Bool.eq_false_iff]
    intro hc
    simp only [isSpace, Bool.or_eq_true, beq_iff_eq, or_assoc] at hc
    rcases hc with rfl | rfl | rfl | rfl | rfl <;> exact absurd h (by decide)
  have hbare : isBare c = true := by
    rw [isBare, Bool.not_eq_true', Bool.eq_false_iff]
    intro hc
    simp only [Bool.or_eq_true, beq_iff_eq, or_assoc] at hc
    rcases hc with rfl | rfl | rfl | rfl | rfl <;> exact absurd h (by decide)
  refine ⟨hspace, hbare, ?_⟩
  rcases h with rfl | hdigit
  · decide
  · obtain ⟨hlow, hhigh⟩ := Decimal.isDigit_iff.mp hdigit
    have hlow : 48 ≤ c.toNat := hlow
    have hhigh : c.toNat ≤ 57 := hhigh
    exact isBlank_of_ascii (by omega) (by omega)

theorem dropWhile_of_forall {p : Char → Bool} {cs : List Char} (h : ∀ c ∈ cs, p c = false) :
    cs.dropWhile p = cs := by
  rw [List.dropWhile_eq_self_iff]
  intro hpos
  exact ne_true_of_eq_false (h _ (List.getElem_mem hpos))

/-- A variable whose value has the characters of a numeral holds a bare word. -/
theorem value_of_numeralChars {cs : List Char} (n : Nat) (h : ∀ c ∈ cs, IsNumeralChar c) :
    value (n + 1) cs = some (ofWord cs, []) := by
  have hskip : cs.dropWhile isSpace = cs := dropWhile_of_forall fun c hc => (h c hc).plain.1
  have hbare : ∀ c ∈ cs, isBare c = true := fun c hc => (h c hc).plain.2.1
  have htrim : trim cs = cs := by
    have hblank : ∀ c ∈ cs, isBlank c = false := fun c hc => (h c hc).plain.2.2
    rw [trim, dropWhile_of_forall hblank,
      dropWhile_of_forall fun c hc => hblank c (List.mem_reverse.mp hc), List.reverse_reverse]
  have htake : cs.takeWhile isBare = cs := List.takeWhile_eq_self_iff.mpr hbare
  have hdrop : cs.dropWhile isBare = [] := List.dropWhile_eq_nil_iff.mpr hbare
  rw [value]
  simp only [bind, StateT.bind, Scan.skipWhile, Option.bind_some, hskip]
  split
  case h_8 =>
    rw [htake, hdrop, htrim]
    rfl
  all_goals exact absurd (h _ List.mem_cons_self) (by decide)

/-- Such a word is a number if it reads as one, and a string otherwise. -/
theorem ofVariable_of_numeralChars {s : String} (h : ∀ c ∈ s.toList, IsNumeralChar c) :
    ofVariable s = ((Decimal.unsigned? s.toList).or (Decimal.signed? s.toList)).elim
      (.string s) .integer := by
  have hpoint : s.toList.contains '.' = false := by
    rw [Bool.eq_false_iff, ne_eq, List.contains_iff_mem]
    intro hmem
    exact absurd (h _ hmem) (by decide)
  have hword : ofVariable s = ofWord s.toList := by
    rw [ofVariable, Scan.all?, StateT.run, value_of_numeralChars _ h, Option.getD_some]
  rw [hword, ofWord, hpoint, Bool.false_and, if_neg Bool.false_ne_true, String.ofList_toList]
  cases (Decimal.unsigned? s.toList).or (Decimal.signed? s.toList) <;> rfl

/-- The setting is the text, or else the number if a machine word holds it. -/
def Means (t : String) (n : Int) (x : Setting) : Prop :=
  x = .string t ∨ x = .integer n ∧ (Decimal.fitsSigned n ∨ Decimal.fitsUnsigned n)

theorem means_ofVariable {t : String} {n : Int} (h : ∀ c ∈ t.toList, IsNumeralChar c)
    (hn : Decimal.integer? t.toList = some n) : Means t n (ofVariable t) := by
  rw [ofVariable_of_numeralChars h]
  cases hword : (Decimal.unsigned? t.toList).or (Decimal.signed? t.toList) with
  | none => exact Or.inl rfl
  | some m =>
    refine Or.inr ?_
    rcases Option.or_eq_some_iff.mp hword with hread | ⟨-, hread⟩
    · have hread : (Decimal.integer? t.toList).filter Decimal.fitsUnsigned = some m := by
        unfold Decimal.unsigned? at hread
        split at hread
        · cases hread
        · exact hread
      rw [hn, Option.filter_eq_some_iff] at hread
      obtain ⟨⟨⟩, hfits⟩ := hread
      exact ⟨rfl, Or.inr hfits⟩
    · rw [Decimal.signed?, hn, Option.filter_eq_some_iff] at hread
      obtain ⟨⟨⟩, hfits⟩ := hread
      exact ⟨rfl, Or.inl hfits⟩

theorem means_ofVariable_natCast (n : Nat) : Means (toString n) n (ofVariable (toString n)) := by
  have htext : (toString n).toList = Decimal.digits n := by
    rw [← Decimal.text_natCast, Decimal.text, String.toList_ofList]
    rfl
  refine means_ofVariable ?_ ?_
  · intro c hc
    rw [htext] at hc
    exact Or.inr (Decimal.isDigit_of_mem_digits hc)
  · rw [htext]
    exact Decimal.integer?_digits n

theorem means_ofVariable_of_neg {t : String} {n : Int} (h : Denotes t.toList n) (hn : n < 0) :
    Means t n (ofVariable t) := by
  refine means_ofVariable ?_ (Decimal.integer?_eq_some_iff.mpr h)
  obtain ⟨ds, hds, ht⟩ := h.of_neg hn
  rw [ht, List.forall_mem_cons]
  exact ⟨Or.inl rfl, fun c hc => Or.inr (hds.isDigit c hc)⟩

theorem Means.ne_table {t : String} {n : Int} {x : Setting} (h : Means t n x) :
    ∀ members, x ≠ .table members := by
  rintro members rfl
  rcases h with h | ⟨h, -⟩ <;> cases h

/-- A natural number is read as its digits, whether it is given as a text or as a number. -/
theorem Means.id_of_natCast {n : Nat} {x : Setting} (h : Means (toString n) n x) :
    Shape.optional Shape.id x = .ok (some (toString n)) := by
  rcases h with rfl | ⟨rfl, hfits⟩
  · rfl
  · have hunsigned : Decimal.fitsUnsigned n = true := by
      simp only [Decimal.fitsSigned, Decimal.fitsUnsigned, Bool.and_eq_true,
        decide_eq_true_eq] at hfits ⊢
      omega
    simp only [Shape.optional, Shape.id, hunsigned, if_pos, Except.map]
    rw [Decimal.text_natCast]

/-- A negative number is read, if at all, as a text. -/
theorem Means.id_of_neg {t : String} {n : Int} {x : Setting} {id? : Option String}
    (h : Means t n x) (hn : n < 0) (hread : Shape.optional Shape.id x = .ok id?) :
    id? = some t := by
  rcases h with rfl | ⟨rfl, -⟩
  · cases hread
    rfl
  · have hunsigned : Decimal.fitsUnsigned n = false := by
      simp only [Decimal.fitsUnsigned, Bool.and_eq_false_iff, decide_eq_false_iff_not]
      omega
    simp [Shape.optional, Shape.id, hunsigned, Except.map] at hread

end Setting

/-! ## Sources of the id -/

open Config (Key)
open Setting (Beside SameBeside Means)

namespace Layers

variable {L L' : Layers} {t : String} {n : Int}

/-- The ways to give a guild on top of some layers, by a text or a number. -/
inductive AddsGuildId (L : Layers) (t : String) (n : Int) : Layers → Prop where
  /-- The file has a text or a number under the key, and the same as before beside it. -/
  | inFile {x v : Setting} (hv : v = .string t ∨ v = .integer n ∧ Decimal.fitsSigned n = true)
      (hat : x.at? Key.guildId.path = some v)
      (hbeside : ∀ p, Beside p Key.guildId.path → L.file.at? p = x.at? p) :
      AddsGuildId L t n { L with file := x }
  | inVariable {name : String} {before after : Setting.Variables}
      (hname : name = "DISCORD_GUILD_ID" ∨ name = "SLASHMUX_BOT__GUILD_ID")
      (henvironment : L.environment = before ++ after) :
      AddsGuildId L t n { L with environment := before ++ (name, t) :: after }
  | inOverride {j : Json} {before after : List (String × Json)}
      (hj : j = .string t ∨ j = .number (.integer n) ∧
        (Decimal.fitsSigned n = true ∨ Decimal.fitsUnsigned n = true))
      (hoverrides : L.overrides = before ++ after) :
      AddsGuildId L t n { L with overrides := before ++ ("bot.guild_id", j) :: after }

/-- None of the sources gives a guild. -/
def GivesNoGuildId (L : Layers) : Prop :=
  ∀ x ∈ L.sources, x.Fits (fun _ => False) Key.guildId.path

theorem guildId_keys : ∀ key ∈ Key.guildId.path, key.isEmpty = false := by decide

theorem keys_bot_guild_id : Setting.keys "bot.guild_id" = Key.guildId.path := by decide

/-- Each of the two variables gives the id as a variable of its own kind. -/
theorem keys?_guildId {name : String}
    (h : name = "DISCORD_GUILD_ID" ∨ name = "SLASHMUX_BOT__GUILD_ID") :
    Setting.credentialKeys? name = some Key.guildId.path ∧ Setting.variableKeys? name = none ∨
      Setting.credentialKeys? name = none ∧
        Setting.variableKeys? name = some Key.guildId.path := by
  rcases h with rfl | rfl
  · exact Or.inl ⟨by decide, by decide⟩
  · exact Or.inr ⟨by decide, by decide⟩

/-- A file with nothing else in it gives the guild. -/
theorem AddsGuildId.ofFile {m : Nat} {text : String} {x : Setting} (hwrites : Toml.Writes m text x)
    (hfile : L.file = .table []) :
    L.AddsGuildId (toString m) m { L with file := Setting.nest x Key.guildId.path } := by
  have hx : x = .string (toString m) ∨ x = .integer m ∧ Decimal.fitsSigned m = true := by
    cases hwrites with
    | number hm => exact Or.inr ⟨rfl, hm⟩
    | quoted => exact Or.inl rfl
  refine .inFile hx (Setting.at?_nest_self guildId_keys) fun p hp => ?_
  rw [Setting.at?_nest_beside guildId_keys hp, hfile]
  obtain ⟨front, key, rest, key', -, -, rfl⟩ := hp
  cases front <;> rfl

/-! ### Merging with one source more -/

/-- With a single value put in among settings, all is the same beside the path of the value. -/
theorem sameBeside_stack_insert {P : Setting → Prop} {v : Setting} {key : String}
    {path : List String} {before after : List Setting}
    (hkeys : ∀ k ∈ key :: path, k.isEmpty = false) (hv : v.Canonical)
    (h : ∀ x ∈ before ++ after, x.Canonical ∧ x.Fits P (key :: path)) :
    SameBeside (key :: path) (stack (before ++ after))
      (stack (before ++ Setting.nest v (key :: path) :: after)) := by
  obtain ⟨hbefore, hafter⟩ := List.forall_mem_append.mp h
  have hstack := SameBeside.empty.foldl hbefore
  simp only [stack, List.foldl_append, List.foldl_cons]
  exact (SameBeside.nest hkeys hv hstack.canonical.1 hstack.fits.1).foldl hafter

theorem sameBeside_stack {P : Setting → Prop} {key : String} {path : List String}
    {xs : List Setting} (h : ∀ x ∈ xs, x.Canonical ∧ x.Fits P (key :: path)) :
    SameBeside (key :: path) (stack xs) (stack xs) :=
  SameBeside.empty.foldl h

theorem fits_defaults : defaults.Fits (fun x => ∀ members, x ≠ .table members) Key.guildId.path :=
  (wellTyped_defaults .guildId).mono fun _ h => h.1

/-- Whether a variable is put in or passed over, all is the same beside the path of its value. -/
theorem sameBeside_eachVariable {P : Setting → Prop} {keys? : String → Option (List String)}
    {key : String} {path : List String} {before after : Setting.Variables} (name value : String)
    (hkeys : ∀ k ∈ key :: path, k.isEmpty = false)
    (hname : keys? name = some (key :: path) ∨ keys? name = none)
    (h : ∀ x ∈ Setting.eachVariable keys? (before ++ after), x.Fits P (key :: path)) :
    SameBeside (key :: path) (stack (Setting.eachVariable keys? (before ++ after)))
      (stack (Setting.eachVariable keys? (before ++ (name, value) :: after))) := by
  have hall : ∀ x ∈ Setting.eachVariable keys? (before ++ after),
      x.Canonical ∧ x.Fits P (key :: path) :=
    fun x hx => ⟨Setting.canonical_of_mem_eachVariable x hx, h x hx⟩
  simp only [Setting.eachVariable_append, Setting.eachVariable_cons] at hall ⊢
  rcases hname with hname | hname
  · rw [hname]
    exact sameBeside_stack_insert hkeys (Setting.canonical_ofVariable value) hall
  · rw [hname]
    exact sameBeside_stack hall

/-- A guild given on top of layers changes nothing beside its key. -/
theorem AddsGuildId.sameBeside (h : L.AddsGuildId t n L') (hfile : L.file.Canonical)
    (hfile' : L'.file.Canonical) (hnone : L.GivesNoGuildId) :
    SameBeside Key.guildId.path L.merging L'.merging := by
  obtain ⟨hfileFits, hcredentials, hothers, hset⟩ := forall_mem_sources.mp hnone
  have hset := fun x hx => And.intro (canonical_of_mem_setValues x hx) (hset x hx)
  have hdefaults := SameBeside.refl canonical_defaults fits_defaults
  have hfileSame := SameBeside.refl hfile hfileFits
  have hcredentialsSame := sameBeside_stack fun x hx =>
    And.intro (Setting.canonical_of_mem_eachVariable x hx) (hcredentials x hx)
  have hothersSame := sameBeside_stack fun x hx =>
    And.intro (Setting.canonical_of_mem_eachVariable x hx) (hothers x hx)
  cases h with
  | @inFile x v hv hat hbeside =>
    have hx : SameBeside Key.guildId.path L.file x :=
      ⟨⟨hfile, hfile'⟩, ⟨hfileSame.fits.1, Setting.fits_of_at? hat trivial⟩, hbeside⟩
    exact (((hdefaults.merge hx).merge hcredentialsSame).merge hothersSame).merge
      (sameBeside_stack hset)
  | @inVariable name before after hname henvironment =>
    obtain ⟨file, environment, overrides⟩ := L
    subst henvironment
    have hkeys := keys?_guildId hname
    have hcredentialsAdd := sameBeside_eachVariable name t guildId_keys
      (hkeys.imp And.left And.left) hcredentials
    have hothersAdd := sameBeside_eachVariable name t guildId_keys
      (hkeys.symm.imp And.right And.right) hothers
    exact (((hdefaults.merge hfileSame).merge hcredentialsAdd).merge hothersAdd).merge
      (sameBeside_stack hset)
  | @inOverride j before after hj hoverrides =>
    obtain ⟨file, environment, overrides⟩ := L
    subst hoverrides
    have hsetAdd : SameBeside Key.guildId.path
        (stack (setValues ⟨file, environment, before ++ after⟩))
        (stack (setValues ⟨file, environment, before ++ ("bot.guild_id", j) :: after⟩)) := by
      simp only [setValues, List.map_append, List.map_cons, keys_bot_guild_id] at hset ⊢
      exact sameBeside_stack_insert guildId_keys (Setting.canonical_ofJson j) hset
    exact (((hdefaults.merge hfileSame).merge hcredentialsSame).merge hothersSame).merge hsetAdd

/-- The given guild comes from one source, and the others are as before. -/
theorem AddsGuildId.exists_source (h : L.AddsGuildId t n L') (hvalue : Means t n (.ofVariable t)) :
    ∃ before x after v, L'.sources = before ++ x :: after ∧
      (∀ y ∈ before ++ after, y ∈ L.sources) ∧ x.at? Key.guildId.path = some v ∧
      Means t n v := by
  cases h with
  | @inFile x v hv hat hbeside =>
    have hmeans : Means t n v := hv.imp_right fun ⟨hn, hfits⟩ => ⟨hn, Or.inl hfits⟩
    exact ⟨[], x, _, v, rfl, fun y hy => List.mem_cons_of_mem _ hy, hat, hmeans⟩
  | @inVariable name before after hname henvironment =>
    obtain ⟨file, environment, overrides⟩ := L
    subst henvironment
    have hat := Setting.at?_nest_self (x := .ofVariable t) guildId_keys
    let creds := Setting.eachVariable Setting.credentialKeys?
    let others := Setting.eachVariable Setting.variableKeys?
    let sets := setValues ⟨file, before ++ after, overrides⟩
    rcases keys?_guildId hname with ⟨hcredential, hother⟩ | ⟨hcredential, hother⟩
    · refine ⟨file :: creds before, .nest (.ofVariable t) Key.guildId.path,
        creds after ++ others (before ++ after) ++ sets, .ofVariable t, ?_, ?_, hat, hvalue⟩
      · simp [sources, Setting.eachVariable_append, Setting.eachVariable_cons, hcredential, hother,
          creds, others, sets, setValues]
      · simp [sources, Setting.eachVariable_append, creds, others, sets]
    · refine ⟨file :: creds (before ++ after) ++ others before,
        .nest (.ofVariable t) Key.guildId.path, others after ++ sets, .ofVariable t, ?_, ?_, hat,
        hvalue⟩
      · simp [sources, Setting.eachVariable_append, Setting.eachVariable_cons, hcredential, hother,
          creds, others, sets, setValues]
      · simp [sources, Setting.eachVariable_append, creds, others, sets]
  | @inOverride j before after hj hoverrides =>
    obtain ⟨file, environment, overrides⟩ := L
    subst hoverrides
    have hat := Setting.at?_nest_self (x := .ofJson j) guildId_keys
    have hmeans : Means t n (.ofJson j) := by
      rcases hj with rfl | ⟨rfl, hfits⟩
      · exact Or.inl rfl
      · exact Or.inr ⟨rfl, hfits⟩
    let creds := Setting.eachVariable Setting.credentialKeys? environment
    let others := Setting.eachVariable Setting.variableKeys? environment
    let sets (overrides : List (String × Json)) := setValues ⟨file, environment, overrides⟩
    refine ⟨file :: (creds ++ others ++ sets before), .nest (.ofJson j) Key.guildId.path,
      sets after, .ofJson j, ?_, ?_, hat, hmeans⟩
    · simp [sources, setValues, keys_bot_guild_id, creds, others, sets]
    · simp [sources, setValues, creds, others, sets]

/-- With a guild given, the merged settings have it under its key. -/
theorem AddsGuildId.merging_eq (h : L.AddsGuildId t n L') (hvalue : Means t n (.ofVariable t))
    (hfile : L'.file.Canonical) (hnone : L.GivesNoGuildId) :
    L'.merged = .ok L'.merging ∧ L'.merging.Canonical ∧
      ∃ v, Means t n v ∧ L'.merging.at? Key.guildId.path = some v := by
  obtain ⟨before, x, after, v, hsources, hothers, hat, hmeans⟩ := h.exists_source hvalue
  have hsilent : ∀ y ∈ before ++ after, y.Fits (fun _ => False) Key.guildId.path :=
    fun y hy => hnone y (hothers y hy)
  obtain ⟨hbefore, hafter⟩ := List.forall_mem_append.mp hsilent
  have hfits : ∀ y ∈ L'.sources,
      y.Fits (fun z => ∀ members, z ≠ .table members) Key.guildId.path := by
    rw [hsources, List.forall_mem_append, List.forall_mem_cons]
    exact ⟨fun y hy => (hbefore y hy).mono nofun, Setting.fits_of_at? hat hmeans.ne_table,
      fun y hy => (hafter y hy).mono nofun⟩
  have hlatest : latest L'.sources Key.guildId.path = some v := by
    have hnothing : latest after Key.guildId.path = none := by
      refine Setting.latest_eq_none fun y hy => ?_
      rw [Option.eq_none_iff_forall_ne_some]
      exact fun z hz => (hafter y hy).of_at? hz
    rw [hsources, Setting.latest_append, Setting.latest_cons, hnothing, Option.none_or, hat,
      Option.some_or]
  have hmerging : L'.merging.at? Key.guildId.path =
      (latest L'.sources Key.guildId.path).or (defaults.at? Key.guildId.path) :=
    (merging_of_fits (fun members h => h members rfl) fits_defaults hfile hfits).2
  rw [hlatest, Option.some_or] at hmerging
  exact ⟨merged_eq_ok (forall_mem_sources.mp hfits).2.2.2, canonical_merging hfile, v, hmeans,
    hmerging⟩

end Layers

/-! ## Reading the id -/

/-- Two settings with the same beside the key of the guild are read alike but for the guild. -/
theorem Config.shape_of_sameBeside {x y v : Setting} {c : Config} {id? : Option String}
    (h : SameBeside Key.guildId.path x y) (hx : Config.shape x = .ok c)
    (hat : y.at? Key.guildId.path = some v) (hv : Shape.optional Shape.id v = .ok id?) :
    Config.shape y = .ok { c with bot := { c.bot with guildId := id? } } := by
  have hleadsLogging := Shape.Leads.field Config.hasPart.2 .here
  have hbesideLogging : Beside ["logging"] Key.guildId.path :=
    ⟨[], "bot", ["guild_id"], "logging", rfl, by decide, rfl⟩
  have hbesideToken : Beside Key.token.path Key.guildId.path :=
    ⟨["bot"], "guild_id", [], "token", rfl, by decide, rfl⟩
  have htellsLogging : Shape.Tells LoggingConfig.shape {} c.logging (x.at? ["logging"]) :=
    hleadsLogging.tells hx h.canonical.1 (h.fits.1.beside hbesideLogging)
  have htellsToken : Shape.Tells (Shape.optional Shape.string) none c.bot.token
      (x.at? Key.token.path) := Key.token.leads.tells hx h.canonical.1 (h.fits.1.beside hbesideToken)
  rw [h.same _ hbesideLogging] at htellsLogging
  rw [h.same _ hbesideToken] at htellsToken
  obtain ⟨c', hc'⟩ : Config.shape.Reads y := by
    obtain ⟨members, rfl, hmembers⟩ := Setting.fits_cons_iff.mp h.fits.2
    refine Shape.reads_record (Setting.canonical_table_iff.mp h.canonical.2).1 ?_
    simp only [List.forall_mem_cons, Shape.Slot.key_of]
    refine ⟨fun b hb => Shape.Slot.fills_of ?_, fun w hw => Shape.Slot.fills_of ?_,
      List.forall_mem_nil _⟩
    · obtain ⟨fields, rfl, -⟩ := Setting.fits_cons_iff.mp (hmembers b hb)
      have hfields := h.canonical.2.of_lookup hb
      have hbelow (key : String) :
          (Setting.table members).at? ["bot", key] = (fields.lookup key).bind (·.at? []) := by
        rw [Setting.at?, hb]
        rfl
      refine Shape.reads_record (Setting.canonical_table_iff.mp hfields).1 ?_
      simp only [List.forall_mem_cons, Shape.Slot.key_of]
      refine ⟨fun w hw => Shape.Slot.fills_of ?_, fun w hw => Shape.Slot.fills_of ?_,
        List.forall_mem_nil _⟩
      · rw [Key.path, hbelow, hw] at htellsToken
        exact ⟨_, htellsToken⟩
      · rw [Key.path, hbelow, hw] at hat
        cases hat
        exact ⟨_, hv⟩
    · rw [Setting.at?, hw] at htellsLogging
      exact ⟨_, htellsLogging⟩
  have hlogging : c'.logging = c.logging :=
    (hleadsLogging.tells hc' h.canonical.2 (h.fits.2.beside hbesideLogging)).unique htellsLogging
  have htoken : c'.bot.token = c.bot.token :=
    (Key.token.leads.tells hc' h.canonical.2 (h.fits.2.beside hbesideToken)).unique htellsToken
  have hguild : c'.bot.guildId = id? := by
    have htells := Key.guildId.leads.tells hc' h.canonical.2 h.fits.2
    rw [hat] at htells
    exact htells.unique hv
  obtain ⟨⟨token, guildId⟩, logging⟩ := c'
  obtain rfl : logging = c.logging := hlogging
  obtain rfl : token = c.bot.token := htoken
  obtain rfl : guildId = id? := hguild
  exact hc'

/-! ## Loading -/

theorem Decimal.areDigits_toString (n : Nat) : AreDigits (toString n).toList := by
  rw [← text_natCast, text, String.toList_ofList]
  obtain ⟨hds, -⟩ := natural?_eq_some_iff.mp (natural?_digits n)
  exact hds

/-- A file that is found where there was none, with nothing but the id of a guild in its text, gives
the guild and changes nothing else. -/
theorem Loader.layers_guildFile {l : Loader} {s s' : Surroundings} {L : Layers} {n : Nat}
    {text : String} {x : Setting} (hwrites : Toml.Writes n text x) (hL : l.layers s = .ok L)
    (hnofile : l.fileText s = .ok none) (hfile : l.fileText s' = .ok (some (Toml.guildFile text)))
    (henvironment : s'.environment = s.environment) :
    ∃ L', l.layers s' = .ok L' ∧ L.AddsGuildId (toString n) n L' := by
  obtain ⟨found, hfound, file, hlayer, rfl⟩ := layers_eq_ok_iff.mp hL
  cases hnofile.symm.trans hfound
  cases hlayer
  have hread : fileLayer (some (Toml.guildFile text)) =
      .ok (Setting.nest x Config.Key.guildId.path) := by
    show (Toml.read (Toml.guildFile text)).elim _ _ = _
    rw [Toml.read_guildFile hwrites]
    rfl
  refine ⟨_, layers_eq_ok_iff.mpr ⟨_, hfile, _, hread, rfl⟩, ?_⟩
  rw [henvironment]
  exact .ofFile hwrites rfl

/-- A guild reads the same from every source. Take layers none of which gives a guild, and then one
source more that does: a variable, a file or a value that is set. If the layers without it are loaded
and it gives a natural number, however large, by its digits or as a machine integer, then the layers
with it are loaded as the same configuration with these digits for the guild, which is the scope. If
it gives a negative number in any spelling, no configuration is loaded. -/
theorem Loader.guildId_from_any_source {l l' : Loader} {s s' : Surroundings} {L L' : Layers}
    (hL : l.layers s = .ok L) (hnone : L.GivesNoGuildId) (hL' : l'.layers s' = .ok L') :
    (∀ n : Nat, L.AddsGuildId (toString n) n L' → ∀ c, l.load s = .ok c →
      l'.load s' = .ok { c with bot := { c.bot with guildId := some (toString n) } } ∧
      { c.bot with guildId := some (toString n) : BotConfig }.scope = .guild (toString n)) ∧
    ∀ (t : String) (n : Int), n < 0 → Denotes t.toList n → L.AddsGuildId t n L' →
      ∀ c, l'.load s' ≠ .ok c := by
  have hfile : L.file.Canonical := canonical_of_layers hL
  have hfile' : L'.file.Canonical := canonical_of_layers hL'
  have hmerged : L.merged = .ok L.merging :=
    Layers.merged_eq_ok (Layers.forall_mem_sources.mp hnone).2.2.2
  rw [load_of_layers hL, load_of_layers hL']
  constructor
  · intro n hadds c hload
    obtain ⟨x, hx, hshape, hcheck⟩ := Layers.config_eq_ok_iff.mp hload
    obtain rfl : L.merging = x := Except.ok.inj (hmerged.symm.trans hx)
    obtain ⟨hmerged', -, v, hmeans, hat⟩ :=
      hadds.merging_eq (Setting.means_ofVariable_natCast n) hfile' hnone
    have hread := Config.shape_of_sameBeside (hadds.sameBeside hfile hfile' hnone) hshape hat
      hmeans.id_of_natCast
    obtain ⟨hserviceable, hscope⟩ :=
      (Config.check_eq_ok_iff.mp hcheck).withGuild (Decimal.areDigits_toString n)
    exact ⟨Layers.config_eq_ok_iff.mpr
      ⟨_, hmerged', hread, Config.check_eq_ok_iff.mpr hserviceable⟩, hscope⟩
  · intro t n hn hdenotes hadds c hload
    obtain ⟨x, hx, hshape, hcheck⟩ := Layers.config_eq_ok_iff.mp hload
    obtain ⟨hmerged', hcanonical, v, hmeans, hat⟩ :=
      hadds.merging_eq (Setting.means_ofVariable_of_neg hdenotes hn) hfile' hnone
    obtain rfl : L'.merging = x := Except.ok.inj (hmerged'.symm.trans hx)
    have htells : Shape.Tells (Shape.optional Shape.id) none c.bot.guildId
        (L'.merging.at? Key.guildId.path) :=
      Key.guildId.leads.tells hshape hcanonical
        (Setting.fits_of_at? (P := fun _ => True) hat trivial)
    rw [hat] at htells
    have hid : c.bot.guildId = some t := hmeans.id_of_neg hn htells
    -- The sign is left in the text, and the check finds it there.
    obtain ⟨ds, -, ht⟩ := hdenotes.of_neg hn
    have hbad : c.HasBadGuild t := Config.hasBadGuild_iff.mpr ⟨hid, by rw [ht]; rfl⟩
    rw [Config.check_of_firstViolation (.guild hbad)] at hcheck
    cases hcheck

/-- A number in the text of a file, a string there with a number too large for any machine word, the
same number in a variable, one too large for a signed word only, and a negative number with zeros in
front. -/
theorem Loader.guildId_from_any_source_beyond_words :
    ({} : Loader).load { files := [(["slashmux.toml"], "[bot]\nguild_id = 42\n")] } =
      .ok { bot := { guildId := some "42" } } ∧
    ({} : Loader).load
        { files := [(["slashmux.toml"], "[bot]\nguild_id = \"18446744073709551616\"\n")] } =
      .ok { bot := { guildId := some "18446744073709551616" } } ∧
    ({} : Loader).load { environment := [("DISCORD_GUILD_ID", "18446744073709551616")] } =
      .ok { bot := { guildId := some "18446744073709551616" } } ∧
    ({ overrides := [("bot.guild_id", .number (.integer 9223372036854775808))] } : Loader).load {} =
      .ok { bot := { guildId := some "9223372036854775808" } } ∧
    ∀ c, ({} : Loader).load { environment := [("SLASHMUX_BOT__GUILD_ID", "-007")] } ≠ .ok c := by
  let L : Layers := {}
  have hL : ({} : Loader).layers {} = .ok L := layers_eq_ok_iff.mpr ⟨_, rfl, _, rfl, rfl⟩
  have hnone : L.GivesNoGuildId := List.forall_mem_singleton.mpr Setting.fits_empty_table
  have hload : ({} : Loader).load {} = .ok {} := by decide +kernel
  refine ⟨?_, ?_, ?_, ?_, ?_⟩
  · have hfile : ({} : Loader).fileText
        { files := [(["slashmux.toml"], "[bot]\nguild_id = 42\n")] } =
          .ok (some (Toml.guildFile (toString 42))) := by decide
    obtain ⟨L', hL', hadds⟩ := layers_guildFile (.number (by decide)) hL rfl hfile rfl
    exact ((guildId_from_any_source hL hnone hL').1 42 hadds _ hload).1
  · have hfile : ({} : Loader).fileText
        { files := [(["slashmux.toml"], "[bot]\nguild_id = \"18446744073709551616\"\n")] } =
          .ok (some (Toml.guildFile ("\"" ++ toString 18446744073709551616 ++ "\""))) := by decide
    obtain ⟨L', hL', hadds⟩ := layers_guildFile .quoted hL rfl hfile rfl
    exact ((guildId_from_any_source hL hnone hL').1 18446744073709551616 hadds _ hload).1
  · have hadds := @Layers.AddsGuildId.inVariable L (toString 18446744073709551616)
      18446744073709551616 _ [] [] (Or.inl rfl) rfl
    have hL' : ({} : Loader).layers
        { environment := [("DISCORD_GUILD_ID", "18446744073709551616")] } = .ok _ :=
      layers_eq_ok_iff.mpr ⟨_, rfl, _, rfl, rfl⟩
    exact ((guildId_from_any_source hL hnone hL').1 18446744073709551616 hadds _ hload).1
  · have hadds := @Layers.AddsGuildId.inOverride L (toString 9223372036854775808)
      9223372036854775808 _ [] [] (Or.inr ⟨rfl, by decide⟩) rfl
    have hL' : ({ overrides := [("bot.guild_id", .number (.integer 9223372036854775808))] } :
        Loader).layers {} = .ok _ := layers_eq_ok_iff.mpr ⟨_, rfl, _, rfl, rfl⟩
    exact ((guildId_from_any_source hL hnone hL').1 9223372036854775808 hadds _ hload).1
  · have hadds := @Layers.AddsGuildId.inVariable L "-007" (-7) _ [] [] (Or.inr rfl) rfl
    have hL' : ({} : Loader).layers
        { environment := [("SLASHMUX_BOT__GUILD_ID", "-007")] } = .ok _ :=
      layers_eq_ok_iff.mpr ⟨_, rfl, _, rfl, rfl⟩
    have hdenotes : Denotes "-007".toList (-7) := Decimal.integer?_eq_some_iff.mp (by decide)
    exact (guildId_from_any_source hL hnone hL').2 "-007" (-7) (by decide) hdenotes hadds

end CommandRouter
