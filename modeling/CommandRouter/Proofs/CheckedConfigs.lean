import CommandRouter.Logging.Trial
import CommandRouter.Proofs.Loading
import CommandRouter.Proofs.Numerals

/-!
# Configurations that work

A configuration works if its scope is everywhere or a guild with a numeric id, and if logging can be
set up as it says, without falling back on another output or another layout. The check of a
configuration finds out exactly this, so that whatever is loaded works, and what is read but not
loaded does not work for the reason that the error gives.
-/

namespace CommandRouter

open Decimal (AreDigits)

namespace Config

/-- The set-up of logging that the configuration describes. -/
def logSetup (c : Config) : LogSetup := .ofConfig c.logging

/-- The configuration works. -/
structure Serviceable (c : Config) : Prop where
  scope : c.bot.scope = .everywhere ∨ ∃ id, c.bot.scope = .guild id ∧ AreDigits id.toList
  path : c.logSetup.lacksPath = false
  format : c.logSetup.lacksFormat = false

/-- The scope is a guild whose id is not numeric. -/
def HasBadGuild (c : Config) (id : String) : Prop :=
  c.bot.scope = .guild id ∧ ¬ AreDigits id.toList

/-- The first reason for which a configuration does not work. -/
inductive FirstViolation (c : Config) : ConfigError → Prop where
  | guild {id : String} (h : c.HasBadGuild id) : FirstViolation c (.guildIdNotNumeric id)
  | path (hguild : ∀ id, ¬ c.HasBadGuild id) (h : c.logSetup.lacksPath = true) :
      FirstViolation c (.missing "logging.file_path")
  | format (hguild : ∀ id, ¬ c.HasBadGuild id) (hpath : c.logSetup.lacksPath = false)
      (h : c.logSetup.lacksFormat = true) : FirstViolation c (.formatUnavailable .json)

variable {c : Config} {e : ConfigError} {id : String}

/-! ## What the check looks at -/

theorem scope_eq_guild_iff {b : BotConfig} :
    b.scope = .guild id ↔ b.guildId = some id ∧ id ≠ "" := by
  unfold BotConfig.scope Scope.ofGuild?
  cases b.guildId with
  | none => simp
  | some id' =>
    by_cases hempty : id'.isEmpty = true
    · have hid' : id' = "" := String.isEmpty_iff.mp hempty
      simp only [if_pos hempty, reduceCtorEq, Option.some.injEq, false_iff, not_and, not_not]
      rintro rfl
      exact hid'
    · have hid' : id' ≠ "" := fun h => hempty (String.isEmpty_iff.mpr h)
      simp only [if_neg hempty, Scope.guild.injEq, Option.some.injEq]
      constructor
      · rintro rfl
        exact ⟨rfl, hid'⟩
      · exact fun h => h.1

theorem areDigits_toList_iff : AreDigits id.toList ↔ id ≠ "" ∧ id.toList.all Char.isDigit = true := by
  rw [Decimal.areDigits_iff, Bool.and_eq_true, Bool.not_eq_true', List.isEmpty_eq_false_iff,
    ne_eq, String.toList_eq_nil_iff]

/-- An empty id passes for numeric, but it is no guild. -/
theorem hasBadGuild_iff :
    c.HasBadGuild id ↔ c.bot.guildId = some id ∧ id.toList.all Char.isDigit = false := by
  rw [HasBadGuild, scope_eq_guild_iff, areDigits_toList_iff]
  constructor
  · rintro ⟨⟨hid, hne⟩, hdigits⟩
    exact ⟨hid, Bool.eq_false_iff.mpr fun h => hdigits ⟨hne, h⟩⟩
  · rintro ⟨hid, hdigits⟩
    refine ⟨⟨hid, ?_⟩, fun h => ?_⟩
    · rintro rfl
      cases hdigits
    · rw [h.2] at hdigits
      cases hdigits

theorem lacksPath_eq_true_iff : c.logSetup.lacksPath = true ↔
    c.logging.output = .file ∧ c.logging.filePath = none := by
  simp [logSetup, LogSetup.lacksPath, LogSetup.ofConfig]

theorem lacksFormat_eq_true_iff : c.logSetup.lacksFormat = true ↔ c.logging.format = .json := by
  simp [logSetup, LogSetup.lacksFormat, LogSetup.ofConfig]

/-! ## The check -/

/-- Past the guild, the check looks at the output and then at the layout. -/
theorem check_of_goodGuild (hguild : ∀ id, ¬ c.HasBadGuild id) : c.check =
    if c.logSetup.lacksPath then .error (.missing "logging.file_path")
    else if c.logSetup.lacksFormat then .error (.formatUnavailable .json) else .ok () := by
  simp only [lacksPath_eq_true_iff, lacksFormat_eq_true_iff]
  have hdigits : ∀ id, c.bot.guildId = some id → id.toList.all Char.isDigit = true := by
    intro id hid
    by_contra hnot
    exact hguild id (hasBadGuild_iff.mpr ⟨hid, Bool.eq_false_iff.mpr hnot⟩)
  unfold check
  cases hid : c.bot.guildId with
  | none => simp [throw, throwThe, MonadExceptOf.throw, bind, Except.bind, pure, Except.pure]
  | some id =>
    simp [hdigits id hid, throw, throwThe, MonadExceptOf.throw, bind, Except.bind, pure,
      Except.pure]

theorem check_of_firstViolation (h : c.FirstViolation e) : c.check = .error e := by
  cases h with
  | @guild id hguild =>
    obtain ⟨hid, hdigits⟩ := hasBadGuild_iff.mp hguild
    simp [check, hid, hdigits, throw, throwThe, MonadExceptOf.throw, bind, Except.bind]
  | path hguild hpath => rw [check_of_goodGuild hguild, if_pos hpath]
  | format hguild hpath hformat =>
    rw [check_of_goodGuild hguild, if_neg (ne_true_of_eq_false hpath), if_pos hformat]

theorem check_of_serviceable (h : c.Serviceable) : c.check = .ok () := by
  have hguild : ∀ id, ¬ c.HasBadGuild id := by
    rintro id ⟨hscope, hdigits⟩
    rcases h.scope with heverywhere | ⟨id', hid', hdigits'⟩
    · rw [heverywhere] at hscope
      cases hscope
    · rw [hid'] at hscope
      cases hscope
      exact hdigits hdigits'
  rw [check_of_goodGuild hguild, if_neg (ne_true_of_eq_false h.path),
    if_neg (ne_true_of_eq_false h.format)]

/-- A configuration works, or there is a first reason for which it does not. -/
theorem serviceable_or_firstViolation (c : Config) : c.Serviceable ∨ ∃ e, c.FirstViolation e := by
  by_cases hguild : ∃ id, c.HasBadGuild id
  · obtain ⟨id, hid⟩ := hguild
    exact Or.inr ⟨_, .guild hid⟩
  have hguild : ∀ id, ¬ c.HasBadGuild id := fun id hid => hguild ⟨id, hid⟩
  cases hpath : c.logSetup.lacksPath with
  | true => exact Or.inr ⟨_, .path hguild hpath⟩
  | false =>
    cases hformat : c.logSetup.lacksFormat with
    | true => exact Or.inr ⟨_, .format hguild hpath hformat⟩
    | false =>
      refine Or.inl ⟨?_, hpath, hformat⟩
      cases hscope : c.bot.scope with
      | everywhere => exact Or.inl rfl
      | guild id =>
        refine Or.inr ⟨id, rfl, ?_⟩
        by_contra hdigits
        exact hguild id ⟨hscope, hdigits⟩

theorem check_eq_ok_iff : c.check = .ok () ↔ c.Serviceable := by
  refine ⟨fun h => ?_, check_of_serviceable⟩
  rcases serviceable_or_firstViolation c with hc | ⟨e, he⟩
  · exact hc
  · rw [check_of_firstViolation he] at h
    cases h

theorem check_eq_error_iff : c.check = .error e ↔ c.FirstViolation e := by
  refine ⟨fun h => ?_, check_of_firstViolation⟩
  rcases serviceable_or_firstViolation c with hc | ⟨e', he'⟩
  · rw [check_of_serviceable hc] at h
    cases h
  · rw [check_of_firstViolation he'] at h
    cases h
    exact he'

/-- With a numeric id in place of its guild a configuration still works. -/
theorem Serviceable.withGuild (h : c.Serviceable) (hid : AreDigits id.toList) :
    { c with bot := { c.bot with guildId := some id } : Config }.Serviceable ∧
      { c.bot with guildId := some id : BotConfig }.scope = .guild id := by
  have hscope : { c.bot with guildId := some id : BotConfig }.scope = .guild id :=
    scope_eq_guild_iff.mpr ⟨rfl, (areDigits_toList_iff.mp hid).1⟩
  exact ⟨⟨Or.inr ⟨id, hscope, hid⟩, h.path, h.format⟩, hscope⟩

/-! ## Logging as asked for -/

theorem Serviceable.destination (h : c.Serviceable) (hfile : c.logging.output = .file) :
    ∃ path, c.logging.filePath = some path ∧ c.logSetup.destination = .file path := by
  cases hpath : c.logging.filePath with
  | none =>
    have hlacks := h.path
    rw [lacksPath_eq_true_iff.mpr ⟨hfile, hpath⟩] at hlacks
    cases hlacks
  | some path =>
    refine ⟨path, rfl, ?_⟩
    simp [logSetup, LogSetup.destination, LogSetup.ofConfig, hfile, hpath]

/-- No line says that the path of the file is missing. -/
theorem Serviceable.fallbackWarning (h : c.Serviceable) (environment : Option String) :
    let findings := LogTrial.run c.logSetup environment
    findings.stdout.fallbackWarning = false ∧ findings.stderr.fallbackWarning = false ∧
      findings.file.fallbackWarning = false := by
  have hlines (f : LogFilter) : (LogTrial.lines c.logSetup f).fallbackWarning = false := by
    simp [LogTrial.lines, h.path]
  simp only [LogTrial.run, LogTrial.complaints]
  and_intros
  all_goals
    split
    · exact hlines _
    · rfl

end Config

/-- Whatever the sources give: a configuration that is loaded works. Its scope is everywhere or a
guild with a numeric id, its lines go to the file if they are to go to a file, and nothing is logged
about a missing path. If the merged settings are read as a configuration, then it is loaded exactly
if it works, and refused with an error exactly if the error gives the first reason for which it does
not. -/
theorem Loader.load_serviceable (l : Loader) (s : Surroundings) :
    (∀ c, l.load s = .ok c → c.Serviceable ∧
      (c.logging.output = .file →
        ∃ path, c.logging.filePath = some path ∧ c.logSetup.destination = .file path) ∧
      ∀ environment, let findings := LogTrial.run c.logSetup environment
        findings.stdout.fallbackWarning = false ∧ findings.stderr.fallbackWarning = false ∧
          findings.file.fallbackWarning = false) ∧
    ∀ L x c, l.layers s = .ok L → L.merged = .ok x → Config.shape x = .ok c →
      (l.load s = .ok c ↔ c.Serviceable) ∧ ∀ e, l.load s = .error e ↔ c.FirstViolation e := by
  constructor
  · intro c hload
    obtain ⟨L, -, hconfig⟩ := bind_eq_ok_iff.mp hload
    obtain ⟨x, -, -, hcheck⟩ := Layers.config_eq_ok_iff.mp hconfig
    have hc : c.Serviceable := Config.check_eq_ok_iff.mp hcheck
    exact ⟨hc, hc.destination, hc.fallbackWarning⟩
  · intro L x c hL hx hc
    rw [load_of_layers hL, Layers.config_of_shape hx hc]
    constructor
    · rw [map_eq_ok_iff, ← Config.check_eq_ok_iff]
      exact ⟨fun ⟨_, h, _⟩ => h, fun h => ⟨(), h, rfl⟩⟩
    · intro e
      rw [← Config.check_eq_error_iff]
      cases c.check <;> simp [Except.map]

/-- An id that is not numeric is found before the missing path is, and with a path and a numeric id
the lines go to the file. -/
theorem Loader.load_serviceable_file :
    ({ overrides := [("bot.guild_id", .string "12x"), ("logging.output", .string "file")] } :
        Loader).load {} = .error (.guildIdNotNumeric "12x") ∧
      ∃ c, ({ overrides := [("bot.guild_id", .number (.integer 42)),
          ("logging.output", .string "file"), ("logging.file_path", .string "bot.log")] } :
            Loader).load {} = .ok c ∧
        c.Serviceable ∧ c.logSetup.destination = .file "bot.log" := by
  constructor
  · let L : Layers := ⟨.table [], [],
      [("bot.guild_id", .string "12x"), ("logging.output", .string "file")]⟩
    have hL : ({ overrides := L.overrides } : Loader).layers {} = .ok L :=
      layers_eq_ok_iff.mpr ⟨_, rfl, _, rfl, rfl⟩
    have hset : L.setValues = [.nest (.string "12x") (Config.Key.path .guildId),
        .nest (.string "file") (Config.Key.path .output)] := rfl
    have htables : ∀ x ∈ L.setValues, x.Fits (fun _ => True) ["logging"] := by
      rw [hset, List.forall_mem_cons, List.forall_mem_singleton]
      exact ⟨fun _ _ => trivial, fun _ _ => trivial⟩
    have hshape : Config.shape L.merging =
        .ok { bot := { guildId := some "12x" }, logging := { output := .file } } := by
      decide +kernel
    have hbad : Config.HasBadGuild
        { bot := { guildId := some "12x" }, logging := { output := .file } } "12x" :=
      Config.hasBadGuild_iff.mpr ⟨rfl, by decide⟩
    exact (((load_serviceable _ _).2 L L.merging _ hL (Layers.merged_eq_ok htables) hshape).2 _).mpr
      (.guild hbad)
  · have hload : ({ overrides := [("bot.guild_id", .number (.integer 42)),
        ("logging.output", .string "file"), ("logging.file_path", .string "bot.log")] } :
          Loader).load {} = .ok { bot := { guildId := some "42" }, logging :=
            { output := .file, filePath := some "bot.log" } } := by decide +kernel
    obtain ⟨hc, hdestination, -⟩ := (load_serviceable _ _).1 _ hload
    obtain ⟨path, hpath, hfile⟩ := hdestination rfl
    cases hpath
    exact ⟨_, hload, hc, hfile⟩

end CommandRouter
