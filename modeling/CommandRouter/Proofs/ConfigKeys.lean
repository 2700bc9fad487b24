import CommandRouter.Proofs.RecordShapes

/-!
# The keys of a configuration

At the end of each path of the schema stands a value by itself. A configuration is read off a
setting key by key: what stands at the path of a key decides about this key and about no other.
-/

namespace CommandRouter

/-! ## Paths of a schema -/

namespace Shape

variable {σ τ α : Type} {P : Setting → Prop}

/-- In what has the first shape a path leads to what has the second one, and the function gives that
part of it. -/
inductive Leads : {σ α : Type} → Shape σ → σ → List String → Shape α → (σ → α) → Prop where
  | here {σ : Type} {whole : Shape σ} {default : σ} : Leads whole default [] whole fun v => v
  /-- To a field of a record, and on from there. -/
  | field {σ τ α : Type} {whole : Shape σ} {default : σ} {key : String} {part : Shape τ}
      {get : σ → τ} {path : List String} {shape : Shape α} {rest : τ → α}
      (hpart : whole.HasPart default key part get) (hrest : Leads part (get default) path shape rest) :
      Leads whole default (key :: path) shape (rest ∘ get)
  /-- To a member of a table. -/
  | member {α : Type} {shape : Shape α} (key : String) :
      Leads (table shape) [] [key] (fun x => (shape x).map some) (·.lookup key)

/-- What is read has at the end of a path what is read there. -/
theorem Leads.tells {whole : Shape σ} {default v : σ} {path : List String} {shape : Shape α}
    {get : σ → α} {x : Setting} (h : Leads whole default path shape get) (hread : whole x = .ok v)
    (hcanonical : x.Canonical) (hfits : x.Fits P path) :
    Tells shape (get default) (get v) (x.at? path) := by
  induction h generalizing x with
  | here => exact hread
  | @field _ _ _ _ _ key _ get path _ rest hpart hrest ih =>
    obtain ⟨members, rfl, hfits⟩ := Setting.fits_cons_iff.mp hfits
    have htells := hpart.tells (Setting.canonical_table_iff.mp hcanonical).1 hread
    rw [Setting.at?]
    cases hlookup : members.lookup key with
    | none =>
      rw [hlookup] at htells
      exact congrArg rest htells
    | some y =>
      rw [hlookup] at htells
      exact ih htells (hcanonical.of_lookup hlookup) (hfits y hlookup)
  | member key =>
    obtain ⟨members, rfl, -⟩ := Setting.fits_cons_iff.mp hfits
    rw [Setting.at?]
    have htells := tells_of_table hread key
    cases hlookup : members.lookup key with
    | none => rwa [hlookup] at htells
    | some y => rwa [hlookup] at htells

end Shape

/-! ## Keys -/

namespace Config

/-- A key of the schema, under which a single value stands. -/
inductive Key where
  | token
  | guildId
  | level
  | format
  | output
  | filePath
  | threadIds
  | fileLocation
  | spanNew
  | spanEnter
  | spanExit
  | spanClose
  /-- The level of a single module. -/
  | filter (module : String)
  deriving DecidableEq

namespace Key

/-- The path of the key. -/
def path : Key → List String
  | token => ["bot", "token"]
  | guildId => ["bot", "guild_id"]
  | level => ["logging", "level"]
  | format => ["logging", "format"]
  | output => ["logging", "output"]
  | filePath => ["logging", "file_path"]
  | threadIds => ["logging", "thread_ids"]
  | fileLocation => ["logging", "file_location"]
  | spanNew => ["logging", "span_events", "new"]
  | spanEnter => ["logging", "span_events", "enter"]
  | spanExit => ["logging", "span_events", "exit"]
  | spanClose => ["logging", "span_events", "close"]
  | filter module => ["logging", "filters", module]

/-- What a configuration has under the key. -/
def Value : Key → Type
  | token | guildId | filePath => Option String
  | level => Level
  | format => LogFormat
  | output => LogOutput
  | threadIds | fileLocation | spanNew | spanEnter | spanExit | spanClose => Bool
  | filter _ => Option Level

/-- How the value under the key is read. -/
def shape : (k : Key) → Shape k.Value
  | token | filePath => Shape.optional Shape.string
  | guildId => Shape.optional Shape.id
  | level => Shape.keyword Level.ofName?
  | format => Shape.keyword LogFormat.ofName?
  | output => Shape.keyword LogOutput.ofName?
  | threadIds | fileLocation | spanNew | spanEnter | spanExit | spanClose => Shape.bool
  | filter _ => fun x => (Shape.keyword Level.ofName? x).map some

/-- The value of a configuration under the key. -/
def get : (k : Key) → Config → k.Value
  | token, c => c.bot.token
  | guildId, c => c.bot.guildId
  | level, c => c.logging.level
  | format, c => c.logging.format
  | output, c => c.logging.output
  | filePath, c => c.logging.filePath
  | threadIds, c => c.logging.threadIds
  | fileLocation, c => c.logging.fileLocation
  | spanNew, c => c.logging.spanEvents.new
  | spanEnter, c => c.logging.spanEvents.enter
  | spanExit, c => c.logging.spanEvents.exit
  | spanClose, c => c.logging.spanEvents.close
  | filter module, c => c.logging.filters.lookup module

/-- The setting is a single value, and so no table, that can be read under the key. -/
def Accepts (k : Key) (x : Setting) : Prop := (∀ members, x ≠ .table members) ∧ k.shape.Reads x

/-- The configuration has under the key what is read off the setting; without a setting it has the
default there. -/
def Holds (k : Key) (c : Config) (x? : Option Setting) : Prop :=
  Shape.Tells k.shape (k.get {}) (k.get c) x?

end Key

end Config

namespace Setting

variable {x y : Setting} {key : String} {front : List String} {members : List (String × Setting)}

/-- What a well-typed setting has behind the given keys: where a path of the schema goes on behind
them, there is nothing or a value of the right type. -/
def WellTypedFrom (x : Setting) (front : List String) : Prop :=
  ∀ (k : Config.Key) path, k.path = front ++ path → x.Fits k.Accepts path

/-- Under each key of the schema a setting has nothing or a value of the right type. -/
def WellTyped (x : Setting) : Prop := ∀ k : Config.Key, x.Fits k.Accepts k.path

theorem WellTypedFrom.of_lookup (h : (table members).WellTypedFrom front)
    (hy : members.lookup key = some y) : y.WellTypedFrom (front ++ [key]) := by
  intro k path hpath
  exact h k (key :: path) (by rw [hpath, List.append_assoc]; rfl) y hy

end Setting

open Shape

/-! ## The parts of a configuration -/

theorem Config.hasPart :
    shape.HasPart {} "bot" BotConfig.shape bot ∧
      shape.HasPart {} "logging" LoggingConfig.shape logging := by
  and_intros
  all_goals exact ⟨_, _, rfl, rfl, fun _ _ => rfl, by simp [Slot.keeps_of]⟩

theorem BotConfig.hasPart :
    shape.HasPart {} "token" (optional string) token ∧
      shape.HasPart {} "guild_id" (optional id) guildId := by
  and_intros
  all_goals exact ⟨_, _, rfl, rfl, fun _ _ => rfl, by simp [Slot.keeps_of]⟩

theorem SpanEvents.hasPart :
    shape.HasPart {} "new" bool new ∧ shape.HasPart {} "enter" bool enter ∧
      shape.HasPart {} "exit" bool exit ∧ shape.HasPart {} "close" bool close := by
  and_intros
  all_goals exact ⟨_, _, rfl, rfl, fun _ _ => rfl, by simp [Slot.keeps_of]⟩

theorem LoggingConfig.hasPart :
    shape.HasPart {} "level" (keyword Level.ofName?) level ∧
      shape.HasPart {} "format" (keyword LogFormat.ofName?) format ∧
      shape.HasPart {} "output" (keyword LogOutput.ofName?) output ∧
      shape.HasPart {} "file_path" (optional string) filePath ∧
      shape.HasPart {} "thread_ids" bool threadIds ∧
      shape.HasPart {} "file_location" bool fileLocation ∧
      shape.HasPart {} "span_events" SpanEvents.shape spanEvents ∧
      shape.HasPart {} "filters" (table (keyword Level.ofName?)) filters := by
  and_intros
  all_goals exact ⟨_, _, rfl, rfl, fun _ _ => rfl, by simp [Slot.keeps_of]⟩

/-- The path of a key leads to its value. -/
theorem Config.Key.leads (k : Key) : Leads Config.shape {} k.path k.shape k.get := by
  obtain ⟨hbot, hlogging⟩ := Config.hasPart
  obtain ⟨htoken, hguildId⟩ := BotConfig.hasPart
  obtain ⟨hlevel, hformat, houtput, hfilePath, hthreadIds, hfileLocation, hspanEvents, hfilters⟩ :=
    LoggingConfig.hasPart
  obtain ⟨hnew, henter, hexit, hclose⟩ := SpanEvents.hasPart
  cases k with
  | token => exact .field hbot (.field htoken .here)
  | guildId => exact .field hbot (.field hguildId .here)
  | level => exact .field hlogging (.field hlevel .here)
  | format => exact .field hlogging (.field hformat .here)
  | output => exact .field hlogging (.field houtput .here)
  | filePath => exact .field hlogging (.field hfilePath .here)
  | threadIds => exact .field hlogging (.field hthreadIds .here)
  | fileLocation => exact .field hlogging (.field hfileLocation .here)
  | spanNew => exact .field hlogging (.field hspanEvents (.field hnew .here))
  | spanEnter => exact .field hlogging (.field hspanEvents (.field henter .here))
  | spanExit => exact .field hlogging (.field hspanEvents (.field hexit .here))
  | spanClose => exact .field hlogging (.field hspanEvents (.field hclose .here))
  | filter module =>
    have hleads := Leads.field hlogging (.field hfilters (.member module))
    exact hleads

/-! ## Reading a configuration -/

variable {x : Setting}

end CommandRouter
