import CommandRouter.Config.Loader
import CommandRouter.Proofs.ConfigKeys

/-!
# Configurations from several sources

A configuration is loaded from a file, two kinds of variables and values that are set. Each key of
it has the value that the highest of the sources gives that has any, whatever the sources give for
other keys. The file is the first one that a search finds.
-/

namespace CommandRouter

open Setting (latest)

/-! ## Sources -/

/-- The settings that variables stand for, one for each variable whose name gives keys. -/
def Setting.eachVariable (keys? : String → Option (List String)) (env : Variables) : List Setting :=
  env.filterMap fun (name, value) => (keys? name).map (nest (ofVariable value))

theorem Setting.ofVariables_eq_foldl (keys? : String → Option (List String)) (env : Variables) :
    ofVariables keys? env = (eachVariable keys? env).foldl merge (.table []) := by
  rw [ofVariables, eachVariable, List.foldl_filterMap]
  congr 1
  funext below (name, value)
  simp only
  cases keys? name <;> rfl

theorem Setting.eachVariable_append (keys? : String → Option (List String))
    (env more : Variables) :
    eachVariable keys? (env ++ more) = eachVariable keys? env ++ eachVariable keys? more :=
  List.filterMap_append

theorem Setting.eachVariable_cons (keys? : String → Option (List String)) (name value : String)
    (env : Variables) : eachVariable keys? ((name, value) :: env) =
      ((keys? name).map (nest (ofVariable value))).toList ++ eachVariable keys? env := by
  simp only [eachVariable, List.filterMap_cons]
  cases keys? name <;> rfl

theorem Setting.canonical_of_mem_eachVariable {keys? : String → Option (List String)}
    {env : Variables} : ∀ x ∈ eachVariable keys? env, x.Canonical := by
  intro x hx
  obtain ⟨⟨name, value⟩, -, hx⟩ := List.mem_filterMap.mp hx
  obtain ⟨keys, -, rfl⟩ := Option.map_eq_some_iff.mp hx
  exact (canonical_ofVariable value).nest keys

namespace Layers

variable {l : Layers} {x : Setting}

/-- The values that are set as settings, one for each value. -/
def setValues (l : Layers) : List Setting :=
  l.overrides.map fun (key, value) => .nest (.ofJson value) (Setting.keys key)

/-- All settings that are given, the lowest first: the file, the credentials among the variables,
the other variables, and the values that are set. -/
def sources (l : Layers) : List Setting :=
  l.file :: (Setting.eachVariable Setting.credentialKeys? l.environment ++
    Setting.eachVariable Setting.variableKeys? l.environment ++ l.setValues)

theorem canonical_of_mem_setValues : ∀ x ∈ l.setValues, x.Canonical :=
  List.forall_mem_map.mpr fun (_, value) _ => (Setting.canonical_ofJson value).nest _

theorem override_eq_ok {key : String} {value : Json} {members : List (String × Setting)}
    (h : Setting.nest (.ofJson value) (Setting.keys key) = .table members) :
    override key value = .ok (Setting.nest (.ofJson value) (Setting.keys key)) := by
  rw [override, h]

theorem overridden_eq_ok (h : ∀ x ∈ l.setValues, ∃ members, x = .table members) :
    overridden l.overrides = .ok (l.setValues.foldl Setting.merge (.table [])) := by
  unfold overridden
  unfold setValues at h ⊢
  generalize Setting.table [] = below
  generalize l.overrides = overrides at h ⊢
  induction overrides generalizing below with
  | nil => rfl
  | cons set overrides ih =>
    obtain ⟨⟨members, hset⟩, hrest⟩ := List.forall_mem_cons.mp h
    rw [List.foldlM_cons, List.map_cons, List.foldl_cons, ← ih _ hrest]
    simp only [override_eq_ok hset]
    rfl

/-! ## The defaults -/

theorem defaults_eq : defaults =
    .table [("bot", .table [("guild_id", .empty), ("token", .empty)]),
      ("logging", .table [("file_location", .bool false), ("file_path", .empty),
        ("filters", .table []), ("format", .string "compact"), ("level", .string "info"),
        ("output", .string "stdout"),
        ("span_events", .table [("close", .bool false), ("enter", .bool false),
          ("exit", .bool false), ("new", .bool false)]),
        ("thread_ids", .bool false)])] := rfl

theorem canonical_defaults : defaults.Canonical := Setting.canonical_ofJson _

theorem wellTyped_defaults : defaults.WellTyped := by
  -- On the way to a key stand tables, and at its end a value, or no level for any module.
  rw [defaults_eq]
  intro k
  cases k with
  | filter module => rintro _ ⟨⟩ _ ⟨⟩ _ ⟨⟩
  | spanNew | spanEnter | spanExit | spanClose =>
    rintro _ ⟨⟩ _ ⟨⟩ _ ⟨⟩
    exact ⟨nofun, _, rfl⟩
  | _ =>
    rintro _ ⟨⟩ _ ⟨⟩
    exact ⟨nofun, _, rfl⟩

/-- Settings laid over one another, from nothing. -/
def stack (xs : List Setting) : Setting := xs.foldl Setting.merge (.table [])

theorem canonical_stack {xs : List Setting} (h : ∀ x ∈ xs, x.Canonical) : (stack xs).Canonical :=
  Setting.canonical_foldl_merge (.ordered .nil (List.forall_mem_nil _)) h

theorem stack_of_fits {xs : List Setting} {P : Setting → Prop} {key : String} {path : List String}
    (hP : ∀ members, ¬P (.table members)) (hcanonical : ∀ x ∈ xs, x.Canonical)
    (h : ∀ x ∈ xs, x.Fits P (key :: path)) :
    (stack xs).Fits P (key :: path) ∧ (stack xs).at? (key :: path) = latest xs (key :: path) := by
  obtain ⟨hfits, hat⟩ :=
    Setting.foldl_merge_of_fits hP Setting.fits_empty_table hcanonical h
  exact ⟨hfits, hat.trans Option.or_none⟩

/-- The defaults with the settings of all sources laid over them. -/
def merging (l : Layers) : Setting :=
  [l.file, stack (Setting.eachVariable Setting.credentialKeys? l.environment),
    stack (Setting.eachVariable Setting.variableKeys? l.environment),
    stack l.setValues].foldl Setting.merge defaults

/-- The layers over the defaults are in order if the file is. -/
theorem canonical_layers (hfile : l.file.Canonical) :
    ∀ x ∈ [l.file, stack (Setting.eachVariable Setting.credentialKeys? l.environment),
      stack (Setting.eachVariable Setting.variableKeys? l.environment), stack l.setValues],
      x.Canonical := by
  simp only [List.forall_mem_cons]
  exact ⟨hfile, canonical_stack Setting.canonical_of_mem_eachVariable,
    canonical_stack Setting.canonical_of_mem_eachVariable,
    canonical_stack canonical_of_mem_setValues, nofun⟩

theorem canonical_merging (hfile : l.file.Canonical) : l.merging.Canonical :=
  Setting.canonical_foldl_merge canonical_defaults (canonical_layers hfile)

theorem merged_eq_ok {P : Setting → Prop} {key : String} {path : List String}
    (h : ∀ x ∈ l.setValues, x.Fits P (key :: path)) : l.merged = .ok l.merging := by
  have htables : ∀ x ∈ l.setValues, ∃ members, x = .table members := by
    intro x hx
    obtain ⟨members, rfl, -⟩ := Setting.fits_cons_iff.mp (h x hx)
    exact ⟨members, rfl⟩
  rw [merged, overridden_eq_ok htables, Setting.ofVariables_eq_foldl, Setting.ofVariables_eq_foldl]
  rfl

theorem forall_mem_sources {Q : Setting → Prop} : (∀ x ∈ l.sources, Q x) ↔ Q l.file ∧
    (∀ x ∈ Setting.eachVariable Setting.credentialKeys? l.environment, Q x) ∧
    (∀ x ∈ Setting.eachVariable Setting.variableKeys? l.environment, Q x) ∧
    ∀ x ∈ l.setValues, Q x := by
  simp only [sources, List.forall_mem_cons, List.forall_mem_append, and_assoc]

/-- Where all sources have single values at the end of a path, the merged settings have there what
the highest source has that has any. -/
theorem merging_of_fits {P : Setting → Prop} {key : String} {path : List String}
    (hP : ∀ members, ¬P (.table members)) (hdefaults : defaults.Fits P (key :: path))
    (hfile : l.file.Canonical) (h : ∀ x ∈ l.sources, x.Fits P (key :: path)) :
    l.merging.Fits P (key :: path) ∧ l.merging.at? (key :: path) =
      (latest l.sources (key :: path)).or (defaults.at? (key :: path)) := by
  obtain ⟨hfileFits, hcredentials, hothers, hset⟩ := forall_mem_sources.mp h
  obtain ⟨hcredentialsFit, hcredentialsAt⟩ :=
    stack_of_fits hP Setting.canonical_of_mem_eachVariable hcredentials
  obtain ⟨hothersFit, hothersAt⟩ :=
    stack_of_fits hP Setting.canonical_of_mem_eachVariable hothers
  obtain ⟨hsetFit, hsetAt⟩ := stack_of_fits hP canonical_of_mem_setValues hset
  obtain ⟨hfits, hat⟩ := Setting.foldl_merge_of_fits hP hdefaults (canonical_layers hfile) (by
    simp only [List.forall_mem_cons]
    exact ⟨hfileFits, hcredentialsFit, hothersFit, hsetFit, nofun⟩)
  refine ⟨hfits, hat.trans ?_⟩
  simp only [sources, Setting.latest_cons, Setting.latest_append, Setting.latest_nil,
    hcredentialsAt, hothersAt, hsetAt, Option.none_or, Option.or_assoc]

/-- What is read off the merged settings is checked. -/
theorem config_of_shape {x : Setting} {c : Config} (hx : l.merged = .ok x)
    (hc : Config.shape x = .ok c) : l.config = c.check.map fun _ => c := by
  rw [config, hx]
  show ((Config.shape x).mapError ConfigError.misfit >>= fun c => do c.check; return c) = _
  rw [hc]
  show (do c.check; return c) = _
  cases c.check <;> rfl

theorem config_eq_ok_iff {c : Config} : l.config = .ok c ↔
    ∃ x, l.merged = .ok x ∧ Config.shape x = .ok c ∧ c.check = .ok () := by
  constructor
  · intro h
    obtain ⟨x, hx, hread⟩ := bind_eq_ok_iff.mp h
    obtain ⟨c', hc', hrest⟩ := bind_eq_ok_iff.mp hread
    obtain ⟨⟨⟩, hcheck, hreturn⟩ := bind_eq_ok_iff.mp hrest
    obtain rfl := pure_eq_ok_iff.mp hreturn
    exact ⟨x, hx, mapError_eq_ok_iff.mp hc', hcheck⟩
  · rintro ⟨x, hx, hc, hcheck⟩
    rw [config_of_shape hx hc, hcheck]
    rfl

end Layers

/-! ## Files -/

namespace Loader

variable {l : Loader} {s : Surroundings} {L : Layers}

/-- The layer of a file with the given text; it is empty without a text. -/
def fileLayer (text : Option String) : Except ConfigError Setting :=
  (text.map settings).getD (.ok (.table []))

/-- The text of the file: of the one that the caller names, or else of the one that is found. -/
def fileText (l : Loader) (s : Surroundings) : Except ConfigError (Option String) :=
  match l.file with
  | some path => namedFile s path
  | none => .ok (l.foundFile s)

theorem layers_eq_ok_iff : l.layers s = .ok L ↔
    ∃ text, l.fileText s = .ok text ∧ ∃ file, fileLayer text = .ok file ∧
      ⟨file, if l.withoutVariables then [] else s.environment, l.overrides⟩ = L := by
  have hlayers : l.layers s = l.fileText s >>= fun text => fileLayer text >>= fun file =>
      pure ⟨file, if l.withoutVariables then [] else s.environment, l.overrides⟩ := by
    unfold layers fileText
    cases l.file <;> rfl
  simp only [hlayers, bind_eq_ok_iff, pure_eq_ok_iff]

theorem canonical_of_fileLayer {text : Option String} {file : Setting}
    (h : fileLayer text = .ok file) : file.Canonical := by
  cases text with
  | none =>
    cases h
    exact .ordered .nil (List.forall_mem_nil _)
  | some text =>
    unfold fileLayer settings at h
    simp only [Option.map_some, Option.getD_some] at h
    cases hread : Toml.read text with
    | none => rw [hread] at h; cases h
    | some x =>
      rw [hread] at h
      cases h
      exact Toml.canonical_read hread

theorem canonical_of_layers (h : l.layers s = .ok L) : L.file.Canonical := by
  obtain ⟨text, -, file, hfile, rfl⟩ := layers_eq_ok_iff.mp h
  exact canonical_of_fileLayer hfile

theorem load_of_layers (h : l.layers s = .ok L) : l.load s = L.config := by
  rw [load, h]
  rfl

end Loader

end CommandRouter
