import CommandRouter.Interaction.Wire
import CommandRouter.Proofs.DispatchKeys
import CommandRouter.Proofs.PatternRoundTrip
import CommandRouter.Proofs.Records

/-!
# Invocations

The platform invokes the command of a pattern by sending the values below the path of the pattern.
From such an invocation the bot reads off the key of the pattern and the values, and it does so as
well when the invocation was written as JSON and read back.
-/

namespace CommandRouter

/-! ## Kinds -/

theorem OptionType.restores (t : OptionType) : codec.Restores t :=
  Codec.restores_coded (by cases t <;> decide) (ofCode?_code t)

theorem CommandType.restores (t : CommandType) : codec.Restores t :=
  Codec.restores_coded (by cases t <;> decide) (by cases t <;> rfl)

/-! ## Options -/

namespace DataOption

/-- Nothing of the option is lost in writing: its value is canonical, as all free data is, and is
not null, which would be read back as an absent one; and so are the options below it. -/
inductive Lasting : DataOption → Prop where
  | intro {o : DataOption} (hvalue : ∀ j, o.value = some j → j ≠ .null ∧ j.Canonical)
      (hoptions : ∀ child ∈ o.options, Lasting child) : Lasting o

/-- The values of the fields of an option. -/
def row (o : DataOption) : Row DataOption := (o.name, o.kind, o.value, o.options, o.focused, ())

variable {o child : DataOption} {n : Nat}

theorem ofRow_row (o : DataOption) : ofRow o.row = o := by
  cases o
  rfl

theorem encodeAll_eq_map (os : List DataOption) : encodeAll os = os.map encode := by
  induction os with
  | nil => rfl
  | cons o os ih => rw [encodeAll, ih, List.map_cons]

/-- However the options below it are read, an option is written as the record of its fields. -/
theorem encode_eq (d : Decoder DataOption) (o : DataOption) :
    o.encode = (fields ⟨d, encode⟩).encode o.row := by
  obtain ⟨name, kind, value, options, focused⟩ := o
  rw [encode, encodeAll_eq_map]
  cases options <;>
    simp [row, fields, Fields.encode, Fields.members, Field.list, Codec.list, Codec.json]

/-- The options below an option lie two levels down. -/
theorem depth_of_mem_options (hchild : child ∈ o.options) (hdepth : o.encode.document.depth ≤ n) :
    child.encode.document.depth + 2 ≤ n := by
  have hsome : o.options.isEmpty = false :=
    List.isEmpty_eq_false_iff.mpr (List.ne_nil_of_mem hchild)
  have hwritten : ("options", Json.array (o.options.map encode)) ∈ (fields codec).members o.row :=
    Fields.mem_members_of_mem <| Fields.mem_members_of_mem <| Fields.mem_members_of_mem <|
      Fields.mem_members_of_written hsome
  rw [encode_eq decode] at hdepth
  exact Fields.depth_of_mem_items hwritten (List.mem_map_of_mem hchild) hdepth

theorem nodup_names {χ : Type} (c : Codec χ) : (fields c).names.Nodup := by
  show ["name", "type", "value", "options", "focused"].Nodup
  decide

/-- The fields of an option are restored if the options below it are. -/
theorem restores_row {d : Decoder DataOption}
    (hvalue : ∀ j, o.value = some j → j ≠ .null ∧ j.Canonical)
    (hoptions : ∀ child ∈ o.options, (Codec.mk d encode).Restores child) :
    (fields ⟨d, encode⟩).Restores o.row := by
  refine ⟨Field.restores_required (Codec.restores_string o.name),
    Field.restores_required o.kind.restores, Field.restores_optional fun j hj => ?_,
    Field.restores_list hoptions, Field.restores_flag o.focused, trivial⟩
  obtain ⟨hnull, hcanonical⟩ := hvalue j hj
  refine ⟨?_, Codec.restores_json hcanonical⟩
  cases j <;> first | contradiction | exact nofun

/-- An option of which nothing is lost is read back as it was written. -/
theorem restores (h : o.Lasting) : codec.Restores o := by
  refine Codec.restores_of_descent
    (fun d n doc => ((fields ⟨d, encode⟩).decode n doc).map ofRow) (fun n doc hn => ?_)
    (fun n doc => rfl) (fun o n hdepth child hchild => depth_of_mem_options hchild hdepth)
    ?_ ?_ h
  · match n, hn with
    | 0, _ | 1, _ => rfl
  · rintro o ⟨-, hoptions⟩
    exact hoptions
  · rintro o ⟨hvalue, -⟩ d hoptions
    exact Fields.restores_record (f := fun xs => .ok (ofRow xs)) (nodup_names _) (encode_eq d o)
      (congrArg Except.ok o.ofRow_row) (restores_row hvalue hoptions)

end DataOption

/-! ## Commands -/

namespace CommandData

/-- The data of a command are restored if the options are. -/
theorem restores {d : CommandData} (h : ∀ o ∈ d.options, o.Lasting) : codec.Restores d := by
  have hfields : fields.Restores (d.id, d.name, d.kind, d.options, d.guildId, ()) :=
    ⟨Field.restores_withDefault (Codec.restores_string d.id),
      Field.restores_withDefault (Codec.restores_string d.name),
      Field.restores_withDefault d.kind.restores,
      Field.restores_list fun o ho => DataOption.restores (h o ho),
      Field.restores_optional fun s _ => ⟨nofun, Codec.restores_string s⟩, trivial⟩
  exact Fields.restores_record (by decide) rfl rfl hfields

/-- What is read off from the data of an invocation: the key and the name of the pattern, and the
values in their order. -/
structure Invokes (d : CommandData) (p : Pattern) (vs : List DataOption) : Prop where
  key : d.key = p.key
  commandName : d.key.commandName = p.name
  options : ∀ id, (Interaction.ofCommand id d).options = vs
  option? : ∀ id name, (Interaction.ofCommand id d).option? name = vs.find? fun v => v.name == name

variable {name : String} {path : List String} {vs : List DataOption}

theorem name_ofPath : (ofPath name path vs).name = name := by
  unfold ofPath
  split <;> rfl

/-- The values that were sent along a path are found at its end. -/
theorem values_ofPath (hdepth : path.length ≤ 2) (hvalues : ∀ v ∈ vs, v.kind.isNesting = false) :
    (ofPath name path vs).values = vs := by
  match path, hdepth with
  | [], _ =>
    cases vs with
    | nil => rfl
    | cons first rest =>
      have hfirst := hvalues first List.mem_cons_self
      cases hkind : first.kind <;>
        simp_all [OptionType.isNesting, values, ofPath, ofOptions]
  | [sub], _ => rfl
  | [group, sub], _ => rfl

/-- Sub-commands and groups have no values that could be lost. -/
theorem lasting_ofPath (h : ∀ v ∈ vs, v.Lasting) :
    ∀ o ∈ (ofPath name path vs).options, o.Lasting := by
  have hsub : ∀ sub, (DataOption.subCommand sub vs).Lasting := fun sub => .intro nofun h
  match path with
  | [] => exact h
  | [sub] => exact List.forall_mem_singleton.mpr (hsub sub)
  | group :: sub :: _ =>
    refine List.forall_mem_singleton.mpr (.intro nofun ?_)
    exact List.forall_mem_singleton.mpr (hsub sub)

end CommandData

/-- An invocation of a pattern with values gives back the key of the pattern and the values. It does
so as well after it was written and read back, if none of the values is null. -/
theorem Pattern.invocation_round_trip {line : String} {p : Pattern} {vs : List DataOption}
    (hparse : parse line = .ok p) (hvalues : ∀ v ∈ vs, v.kind.isNesting = false) :
    (CommandData.ofPath p.name p.path vs).Invokes p vs ∧
      ((∀ v ∈ vs, v.Lasting) →
        CommandData.codec.decode.ofJson (CommandData.ofPath p.name p.path vs).encode =
          .ok (.ofPath p.name p.path vs)) := by
  obtain ⟨-, hp⟩ := parse_eq_ok_iff.mp hparse
  have hkey : (CommandData.ofPath p.name p.path vs).key = p.key := by
    have hpath : (CommandData.ofPath p.name p.path vs).path = p.path :=
      (DataOption.leadAlong_ofPath hp.depth hvalues).path_eq
    rw [CommandData.key, CommandData.name_ofPath, hpath, key]
  have hoptions : ∀ id, (Interaction.ofCommand id (.ofPath p.name p.path vs)).options = vs :=
    fun _ => CommandData.values_ofPath hp.depth hvalues
  refine ⟨
    { key := hkey
      commandName := ?_
      options := hoptions
      option? := fun id name => ?_ }, fun hlasting => ?_⟩
  · rw [hkey, Pattern.key, DispatchKey.commandName_ofPath (hp.name.not_mem (by decide))]
  · rw [Interaction.option?, hoptions]
  · exact (CommandData.restores (CommandData.lasting_ofPath hlasting)).ofJson

/-- A null below the top of a value is no obstacle. -/
theorem Pattern.invocation_in_group :
    let p : Pattern := ⟨"echo", ["two", "layers"], [⟨"flag", .boolean, true, []⟩]⟩
    let vs : List DataOption :=
      [.ofValue "other" .string (.array [.null]), .ofValue "flag" .boolean (.bool true)]
    (CommandData.ofPath "echo" ["two", "layers"] vs).Invokes p vs ∧
      CommandData.codec.decode.ofJson (CommandData.ofPath "echo" ["two", "layers"] vs).encode =
        .ok (.ofPath "echo" ["two", "layers"] vs) := by
  intro p vs
  have hparse : parse "/echo two layers flag:boolean" = .ok p := by decide
  have hvalues : ∀ v ∈ vs, v.kind.isNesting = false := by decide
  have hlasting : ∀ v ∈ vs, v.Lasting := by
    simp only [vs, List.forall_mem_cons]
    refine ⟨.intro ?_ nofun, .intro ?_ nofun, nofun⟩
    · rintro j ⟨⟩
      exact ⟨nofun, .array (List.forall_mem_singleton.mpr .null)⟩
    · rintro j ⟨⟩
      exact ⟨nofun, .bool true⟩
  obtain ⟨hinvokes, hrestored⟩ := invocation_round_trip hparse hvalues
  exact ⟨hinvokes, hrestored hlasting⟩

end CommandRouter
