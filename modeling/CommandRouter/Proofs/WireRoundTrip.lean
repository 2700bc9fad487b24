import CommandRouter.Command.Wire
import CommandRouter.Proofs.Decoding
import CommandRouter.Proofs.Invocations
import CommandRouter.Response

/-!
# Round trips

Everything that goes over the wire is read back as it was written: interactions, responses and
command definitions of any depth. Only the free values of the options of an invocation can be lost,
if one is null, for then it is read back as an absent one. A decoder never gives such a value, so
what has been decoded once is decoded again to the same.
-/

namespace CommandRouter

variable {n : Nat} {doc : Document}

/-! ## Command definitions -/

theorem ChoiceValue.restores (v : ChoiceValue) : codec.Restores v := by
  intro n _
  cases v with
  | text s =>
    show Decoder.value.andThen _ n (.string s) = _
    rw [Decoder.andThen, Decoder.value]
    rfl
  | integer m =>
    show Decoder.value.andThen _ n (.number (.integer m.toInt)) = _
    rw [Decoder.andThen, Decoder.value]
    show (if Decimal.fitsSigned m.toInt then _ else _) = _
    rw [if_pos (Decimal.fitsSigned_toInt m), Int64.ofInt_toInt]

theorem Choice.restores (c : Choice) : codec.Restores c :=
  Fields.restores_record (by decide) rfl rfl
    ⟨Field.restores_required (Codec.restores_string c.name),
      Field.restores_required c.value.restores, trivial⟩

namespace CommandOption

/-- The values of the fields of an option. -/
def row (o : CommandOption) : Row CommandOption :=
  (o.name, o.description, o.kind, o.required, o.choices, o.options, ())

variable {o child : CommandOption}

theorem ofRow_row (o : CommandOption) : ofRow o.row = o := by
  cases o
  rfl

theorem encodeAll_eq_map (os : List CommandOption) : encodeAll os = os.map encode := by
  induction os with
  | nil => rfl
  | cons o os ih => rw [encodeAll, ih, List.map_cons]

/-- However the options below it are read, an option is written as the record of its fields. -/
theorem encode_eq (d : Decoder CommandOption) (o : CommandOption) :
    o.encode = (fields ⟨d, encode⟩).encode o.row := by
  obtain ⟨name, description, kind, required, choices, options⟩ := o
  rw [encode, encodeAll_eq_map]
  cases options <;>
    simp [row, fields, Fields.encode, Fields.members, Field.list, Codec.list, Codec.json]

/-- The options below an option lie two levels down. -/
theorem depth_of_mem_options (hchild : child ∈ o.options) (hdepth : o.encode.document.depth ≤ n) :
    child.encode.document.depth + 2 ≤ n := by
  have hsome : o.options.isEmpty = false :=
    List.isEmpty_eq_false_iff.mpr (List.ne_nil_of_mem hchild)
  have hwritten : ("options", Json.array (o.options.map encode)) ∈ (fields codec).members o.row :=
    Fields.mem_members_of_mem <| Fields.mem_members_of_mem <| Fields.mem_members_of_mem <|
      Fields.mem_members_of_mem <| Fields.mem_members_of_mem <| Fields.mem_members_of_written hsome
  rw [encode_eq decode] at hdepth
  exact Fields.depth_of_mem_items hwritten (List.mem_map_of_mem hchild) hdepth

theorem nodup_names {χ : Type} (c : Codec χ) : (fields c).names.Nodup := by
  show ["name", "description", "type", "required", "choices", "options"].Nodup
  decide

/-- The fields of an option are restored if the options below it are. -/
theorem restores_row {d : Decoder CommandOption}
    (hoptions : ∀ child ∈ o.options, (Codec.mk d encode).Restores child) :
    (fields ⟨d, encode⟩).Restores o.row :=
  ⟨Field.restores_required (Codec.restores_string o.name),
    Field.restores_required (Codec.restores_string o.description),
    Field.restores_required o.kind.restores, Field.restores_flag o.required,
    Field.restores_list fun c _ => c.restores, Field.restores_list hoptions, trivial⟩

/-- An option is read back as it was written, with all that lies below it. -/
theorem restores (o : CommandOption) : codec.Restores o := by
  refine Codec.restores_of_descent (P := fun _ => True)
    (fun d n doc => ((fields ⟨d, encode⟩).decode n doc).map ofRow) (fun n doc hn => ?_)
    (fun n doc => rfl) (fun o n hdepth child hchild => depth_of_mem_options hchild hdepth)
    (fun _ _ _ _ => trivial) (fun o _ d hoptions => ?_) trivial
  · match n, hn with
    | 0, _ | 1, _ => rfl
  · exact Fields.restores_record (f := fun xs => .ok (ofRow xs)) (nodup_names _) (encode_eq d o)
      (congrArg Except.ok o.ofRow_row) (restores_row hoptions)

end CommandOption

theorem ApplicationCommand.restores (c : ApplicationCommand) : codec.Restores c :=
  Fields.restores_record (by decide) rfl rfl
    ⟨Field.restores_optional fun s _ => ⟨nofun, Codec.restores_string s⟩,
      Field.restores_optional fun s _ => ⟨nofun, Codec.restores_string s⟩,
      Field.restores_optional fun s _ => ⟨nofun, Codec.restores_string s⟩,
      Field.restores_required (Codec.restores_string c.name),
      Field.restores_required (Codec.restores_string c.description),
      Field.restores_withDefault c.kind.restores,
      Field.restores_list fun o _ => o.restores, trivial⟩

/-! ## Responses -/

theorem Codec.restores_word (w : UInt64) : word.Restores w := by
  intro n _
  have hfits : Decimal.fitsUnsigned (w.toNat : Int) = true := by
    have := w.toNat_lt
    simp only [Decimal.fitsUnsigned, Bool.and_eq_true, decide_eq_true_eq]
    omega
  show (Decoder.integer Decimal.fitsUnsigned).andThen _ n (.number (.integer w.toNat)) = _
  rw [Decoder.andThen, Decoder.integer, if_pos hfits]
  simp [bind, Except.bind]

theorem ResponseType.restores (t : ResponseType) : codec.Restores t :=
  Codec.restores_coded (by cases t <;> decide) (by cases t <;> rfl)

theorem ResponseData.restores (d : ResponseData) : codec.Restores d :=
  Fields.restores_record (by decide) rfl rfl
    ⟨Field.restores_optional fun s _ => ⟨nofun, Codec.restores_string s⟩,
      Field.restores_optional fun w _ => ⟨nofun, Codec.restores_word w⟩, trivial⟩

theorem Response.restores (r : Response) : codec.Restores r :=
  Fields.restores_record (by decide) rfl rfl
    ⟨Field.restores_required r.kind.restores,
      Field.restores_optional fun d _ => ⟨nofun, d.restores⟩, trivial⟩

/-! ## Interactions -/

theorem User.restores (u : User) : codec.Restores u :=
  Fields.restores_record (by decide) rfl rfl
    ⟨Field.restores_required (Codec.restores_string u.id),
      Field.restores_withDefault (Codec.restores_string u.username),
      Field.restores_optional fun s _ => ⟨nofun, Codec.restores_string s⟩, trivial⟩

theorem Member.restores (m : Member) : codec.Restores m :=
  Fields.restores_record (by decide) rfl rfl
    ⟨Field.restores_optional fun u _ => ⟨nofun, u.restores⟩,
      Field.restores_optional fun s _ => ⟨nofun, Codec.restores_string s⟩,
      Field.restores_list fun s _ => Codec.restores_string s, trivial⟩

theorem InteractionType.restores (t : InteractionType) : codec.Restores t :=
  Codec.restores_coded (by cases t <;> decide) (by cases t <;> rfl)

/-- Nothing of the interaction is lost in writing. -/
def Interaction.Lasting (i : Interaction) : Prop :=
  ∀ d, i.data = some d → ∀ o ∈ d.options, o.Lasting

theorem Interaction.restores {i : Interaction} (h : i.Lasting) : codec.Restores i :=
  Fields.restores_record (by decide) rfl rfl
    ⟨Field.restores_required (Codec.restores_string i.id),
      Field.restores_withDefault (Codec.restores_string i.applicationId),
      Field.restores_required i.kind.restores,
      Field.restores_optional fun d hd => ⟨nofun, CommandData.restores (h d hd)⟩,
      Field.restores_optional fun s _ => ⟨nofun, Codec.restores_string s⟩,
      Field.restores_optional fun s _ => ⟨nofun, Codec.restores_string s⟩,
      Field.restores_optional fun m _ => ⟨nofun, m.restores⟩,
      Field.restores_optional fun u _ => ⟨nofun, u.restores⟩,
      Field.restores_withDefault (Codec.restores_string i.token), trivial⟩

/-! ## What is decoded -/

/-- The property passes on from a document to the documents inside of it. -/
def Document.Hereditary (P : Document → Prop) : Prop := ∀ doc, P doc → ∀ part ∈ doc.parts, P part

theorem Document.hereditary_finite : Hereditary Finite := by
  intro doc hdoc
  cases hdoc with
  | array h => exact h
  | object h => exact List.forall_mem_map.mpr h
  | _ => exact nofun

namespace DataOption

/-- All numbers in the values of the option and of those below it are finite. -/
inductive Finite : DataOption → Prop where
  | intro {o : DataOption} (hvalue : ∀ j, o.value = some j → j.document.Finite)
      (hoptions : ∀ child ∈ o.options, Finite child) : Finite o

/-- The decoder of an option reads the record of its fields, and what lies below it with fewer
levels, if at all. -/
theorem decode_eq (n : Nat) (doc : Document) : ∃ below : Decoder DataOption,
    decode n doc = ((fields ⟨below, encode⟩).decode n doc).map ofRow ∧
      ∀ m part child, below m part = .ok child → ∃ k < n, decode k part = .ok child := by
  match n with
  | 0 | 1 => exact ⟨fun _ _ => .error .unreadable, rfl, nofun⟩
  | n + 2 => exact ⟨fun _ part => decode n part, rfl, fun _ _ _ h => ⟨n, by omega, h⟩⟩

end DataOption

section Inherited

variable {P : Document → Prop} {Q : DataOption → Prop} (hinherits : Document.Hereditary P)
  (hstep : ∀ o : DataOption, (∀ j, o.value = some j →
    ∃ n part, P part ∧ part ≠ .null ∧ Decoder.value n part = .ok j) →
    (∀ child ∈ o.options, Q child) → Q o)

include hinherits hstep

/-- What is known of the parts of a document passes on to the values of the options that are read
from it. The induction is on the levels. -/
theorem DataOption.of_decode {o : DataOption} (hdoc : P doc) (h : decode n doc = .ok o) : Q o := by
  induction n using Nat.strongRecOn generalizing doc o with
  | ind n ih =>
    obtain ⟨below, hfields, hbelow⟩ := decode_eq n doc
    rw [hfields, map_eq_ok_iff] at h
    obtain ⟨⟨name, kind, value, options, focused, ⟨⟩⟩, hread, rfl⟩ := h
    obtain ⟨-, -, hvalue, hoptions, -⟩ := Fields.given_of_decode hread
    refine hstep _ (fun j hj => ?_) (fun child hchild => ?_)
    · cases hj
      obtain ⟨m, part, hpart, hnull, hj⟩ := Field.given_optional hvalue
      exact ⟨m, part, hinherits doc hdoc part hpart, hnull, hj⟩
    · obtain ⟨m, part, hpart, item, hitem, hchild⟩ := Field.given_list hoptions child hchild
      obtain ⟨k, hk, hchild⟩ := hbelow m item child hchild
      exact ih k hk (hinherits part (hinherits doc hdoc part hpart) item hitem) hchild

/-- The same for the options of a command. -/
theorem CommandData.options_of_decode {d : CommandData} (hdoc : P doc)
    (h : decode n doc = .ok d) : ∀ o ∈ d.options, Q o := by
  obtain ⟨⟨id, name, kind, options, guildId, ⟨⟩⟩, hread, hd⟩ := Decoder.andThen_eq_ok_iff.mp h
  cases hd
  obtain ⟨-, -, -, hoptions, -⟩ := Fields.given_of_decode hread
  intro o ho
  obtain ⟨m, part, hpart, item, hitem, ho⟩ := Field.given_list hoptions o ho
  exact DataOption.of_decode hinherits hstep
    (hinherits part (hinherits doc hdoc part hpart) item hitem) ho

/-- The same for the options in an interaction. -/
theorem Interaction.options_of_decode {i : Interaction} (hdoc : P doc)
    (h : decode n doc = .ok i) : ∀ d, i.data = some d → ∀ o ∈ d.options, Q o := by
  obtain ⟨⟨id, applicationId, kind, data, guildId, channelId, member, user, token, ⟨⟩⟩, hread,
    hi⟩ := Decoder.andThen_eq_ok_iff.mp h
  cases hi
  obtain ⟨-, -, -, hdata, -⟩ := Fields.given_of_decode hread
  rintro d ⟨⟩
  obtain ⟨m, part, hpart, -, hd⟩ := Field.given_optional hdata
  exact CommandData.options_of_decode hinherits hstep (hinherits doc hdoc part hpart) hd

end Inherited

namespace Interaction

/-- All numbers in the values of the options are finite. -/
def Finite (i : Interaction) : Prop :=
  ∀ d, i.data = some d → ∀ o ∈ d.options, o.Finite

variable {i : Interaction}

/-- No value that is read is null, and all are canonical. -/
theorem lasting_of_decode (h : decode n doc = .ok i) : i.Lasting := by
  refine options_of_decode (P := fun _ => True) (fun _ _ _ _ => trivial)
    (fun o hvalue hoptions => .intro (fun j hj => ?_) hoptions) trivial h
  obtain ⟨m, part, -, hnull, hread⟩ := hvalue j hj
  have hgives := Decoder.gives_of_value hread
  exact ⟨fun hj => hnull (hgives.null hj), hgives.canonical⟩

theorem finite_of_decode (hdoc : doc.Finite) (h : decode n doc = .ok i) : i.Finite := by
  refine options_of_decode Document.hereditary_finite
    (fun o hvalue hoptions => .intro (fun j hj => ?_) hoptions) hdoc h
  obtain ⟨m, part, hpart, -, hread⟩ := hvalue j hj
  exact (Decoder.gives_of_value hread).finite hpart

/-- An interaction is read back as it was written just if nothing of it is lost in writing. -/
theorem ofJson_encode_eq_ok_iff : codec.decode.ofJson i.encode = .ok i ↔ i.Lasting :=
  ⟨lasting_of_decode, fun h => (restores h).ofJson⟩

end Interaction

/-! ## Round trips -/

/-- What was read is written in a form that stays the same when it is read and written again. -/
def Codec.Settles {α : Type} (c : Codec α) : Prop :=
  ∀ n doc x, c.decode n doc = .ok x → (c.decode.ofJson (c.encode x)).map c.encode = .ok (c.encode x)

theorem Codec.settles_of_restores {α : Type} {c : Codec α}
    (h : ∀ n doc x, c.decode n doc = .ok x → c.Restores x) : c.Settles := by
  intro n doc x hx
  rw [(h n doc x hx).ofJson]
  rfl

/-- Commands and responses are read back as they were written, and so are interactions of which
nothing is lost in writing. Nothing is lost of an interaction that was read, and its numbers are
finite if those of its document are, as they are in every text. So writing what was read settles on
one form. -/
theorem wire_round_trip :
    (∀ i : Interaction, Interaction.codec.decode.ofJson i.encode = .ok i ↔ i.Lasting) ∧
    (∀ c : ApplicationCommand, ApplicationCommand.codec.decode.ofJson c.encode = .ok c) ∧
    (∀ cs : List ApplicationCommand, ApplicationCommand.codec.list.decode.ofJson
      (ApplicationCommand.codec.list.encode cs) = .ok cs) ∧
    (∀ r : Response, Response.codec.decode.ofJson r.encode = .ok r) ∧
    (∀ n doc i, Interaction.codec.decode n doc = .ok i → i.Lasting ∧ (doc.Finite → i.Finite)) ∧
    (∀ text i, Interaction.codec.decode.ofText text = .ok i → i.Lasting ∧ i.Finite) ∧
    Interaction.codec.Settles ∧ ApplicationCommand.codec.Settles ∧ Response.codec.Settles := by
  refine ⟨fun i => Interaction.ofJson_encode_eq_ok_iff, fun c => c.restores.ofJson, fun cs => ?_,
    fun r => r.restores.ofJson, fun n doc i h => ?_, fun text i h => ?_, ?_, ?_, ?_⟩
  · exact (Codec.restores_list fun c _ => c.restores).ofJson
  · exact ⟨Interaction.lasting_of_decode h, fun hdoc => Interaction.finite_of_decode hdoc h⟩
  · obtain ⟨doc, hdoc, h⟩ := Decoder.ofText_eq_ok_iff.mp h
    exact ⟨Interaction.lasting_of_decode h,
      Interaction.finite_of_decode (Document.finite_of_read hdoc) h⟩
  · exact Codec.settles_of_restores fun n doc i h =>
      Interaction.restores (Interaction.lasting_of_decode h)
  · exact Codec.settles_of_restores fun _ _ c _ => c.restores
  · exact Codec.settles_of_restores fun _ _ r _ => r.restores

/-- An invocation below a group with a null inside of a value, and one with a double that is read
from a text where its records are arrays. -/
theorem wire_round_trip_of_invocations :
    let values : List DataOption :=
      [.ofValue "ratio" .integer (.number (.double ⟨0x3FF8000000000000⟩)),
        .ofValue "other" .string (.object [("a", .array [.null]), ("b", .bool true)])]
    let written := Interaction.ofCommand "1" (.ofPath "echo" ["two", "layers"] values)
    let text := "[\"2\", \"\", 2, [\"\", \"add\", 1, [[\"x\", 4, 1.5]]]]"
    Interaction.codec.decode.ofJson written.encode = .ok written ∧
      ∃ read, Interaction.codec.decode.ofText text = .ok read ∧ read.Lasting ∧ read.Finite := by
  intro values written text
  have hvalues : ∀ o ∈ values, o.Lasting := by
    simp only [values, List.forall_mem_cons]
    refine ⟨.intro ?_ nofun, .intro ?_ nofun, nofun⟩
    · rintro j ⟨⟩
      exact ⟨nofun, .number _⟩
    · rintro j ⟨⟩
      refine ⟨nofun, .object (by decide) ?_⟩
      simp only [List.forall_mem_cons]
      exact ⟨.array (List.forall_mem_singleton.mpr .null), .bool true, nofun⟩
  have hlasting : written.Lasting := by
    rintro d ⟨⟩
    exact CommandData.lasting_ofPath hvalues
  have hreadable : (Interaction.codec.decode.ofText text).isOk = true := by decide +kernel
  obtain ⟨hrestored, -, -, -, -, htext, -⟩ := wire_round_trip
  refine ⟨(hrestored written).mpr hlasting, ?_⟩
  cases hread : Interaction.codec.decode.ofText text with
  | error e =>
    rw [hread] at hreadable
    cases hreadable
  | ok read => exact ⟨read, rfl, htext text read hread⟩

end CommandRouter
