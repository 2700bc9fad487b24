import CommandRouter.Proofs.Levels
import CommandRouter.Proofs.WireRoundTrip

/-!
# The records on the wire

Ten kinds of data go over the wire as records. Each is read as the record of its fields, from which
the data is then built; this also holds for the options, which have options below them and count the
levels down themselves. For none of them do the levels matter beyond the depth of the document.
-/

namespace CommandRouter

variable {α β γ : Type}

/-! ## Options as records -/

namespace Decoder

/-- Which way the items of an array are read matters only at the level below it. -/
theorem list_congr_zero (d d' : Decoder α) (doc : Document) : list d 0 doc = list d' 0 doc := by
  cases doc <;> rfl

theorem list_congr_succ (d : Decoder α) (n : Nat) (doc : Document) :
    list (fun _ part => d n part) (n + 1) doc = list d (n + 1) doc := by
  cases doc <;> rfl

end Decoder

theorem Field.holds_list_congr {name : String} {c c' : Codec α} {n : Nat} {parts : List Document}
    {xs : List α}
    (h : ∀ part, Decoder.list c.decode n part = Decoder.list c'.decode n part) :
    (list name c).Holds n parts xs ↔ (list name c').Holds n parts xs := by
  match parts with
  | [] => exact Iff.rfl
  | [part] => exact Eq.congr_left (h part)
  | _ :: _ :: _ => exact Iff.rfl

/-- A decoder that goes down two levels at a time reads the record of the fields in which it stands
itself for what lies below. -/
theorem Codec.decode_eq_ok_iff_of_descent {decode : Decoder α} {encode : α → Json}
    {fields : Codec α → Fields γ} {ofRow : γ → α}
    (hcongr : ∀ n (c c' : Codec α), (∀ part, Decoder.list c.decode n part =
      Decoder.list c'.decode n part) → ∀ doc row,
        (fields c).decode (n + 1) doc = .ok row ↔ (fields c').decode (n + 1) doc = .ok row)
    (hzero : ∀ doc, decode 0 doc =
      ((fields ⟨fun _ _ => .error .unreadable, encode⟩).decode 0 doc).map ofRow)
    (hone : ∀ doc, decode 1 doc =
      ((fields ⟨fun _ _ => .error .unreadable, encode⟩).decode 1 doc).map ofRow)
    (hlevels : ∀ n doc, decode (n + 2) doc =
      ((fields ⟨fun _ part => decode n part, encode⟩).decode (n + 2) doc).map ofRow)
    {n : Nat} {doc : Document} {x : α} :
    decode n doc = .ok x ↔
      ∃ row, (fields ⟨decode, encode⟩).decode n doc = .ok row ∧ ofRow row = x := by
  match n with
  | 0 =>
    rw [hzero, map_eq_ok_iff]
    simp only [Fields.decode_zero_ne_ok, false_and]
  | 1 =>
    rw [hone, map_eq_ok_iff]
    simp only [hcongr 0 _ ⟨decode, encode⟩ (Decoder.list_congr_zero _ _)]
  | n + 2 =>
    rw [hlevels, map_eq_ok_iff]
    have hlist := hcongr (n + 1) ⟨fun _ part => decode n part, encode⟩ ⟨decode, encode⟩
      (Decoder.list_congr_succ decode n)
    simp only [hlist]

theorem DataOption.decode_eq_ok_iff {n : Nat} {doc : Document} {o : DataOption} :
    decode n doc = .ok o ↔ ∃ row, (fields codec).decode n doc = .ok row ∧ ofRow row = o := by
  refine Codec.decode_eq_ok_iff_of_descent (fun n c c' h doc row => ?_) (fun doc => rfl)
    (fun doc => rfl) fun n doc => rfl
  rw [Fields.decode_eq_ok_iff (nodup_names c), Fields.decode_eq_ok_iff (nodup_names c')]
  simp only [fields, Fields.Holds, Field.holds_list_congr h]
  rfl

theorem CommandOption.decode_eq_ok_iff {n : Nat} {doc : Document} {o : CommandOption} :
    decode n doc = .ok o ↔ ∃ row, (fields codec).decode n doc = .ok row ∧ ofRow row = o := by
  refine Codec.decode_eq_ok_iff_of_descent (fun n c c' h doc row => ?_) (fun doc => rfl)
    (fun doc => rfl) fun n doc => rfl
  rw [Fields.decode_eq_ok_iff (nodup_names c), Fields.decode_eq_ok_iff (nodup_names c')]
  simp only [fields, Fields.Holds, Field.holds_list_congr h]
  rfl

/-! ## The records on the wire -/

/-- The codec is that of data which goes over the wire as a record of these fields. -/
inductive WireRecord : {α γ : Type} → Codec α → Fields γ → Prop where
  | user : WireRecord User.codec User.fields
  | member : WireRecord Member.codec Member.fields
  | dataOption : WireRecord DataOption.codec (DataOption.fields DataOption.codec)
  | commandData : WireRecord CommandData.codec CommandData.fields
  | interaction : WireRecord Interaction.codec Interaction.fields
  | choice : WireRecord Choice.codec Choice.fields
  | commandOption : WireRecord CommandOption.codec (CommandOption.fields CommandOption.codec)
  | applicationCommand : WireRecord ApplicationCommand.codec ApplicationCommand.fields
  | responseData : WireRecord ResponseData.codec ResponseData.fields
  | response : WireRecord Response.codec Response.fields

namespace WireRecord

variable {c : Codec α} {fs : Fields γ} {n k : Nat} {doc doc' : Document} {x : α}

theorem nodup_names (hc : WireRecord c fs) : fs.names.Nodup := by
  cases hc with
  | dataOption => exact DataOption.nodup_names _
  | commandOption => exact CommandOption.nodup_names _
  | _ => decide

/-- The data is built from the values of its fields, however these were read. -/
theorem exists_build (hc : WireRecord c fs) : ∃ build : γ → Except DecodeError α, ∀ n doc x,
    c.decode n doc = .ok x ↔ ∃ row, fs.decode n doc = .ok row ∧ build row = .ok x := by
  cases hc with
  | dataOption =>
    refine ⟨fun row => .ok (DataOption.ofRow row), fun n doc x => ?_⟩
    simp only [Except.ok.injEq]
    exact DataOption.decode_eq_ok_iff
  | commandOption =>
    refine ⟨fun row => .ok (CommandOption.ofRow row), fun n doc x => ?_⟩
    simp only [Except.ok.injEq]
    exact CommandOption.decode_eq_ok_iff
  | _ => exact ⟨_, fun _ _ _ => Decoder.andThen_eq_ok_iff⟩

theorem decode_of_keeps (hc : WireRecord c fs) (h : fs.Keeps n doc doc')
    (hread : c.decode (n + 1) doc = .ok x) : c.decode (n + 1) doc' = .ok x := by
  obtain ⟨build, hbuild⟩ := hc.exists_build
  obtain ⟨row, hrow, hx⟩ := (hbuild _ _ _).mp hread
  exact (hbuild _ _ _).mpr ⟨row, h.decode hc.nodup_names hrow, hx⟩

/-- Where the fields are steady, so is the record, one level further up. -/
theorem steadyBelow_decode (hc : WireRecord c fs) (h : fs.SteadyBelow k) :
    c.decode.SteadyBelow (k + 1) := by
  obtain ⟨build, hbuild⟩ := hc.exists_build
  intro n hn doc x hread m hm
  obtain ⟨row, hrow, hx⟩ := (hbuild _ _ _).mp hread
  exact (hbuild _ _ _).mpr ⟨row, h.decode hc.nodup_names n hn doc row hrow m hm, hx⟩

end WireRecord

/-! ## Levels -/

section Levels

open Decoder

variable {c : Codec α} {fs : Fields γ} (k : Nat)

theorem WireRecord.steadyBelow_of_fields (hc : WireRecord c fs) (h : fs.SteadyBelow k) :
    c.decode.SteadyBelow k := (hc.steadyBelow_decode h).mono (Nat.le_succ k)

theorem User.steadyBelow_fields : fields.SteadyBelow k :=
  ⟨steadyBelow_string, steadyBelow_string, steadyBelow_string.optional, trivial⟩

theorem Member.steadyBelow_fields : fields.SteadyBelow k := by
  have huser := WireRecord.user.steadyBelow_of_fields k (User.steadyBelow_fields k)
  exact ⟨huser.optional, steadyBelow_string.optional, steadyBelow_string.list, trivial⟩

/-- An option is read by the decoder of the options below it, which lie further down. The induction
goes from there upwards. -/
theorem DataOption.steadyBelow_fields : (fields codec).SteadyBelow k := by
  have hfields : ∀ k, codec.decode.SteadyBelow k → (fields codec).SteadyBelow k := fun k h =>
    ⟨steadyBelow_string, steadyBelow_coded _ _, steadyBelow_value.optional, h.list,
      steadyBelow_bool, trivial⟩
  induction k with
  | zero => exact hfields 0 steadyBelow_zero
  | succ k ih => exact hfields (k + 1) (WireRecord.dataOption.steadyBelow_decode ih)

theorem CommandData.steadyBelow_fields : fields.SteadyBelow k := by
  have hoption := WireRecord.dataOption.steadyBelow_of_fields k (DataOption.steadyBelow_fields k)
  exact ⟨steadyBelow_string, steadyBelow_string, steadyBelow_coded _ _, hoption.list,
    steadyBelow_string.optional, trivial⟩

theorem Interaction.steadyBelow_fields : fields.SteadyBelow k := by
  have hdata := WireRecord.commandData.steadyBelow_of_fields k (CommandData.steadyBelow_fields k)
  have hmember := WireRecord.member.steadyBelow_of_fields k (Member.steadyBelow_fields k)
  have huser := WireRecord.user.steadyBelow_of_fields k (User.steadyBelow_fields k)
  exact ⟨steadyBelow_string, steadyBelow_string, steadyBelow_coded _ _, hdata.optional,
    steadyBelow_string.optional, steadyBelow_string.optional, hmember.optional, huser.optional,
    steadyBelow_string, trivial⟩

theorem Choice.steadyBelow_fields : fields.SteadyBelow k :=
  ⟨steadyBelow_string, steadyBelow_value.andThen _, trivial⟩

theorem CommandOption.steadyBelow_fields : (fields codec).SteadyBelow k := by
  have hfields : ∀ k, codec.decode.SteadyBelow k → (fields codec).SteadyBelow k := by
    intro k h
    have hchoice := WireRecord.choice.steadyBelow_of_fields k (Choice.steadyBelow_fields k)
    exact ⟨steadyBelow_string, steadyBelow_string, steadyBelow_coded _ _, steadyBelow_bool,
      hchoice.list, h.list, trivial⟩
  induction k with
  | zero => exact hfields 0 steadyBelow_zero
  | succ k ih => exact hfields (k + 1) (WireRecord.commandOption.steadyBelow_decode ih)

theorem ApplicationCommand.steadyBelow_fields : fields.SteadyBelow k := by
  have hoption :=
    WireRecord.commandOption.steadyBelow_of_fields k (CommandOption.steadyBelow_fields k)
  exact ⟨steadyBelow_string.optional, steadyBelow_string.optional, steadyBelow_string.optional,
    steadyBelow_string, steadyBelow_string, steadyBelow_coded _ _, hoption.list, trivial⟩

theorem ResponseData.steadyBelow_fields : fields.SteadyBelow k :=
  ⟨steadyBelow_string.optional, ((steadyBelow_integer _).andThen _).optional, trivial⟩

theorem Response.steadyBelow_fields : fields.SteadyBelow k := by
  have hdata := WireRecord.responseData.steadyBelow_of_fields k (ResponseData.steadyBelow_fields k)
  exact ⟨steadyBelow_coded _ _, hdata.optional, trivial⟩

/-- No field of a record on the wire is read differently where there are more levels than it
needs. -/
theorem WireRecord.steadyBelow_fields (hc : WireRecord c fs) : fs.SteadyBelow k := by
  cases hc with
  | user => exact User.steadyBelow_fields k
  | member => exact Member.steadyBelow_fields k
  | dataOption => exact DataOption.steadyBelow_fields k
  | commandData => exact CommandData.steadyBelow_fields k
  | interaction => exact Interaction.steadyBelow_fields k
  | choice => exact Choice.steadyBelow_fields k
  | commandOption => exact CommandOption.steadyBelow_fields k
  | applicationCommand => exact ApplicationCommand.steadyBelow_fields k
  | responseData => exact ResponseData.steadyBelow_fields k
  | response => exact Response.steadyBelow_fields k

end Levels

end CommandRouter
