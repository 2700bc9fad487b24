import CommandRouter.Proofs.WireRecords

/-!
# Other spellings of a document

What a document decodes to does not depend on how its records are spelled: in which order the
members stand, what further members there are, whether a field is left out or written with its
default, and whether the record is an object or the array of its fields. This holds for every record
of an interaction, a command or a response, at any depth and in many places at once. What stands in
the free value of an option is no record, and stays as it is.

The levels matter in one place. A default that is written out may be an array, which takes a level
where the field took none when it was left out; so it is asked of a default that it is read with the
levels that are left. A document at hand has levels enough for everything.
-/

namespace CommandRouter

variable {α β γ : Type}

/-! ## Arrays of fields -/

namespace Field

/-- The item is what the members have for the field; the default may stand in the place of a missing
member. -/
def ItemFor (f : Field α) (n : Nat) (members : List (Option String × Document)) (item : Document) :
    Prop :=
  Document.named f.name members = [item] ∨
    Document.named f.name members = [] ∧ f.IsDefault n item

/-- The members have nothing for the field but its default, if anything. -/
def Dispensable (f : Field α) (n : Nat) (members : List (Option String × Document)) : Prop :=
  ∀ part ∈ Document.named f.name members, f.IsDefault n part

variable {f : Field α} {n : Nat} {members : List (Option String × Document)} {item : Document}

theorem dispensable_of_eq_nil (h : Document.named f.name members = []) :
    f.Dispensable n members := by
  rw [Dispensable, h]
  exact List.forall_mem_nil _

/-- Null stands for an absent value wherever a value may be absent. -/
theorem isDefault_null (name : String) (c : Codec α) (n : Nat) :
    (optional name c).IsDefault n .null := ⟨none, rfl, rfl⟩

theorem ItemFor.carries (h : f.ItemFor n members item) :
    f.Carries n (Document.named f.name members) [item] := by
  rcases h with hitem | ⟨hnone, hdefault⟩
  · exact carries_of_perm (.of_eq hitem)
  · rw [hnone]
    exact hdefault.carries_written

theorem Dispensable.carries (h : f.Dispensable n members) :
    f.Carries n (Document.named f.name members) [] := by
  unfold Dispensable at h
  match Document.named f.name members, h with
  | [], _ => exact fun _ => id
  | [part], h => exact (h part (List.mem_singleton_self part)).carries_omitted
  | _ :: _ :: _, _ => exact fun _ hx => hx.elim

theorem IsDefault.succ (h : f.IsDefault n item) (hf : f.codec.decode.SteadyBelow (n + 1)) :
    f.IsDefault (n + 1) item := by
  obtain ⟨x, hdefault, hread⟩ := h
  have hlevels : min n item.depth ≤ n + 1 := by omega
  exact ⟨x, hdefault, hf n (Nat.lt_succ_self n) item x hread (n + 1) hlevels⟩

end Field

namespace Fields

/-- The items are the fields of the members, in the order of their declaration. Those at the end may
be left out if they have their defaults. -/
def Listed (n : Nat) : {γ : Type} → Fields γ → List (Option String × Document) →
    List Document → Prop
  | _, nil, _, items => items = []
  | _, cons f rest, members, [] => f.Dispensable n members ∧ rest.Listed n members []
  | _, cons f rest, members, item :: items =>
    f.ItemFor n members item ∧ rest.Listed n members items

variable {fs : Fields γ} {n : Nat} {members : List (Option String × Document)}
  {items : List Document}

theorem Listed.length_le (h : fs.Listed n members items) : items.length ≤ fs.names.length := by
  induction fs generalizing items with
  | nil =>
    cases h
    exact Nat.le_refl 0
  | cons f rest ih =>
    cases items with
    | nil => exact Nat.zero_le _
    | cons item items => exact Nat.succ_le_succ (ih h.2)

theorem Listed.keeps (h : fs.Listed n members items) :
    fs.Keeps n (.object members) (.array items) := by
  refine ⟨fun _ => h.length_le, ?_⟩
  induction fs generalizing items with
  | nil => trivial
  | cons f rest ih =>
    cases items with
    | nil => exact ⟨h.1.carries, ih h.2⟩
    | cons item items => exact ⟨h.1.carries, ih h.2⟩

theorem Listed.succ (h : fs.Listed n members items) (hfs : fs.SteadyBelow (n + 1)) :
    fs.Listed (n + 1) members items := by
  induction fs generalizing items with
  | nil => exact h
  | cons f rest ih =>
    obtain ⟨hf, hrest⟩ := hfs
    cases items with
    | nil => exact ⟨fun part hpart => (h.1 part hpart).succ hf, ih h.2 hrest⟩
    | cons item items =>
      exact ⟨h.1.imp_right (And.imp_right fun hdefault => hdefault.succ hf), ih h.2 hrest⟩

end Fields

/-! ## Spellings -/

/-- The second document is another spelling of the first one for a reader of the codec who has the
given levels. Where one member is put in or changed it stands in front: since the members may be put
in any order, it may stand anywhere. -/
inductive Respelled : Nat → {α : Type} → Codec α → Document → Document → Prop where
  /-- The members are put in another order. -/
  | permuted {n : Nat} {α γ : Type} {c : Codec α} {fs : Fields γ}
      {members members' : List (Option String × Document)} (hc : WireRecord c fs)
      (h : members.Perm members') : Respelled (n + 1) c (.object members) (.object members')
  /-- A member is added whose name is that of no field; its value may be anything. -/
  | added {n : Nat} {α γ : Type} {c : Codec α} {fs : Fields γ}
      {members : List (Option String × Document)} {name : String} {extra : Document}
      (hc : WireRecord c fs) (hname : name ∉ fs.names) :
      Respelled (n + 1) c (.object members) (.object ((some name, extra) :: members))
  /-- A member that has the default of its field is left out. -/
  | omitted {n i : Nat} {α β γ : Type} {c : Codec α} {fs : Fields γ} {f : Field β}
      {members : List (Option String × Document)} {part : Document} (hc : WireRecord c fs)
      (hf : fs.HasAt i f) (hdefault : f.IsDefault n part) :
      Respelled (n + 1) c (.object ((some f.name, part) :: members)) (.object members)
  /-- A field that was left out is written with its default. -/
  | written {n i : Nat} {α β γ : Type} {c : Codec α} {fs : Fields γ} {f : Field β}
      {members : List (Option String × Document)} {part : Document} (hc : WireRecord c fs)
      (hf : fs.HasAt i f) (habsent : ∀ m ∈ members, m.1 ≠ some f.name)
      (hdefault : f.IsDefault n part) :
      Respelled (n + 1) c (.object members) (.object ((some f.name, part) :: members))
  /-- The record is written as the array of its fields. -/
  | positional {n : Nat} {α γ : Type} {c : Codec α} {fs : Fields γ}
      {members : List (Option String × Document)} {items : List Document} (hc : WireRecord c fs)
      (h : fs.Listed n members items) : Respelled (n + 1) c (.object members) (.array items)
  /-- A field is spelled differently. -/
  | member {n i : Nat} {α β γ : Type} {c : Codec α} {fs : Fields γ} {f : Field β}
      {members : List (Option String × Document)} {part part' : Document} (hc : WireRecord c fs)
      (hf : fs.HasAt i f) (h : Respelled n f.codec part part') :
      Respelled (n + 1) c (.object ((some f.name, part) :: members))
        (.object ((some f.name, part') :: members))
  /-- A field is spelled differently in the array of the fields. -/
  | item {n i : Nat} {α β γ : Type} {c : Codec α} {fs : Fields γ} {f : Field β}
      {items : List Document} {part part' : Document} (hc : WireRecord c fs) (hf : fs.HasAt i f)
      (hpart : items[i]? = some part) (h : Respelled n f.codec part part') :
      Respelled (n + 1) c (.array items) (.array (items.set i part'))
  /-- What may be null, but is not, is spelled differently. -/
  | present {n : Nat} {α : Type} {c : Codec α} {doc doc' : Document}
      (h : Respelled n c doc doc') : Respelled n c.nullable doc doc'
  /-- One of the items of a list is spelled differently. -/
  | listed {n i : Nat} {α : Type} {c : Codec α} {items : List Document} {part part' : Document}
      (hpart : items[i]? = some part) (h : Respelled n c part part') :
      Respelled (n + 1) c.list (.array items) (.array (items.set i part'))
  /-- One spelling is exchanged for another, and that one for a third. -/
  | trans {n : Nat} {α : Type} {c : Codec α} {doc doc' doc'' : Document}
      (h : Respelled n c doc doc') (h' : Respelled n c doc' doc'') : Respelled n c doc doc''

namespace Respelled

variable {n m : Nat} {c : Codec α} {doc doc' : Document} {x : α}

/-- Null is spelled in one way only. -/
theorem ne_null (h : Respelled n c doc doc') : doc ≠ .null ∧ doc' ≠ .null := by
  induction h with
  | present _ ih => exact ih
  | trans _ _ ih ih' => exact ⟨ih.1, ih'.2⟩
  | _ => exact ⟨nofun, nofun⟩

theorem succ (h : Respelled n c doc doc') : Respelled (n + 1) c doc doc' := by
  induction h with
  | permuted hc h => exact .permuted hc h
  | added hc hname => exact .added hc hname
  | omitted hc hf hdefault =>
    exact .omitted hc hf (hdefault.succ (hf.steadyBelow (hc.steadyBelow_fields _)))
  | written hc hf habsent hdefault =>
    exact .written hc hf habsent (hdefault.succ (hf.steadyBelow (hc.steadyBelow_fields _)))
  | positional hc h => exact .positional hc (h.succ (hc.steadyBelow_fields _))
  | member hc hf _ ih => exact .member hc hf ih
  | item hc hf hpart _ ih => exact .item hc hf hpart ih
  | present _ ih => exact .present ih
  | listed hpart _ ih => exact .listed hpart ih
  | trans _ _ ih ih' => exact .trans ih ih'

/-- Who has more levels may read the same spellings. -/
theorem mono (h : Respelled n c doc doc') (hnm : n ≤ m) : Respelled m c doc doc' := by
  induction hnm with
  | refl => exact h
  | step _ ih => exact ih.succ

/-- Another spelling of a document that decodes, decodes to the same. The induction is on the
spelling; a change at one place inside of a record is carried by the field that lies there. -/
theorem decode_eq_ok (h : Respelled n c doc doc') (hread : c.decode n doc = .ok x) :
    c.decode n doc' = .ok x := by
  induction h with
  | permuted hc h => exact hc.decode_of_keeps (Fields.keeps_of_perm h) hread
  | added hc hname => exact hc.decode_of_keeps (Fields.keeps_added hname) hread
  | omitted hc hf hdefault =>
    exact hc.decode_of_keeps (hf.keeps_omitted hc.nodup_names hdefault) hread
  | written hc hf habsent hdefault =>
    exact hc.decode_of_keeps (hf.keeps_written hc.nodup_names habsent hdefault) hread
  | positional hc h => exact hc.decode_of_keeps h.keeps hread
  | member hc hf _ ih =>
    exact hc.decode_of_keeps (hf.keeps_member hc.nodup_names fun _ => ih) hread
  | item hc hf hpart _ ih =>
    exact hc.decode_of_keeps (hf.keeps_item hc.nodup_names hpart fun _ => ih) hread
  | present h ih =>
    obtain ⟨hnull, hnull'⟩ := h.ne_null
    change Decoder.optional _ _ _ = _ at hread ⊢
    rw [Decoder.optional.eq_2 _ _ _ hnull, map_eq_ok_iff] at hread
    rw [Decoder.optional.eq_2 _ _ _ hnull', map_eq_ok_iff]
    obtain ⟨y, hy, rfl⟩ := hread
    exact ⟨y, ih hy, rfl⟩
  | listed hpart _ ih => exact mapM_set_eq_ok hpart (fun _ => ih) hread
  | trans _ _ ih ih' => exact ih' (ih hread)

end Respelled

/-- Another spelling of a document that decodes, decodes to the same: with any levels for which it
is one, at hand in any case, and as a text if it is one for the reader of a text. -/
theorem WireRecord.spellings_decode_alike {c : Codec α} {fs : Fields γ} (hc : WireRecord c fs)
    (x : α) :
    (∀ n doc doc', Respelled n c doc doc' → c.decode n doc = .ok x → c.decode n doc' = .ok x) ∧
    (∀ n doc doc', Respelled n c doc doc' → c.decode.run doc = .ok x →
      c.decode.run doc' = .ok x) ∧
    (∀ text text' doc doc', Document.read text = some doc → Document.read text' = some doc' →
      Respelled textLevels c doc doc' → c.decode.ofText text = .ok x →
      c.decode.ofText text' = .ok x) := by
  refine ⟨fun n doc doc' h => h.decode_eq_ok, fun n doc doc' h hread => ?_,
    fun text text' doc doc' htext htext' h hread => ?_⟩
  · have hsteady : ∀ k, c.decode.SteadyBelow k := fun k =>
      hc.steadyBelow_of_fields k (hc.steadyBelow_fields k)
    -- With the levels of both, the first document is still read, and the second one is a spelling.
    have hlevels : c.decode (max n doc.depth) doc = .ok x :=
      hsteady _ doc.depth (Nat.lt_succ_self _) doc x hread _
        ((Nat.min_le_left ..).trans (Nat.le_max_right ..))
    exact (Decoder.run_eq_ok_iff hsteady).mpr
      ⟨_, (h.mono (Nat.le_max_left ..)).decode_eq_ok hlevels⟩
  · obtain ⟨doc₀, hdoc, hread⟩ := Decoder.ofText_eq_ok_iff.mp hread
    obtain rfl : doc = doc₀ := Option.some.inj (htext.symm.trans hdoc)
    exact Decoder.ofText_eq_ok_iff.mpr ⟨doc', htext', h.decode_eq_ok hread⟩

/-- An invocation of a sub-command: the option and the data are written as arrays, a further member
is added, and a field that was left out is written as null. -/
theorem WireRecord.spellings_decode_alike_of_invocation :
    let option : Document := .object [(some "type", .number (.integer 1)),
      (some "name", .string "add")]
    let data : Document := .object [(some "options", .array [option]),
      (some "name", .string "math")]
    let others : List (Option String × Document) :=
      [(some "id", .string "1"), (some "type", .number (.integer 2))]
    let optionItems : Document := .array [.string "add", .number (.integer 1)]
    let dataItems : Document := .array [.string "", .string "math", .number (.integer 1),
      .array [optionItems]]
    let i := Interaction.ofCommand "1" (.ofPath "math" ["add"] [])
    Interaction.codec.decode.run (.object ((some "data", data) :: others)) = .ok i ∧
      Interaction.codec.decode.run (.object ((some "guild_id", .null) ::
        (some "version", .unusable) :: (some "data", dataItems) :: others)) = .ok i := by
  intro option data others optionItems dataItems i
  have hread : Interaction.codec.decode.run (.object ((some "data", data) :: others)) = .ok i := rfl
  have hoption : Respelled 1 DataOption.codec option optionItems :=
    .positional .dataOption ⟨.inl rfl, .inl rfl, Field.dispensable_of_eq_nil rfl,
      Field.dispensable_of_eq_nil rfl, Field.dispensable_of_eq_nil rfl, rfl⟩
  have hoptions : Respelled 3 CommandData.codec data (.object
      [(some "options", .array [optionItems]), (some "name", .string "math")]) :=
    .member .commandData (.tail (.tail (.tail .head))) (.listed (i := 0) rfl hoption)
  have hdata : Respelled 3 CommandData.codec data dataItems :=
    hoptions.trans <| .positional .commandData ⟨.inr ⟨rfl, "", rfl, rfl⟩, .inl rfl,
      .inr ⟨rfl, .chatInput, rfl, rfl⟩, .inl rfl, Field.dispensable_of_eq_nil rfl, rfl⟩
  have hmember : Respelled 4 Interaction.codec (.object ((some "data", data) :: others))
      (.object ((some "data", dataItems) :: others)) :=
    .member .interaction (.tail (.tail (.tail .head))) (.present hdata)
  have hadded : Respelled 4 Interaction.codec (.object ((some "data", dataItems) :: others))
      (.object ((some "version", .unusable) :: (some "data", dataItems) :: others)) :=
    .added .interaction (by decide)
  have hwritten : Respelled 4 Interaction.codec
      (.object ((some "version", .unusable) :: (some "data", dataItems) :: others))
      (.object ((some "guild_id", .null) :: (some "version", .unusable) ::
        (some "data", dataItems) :: others)) :=
    .written .interaction (.tail (.tail (.tail (.tail .head)))) (Document.named_eq_nil_iff.mp rfl)
      (Field.isDefault_null "guild_id" .string 3)
  obtain ⟨-, halike, -⟩ := spellings_decode_alike .interaction i
  exact ⟨hread, halike 4 _ _ ((hmember.trans hadded).trans hwritten) hread⟩

end CommandRouter
