import CommandRouter.Json.Record
import CommandRouter.Proofs.FiniteNumbers
import CommandRouter.Proofs.FreeData
import CommandRouter.Proofs.Steps
import Mathlib.Data.String.Basic

/-!
# What decoders give

Where a document decodes, what comes of it was read from a part of the document or is a default. For
a record this is said field by field, for free data it comes to this: the data is canonical, and its
numbers are those of the document.
-/

namespace CommandRouter

variable {α β γ : Type}

/-! ## Parts -/

/-- The documents directly inside of a document. -/
def Document.parts : Document → List Document
  | array items => items
  | object members => members.map Prod.snd
  | _ => []

/-! ## Members in order -/

namespace Json

variable {name : String} {x : α} {members : List (String × α)} {m : String × α}

theorem mem_of_mem_insertMember (h : m ∈ insertMember name x members) :
    m = (name, x) ∨ m ∈ members := by
  induction members with
  | nil => exact Or.inl (List.mem_singleton.mp h)
  | cons m' members ih =>
    rw [insertMember] at h
    split at h
    · exact List.mem_cons.mp h
    · split at h
      · exact (List.mem_cons.mp h).imp_right (List.mem_cons_of_mem m')
      · rcases List.mem_cons.mp h with rfl | h
        · exact Or.inr List.mem_cons_self
        · exact (ih h).imp_right (List.mem_cons_of_mem m')

/-- Members in order stay in order when one more is put among them. -/
theorem pairwise_insertMember (h : members.Pairwise fun a b => a.1 < b.1) :
    (insertMember name x members).Pairwise fun a b => a.1 < b.1 := by
  induction members with
  | nil => exact List.pairwise_singleton _ _
  | cons m members ih =>
    obtain ⟨hm, hmembers⟩ := List.pairwise_cons.mp h
    rw [insertMember]
    split
    · rename_i hlt
      refine List.pairwise_cons.mpr ⟨List.forall_mem_cons.mpr ⟨hlt, fun m' hm' => ?_⟩, h⟩
      exact String.lt_trans hlt (hm m' hm')
    · rename_i hge
      split
      · rename_i heq
        exact List.pairwise_cons.mpr ⟨fun m' hm' => heq ▸ hm m' hm', hmembers⟩
      · rename_i hne
        have hlt : m.1 < name := lt_of_le_of_ne (not_lt.mp hge) (Ne.symm hne)
        refine List.pairwise_cons.mpr ⟨fun m' hm' => ?_, ih hmembers⟩
        rcases mem_of_mem_insertMember hm' with rfl | hm'
        · exact hlt
        · exact hm m' hm'

theorem pairwise_sortMembers (members : List (String × α)) :
    (sortMembers members).Pairwise fun a b => a.1 < b.1 := by
  induction members using List.reverseRecOn with
  | nil => exact .nil
  | append_singleton members m ih =>
    rw [sortMembers, List.foldl_append]
    exact pairwise_insertMember ih

theorem mem_of_mem_sortMembers (h : m ∈ sortMembers members) : m ∈ members := by
  induction members using List.reverseRecOn with
  | nil => exact h
  | append_singleton members m' ih =>
    rw [sortMembers, List.foldl_append] at h
    rcases mem_of_mem_insertMember h with rfl | h
    · exact List.mem_append_right _ (List.mem_singleton_self _)
    · exact List.mem_append_left _ (ih h)

end Json

namespace Decoder

variable {n : Nat} {doc : Document}

theorem andThen_eq_ok_iff {d : Decoder α} {f : α → Except DecodeError β} {y : β} :
    d.andThen f n doc = .ok y ↔ ∃ x, d n doc = .ok x ∧ f x = .ok y := bind_eq_ok_iff

theorem ofText_eq_ok_iff {d : Decoder α} {text : String} {x : α} :
    d.ofText text = .ok x ↔ ∃ doc, Document.read text = some doc ∧ d textLevels doc = .ok x := by
  unfold ofText
  cases Document.read text with
  | none => simp [throw, throwThe, MonadExceptOf.throw]
  | some doc => cases h : d textLevels doc <;> simp [Except.mapError, h]

/-! ## Free data -/

theorem values_eq_mapM (n : Nat) (items : List Document) :
    values n items = items.mapM (value n) := by
  induction items with
  | nil => rfl
  | cons doc items ih => rw [values, ih, List.mapM_cons]

theorem mem_of_memberValues {members : List (Option String × Document)}
    {ms : List (String × Json)} (h : memberValues n members = .ok ms) :
    ∀ m ∈ ms, ∃ part ∈ members.map Prod.snd, value n part = .ok m.2 := by
  induction members generalizing ms with
  | nil =>
    cases h
    exact nofun
  | cons member members ih =>
    obtain ⟨name, part⟩ := member
    cases name with
    | none => cases h
    | some name =>
      simp only [memberValues, bind_eq_ok_iff, pure_eq_ok_iff] at h
      obtain ⟨j, hj, ms, hms, rfl⟩ := h
      rw [List.map_cons]
      refine List.forall_mem_cons.mpr ⟨⟨part, List.mem_cons_self, hj⟩, fun m hm => ?_⟩
      obtain ⟨part', hpart', hm⟩ := ih hms m hm
      exact ⟨part', List.mem_cons_of_mem _ hpart', hm⟩

/-- What is known of free data that was read from a document. -/
structure Gives (doc : Document) (j : Json) : Prop where
  canonical : j.Canonical
  finite : doc.Finite → j.document.Finite
  null : j = .null → doc = .null

/-- Free data that is read is canonical, and its numbers are those of the document. The induction is
on the levels that may be entered. -/
theorem gives_of_value {j : Json} (h : value n doc = .ok j) : Gives doc j := by
  induction n using Nat.strongRecOn generalizing doc j with
  | ind n ih =>
    cases doc with
    | null =>
      rw [value] at h
      cases h
      exact ⟨.null, id, fun _ => rfl⟩
    | bool b =>
      rw [value] at h
      cases h
      exact ⟨.bool b, id, by simp⟩
    | number m =>
      rw [value] at h
      cases h
      exact ⟨.number m, id, by simp⟩
    | string s =>
      rw [value] at h
      cases h
      exact ⟨.string s, id, by simp⟩
    | unusable =>
      rw [value] at h
      cases h
    | array items =>
      cases n with
      | zero => cases h
      | succ n =>
        rw [value, map_eq_ok_iff, values_eq_mapM] at h
        obtain ⟨js, hjs, rfl⟩ := h
        have hread := mem_of_mapM_eq_ok hjs
        refine ⟨.array fun j hj => ?_, fun hfinite => ?_, by simp⟩
        · obtain ⟨part, -, hpart⟩ := hread j hj
          exact (ih n (Nat.lt_succ_self n) hpart).canonical
        · cases hfinite with
          | array hitems =>
            rw [Json.document, Json.documents_eq_map]
            refine .array (List.forall_mem_map.mpr fun j hj => ?_)
            obtain ⟨part, hmem, hpart⟩ := hread j hj
            exact (ih n (Nat.lt_succ_self n) hpart).finite (hitems part hmem)
    | object members =>
      cases n with
      | zero => cases h
      | succ n =>
        rw [value, map_eq_ok_iff] at h
        obtain ⟨ms, hms, rfl⟩ := h
        have hread : ∀ m ∈ Json.sortMembers ms, ∃ part ∈ members.map Prod.snd,
            value n part = .ok m.2 := fun m hm =>
          mem_of_memberValues hms m (Json.mem_of_mem_sortMembers hm)
        refine ⟨.object (Json.pairwise_sortMembers ms) fun m hm => ?_, fun hfinite => ?_, by simp⟩
        · obtain ⟨part, -, hpart⟩ := hread m hm
          exact (ih n (Nat.lt_succ_self n) hpart).canonical
        · cases hfinite with
          | object hmembers =>
            rw [Json.document, Json.memberDocuments_eq_map]
            refine .object (List.forall_mem_map.mpr fun m hm => ?_)
            obtain ⟨part, hmem, hpart⟩ := hread m hm
            obtain ⟨member, hmember, rfl⟩ := List.mem_map.mp hmem
            exact (ih n (Nat.lt_succ_self n) hpart).finite (hmembers member hmember)

end Decoder

/-! ## Fields -/

namespace Field

/-- The value of the field was read from a part of the document, or it is the default. -/
def Given (f : Field α) (doc : Document) (x : α) : Prop :=
  f.default? = some x ∨ ∃ n, ∃ part ∈ doc.parts, f.codec.decode n part = .ok x

variable {name : String} {c : Codec α} {doc : Document}

/-- A value of a field that may be absent was read from something that is not null. -/
theorem given_optional {x : α} (h : (optional name c).Given doc (some x)) :
    ∃ n, ∃ part ∈ doc.parts, part ≠ .null ∧ c.decode n part = .ok x := by
  rcases h with h | ⟨n, part, hpart, hread⟩
  · cases h
  · refine ⟨n, part, hpart, ?_⟩
    change Decoder.optional c.decode n part = .ok (some x) at hread
    by_cases hnull : part = .null
    · rw [hnull] at hread
      cases hread
    · rw [Decoder.optional.eq_2 _ _ _ hnull, map_eq_ok_iff] at hread
      obtain ⟨y, hy, heq⟩ := hread
      exact ⟨hnull, Option.some.inj heq ▸ hy⟩

/-- The items of a list were read from the items of an array. -/
theorem given_list {xs : List α} (h : (list name c).Given doc xs) :
    ∀ x ∈ xs, ∃ n, ∃ part ∈ doc.parts, ∃ item ∈ part.parts, c.decode n item = .ok x := by
  rcases h with h | ⟨n, part, hpart, hread⟩
  · cases h
    exact nofun
  · change Decoder.list c.decode n part = .ok xs at hread
    unfold Decoder.list at hread
    split at hread
    · cases hread
    · rename_i n items
      intro x hx
      obtain ⟨item, hitem, hx⟩ := mem_of_mapM_eq_ok hread x hx
      exact ⟨n, .array items, hpart, item, hitem, hx⟩
    · cases hread

end Field

/-! ## Records -/

namespace Fields

/-- All fields are given by the document or by their defaults. -/
def Given : {γ : Type} → Fields γ → Document → γ → Prop
  | _, nil, _, _ => True
  | _, cons f rest, doc, (x, xs) => f.Given doc x ∧ rest.Given doc xs

/-- What stands in the slots was read from parts of the document. -/
def Filled : {γ : Type} → (fs : Fields γ) → Document → fs.Slots → Prop
  | _, nil, _, _ => True
  | _, cons f rest, doc, slots =>
    match (slots : Option _ × rest.Slots) with
    | (slot, others) =>
      (∀ x, slot = some x → ∃ n, ∃ part ∈ doc.parts, f.codec.decode n part = .ok x) ∧
        rest.Filled doc others

variable {n : Nat} {doc part : Document}

theorem filled_noSlots (fs : Fields γ) (doc : Document) : fs.Filled doc fs.noSlots := by
  induction fs with
  | nil => trivial
  | cons f rest ih => exact ⟨nofun, ih⟩

theorem filled_put {fs : Fields γ} {name : String} {slots slots' : fs.Slots}
    (hpart : part ∈ doc.parts) (hslots : fs.Filled doc slots)
    (h : fs.put n name part slots = some (.ok slots')) : fs.Filled doc slots' := by
  induction fs with
  | nil => trivial
  | cons f rest ih =>
    obtain ⟨slot, others⟩ := slots
    obtain ⟨hslot, hothers⟩ := hslots
    simp only [put] at h
    split at h
    · cases slot with
      | some y => cases h
      | none =>
        obtain ⟨x, hx, rfl⟩ := map_eq_ok_iff.mp (Option.some.inj h)
        refine ⟨fun y hy => ?_, hothers⟩
        cases hy
        exact ⟨n, part, hpart, hx⟩
    · obtain ⟨result, hresult, hmap⟩ := Option.map_eq_some_iff.mp h
      obtain ⟨others', rfl, rfl⟩ := map_eq_ok_iff.mp hmap
      exact ⟨hslot, ih hothers hresult⟩

/-- Reading one more member keeps the slots filled from the document. -/
theorem filled_visit {fs : Fields γ} {m : Option String × Document} {slots slots' : fs.Slots}
    (hm : m.2 ∈ doc.parts) (hslots : fs.Filled doc slots)
    (h : fs.visit n slots m = .ok slots') : fs.Filled doc slots' := by
  obtain ⟨name, part⟩ := m
  cases name with
  | none => cases h
  | some name =>
    rw [visit] at h
    cases hput : fs.put n name part slots with
    | none =>
      rw [hput] at h
      cases h
      exact hslots
    | some result =>
      rw [hput] at h
      exact filled_put hm hslots (hput.trans (congrArg some h))

theorem filled_foldlM_visit {fs : Fields γ} {members : List (Option String × Document)}
    {slots slots' : fs.Slots} (hmembers : ∀ m ∈ members, m.2 ∈ doc.parts)
    (hslots : fs.Filled doc slots) (h : members.foldlM (fs.visit n) slots = .ok slots') :
    fs.Filled doc slots' := by
  induction members generalizing slots with
  | nil =>
    cases h
    exact hslots
  | cons m members ih =>
    obtain ⟨hm, hmembers⟩ := List.forall_mem_cons.mp hmembers
    rw [List.foldlM_cons, bind_eq_ok_iff] at h
    obtain ⟨slots'', hvisit, h⟩ := h
    exact ih hmembers (filled_visit hm hslots hvisit) h

theorem given_close {fs : Fields γ} {slots : fs.Slots} {xs : γ} (hslots : fs.Filled doc slots)
    (h : fs.close slots = .ok xs) : fs.Given doc xs := by
  induction fs with
  | nil => trivial
  | cons f rest ih =>
    obtain ⟨slot, others⟩ := slots
    obtain ⟨hslot, hothers⟩ := hslots
    rw [close] at h
    cases hor : slot.or f.default? with
    | none =>
      simp only [hor] at h
      cases h
    | some x =>
      simp only [hor] at h
      obtain ⟨xs, hxs, rfl⟩ := map_eq_ok_iff.mp h
      refine ⟨?_, ih hothers hxs⟩
      rcases Option.or_eq_some_iff.mp hor with hread | ⟨-, hdefault⟩
      · exact Or.inr (hslot x hread)
      · exact Or.inl hdefault

theorem given_decodeItems {fs : Fields γ} {items : List Document} {xs : γ}
    (hitems : ∀ item ∈ items, item ∈ doc.parts) (h : fs.decodeItems n items = .ok xs) :
    fs.Given doc xs := by
  induction fs generalizing items with
  | nil => trivial
  | cons f rest ih =>
    cases items with
    | nil =>
      rw [decodeItems] at h
      split at h
      · rename_i x hdefault
        obtain ⟨xs, hxs, rfl⟩ := map_eq_ok_iff.mp h
        exact ⟨Or.inl hdefault, ih hitems hxs⟩
      · cases h
    | cons item items =>
      obtain ⟨hitem, hitems⟩ := List.forall_mem_cons.mp hitems
      simp only [decodeItems, bind_eq_ok_iff, pure_eq_ok_iff] at h
      obtain ⟨x, hx, xs, hxs, rfl⟩ := h
      exact ⟨Or.inr ⟨n, item, hitem, hx⟩, ih hitems hxs⟩

/-- The fields of a record that decodes are given by the document or by their defaults, whether it
is an object or an array. -/
theorem given_of_decode {fs : Fields γ} {xs : γ} (h : fs.decode n doc = .ok xs) :
    fs.Given doc xs := by
  unfold decode at h
  split at h
  · obtain ⟨slots, hslots, hclose⟩ := bind_eq_ok_iff.mp h
    refine given_close (filled_foldlM_visit (fun m hm => ?_) (fs.filled_noSlots _) hslots) hclose
    exact List.mem_map_of_mem hm
  · exact given_decodeItems (fun _ => id) h
  · cases h
  · cases h
  · cases h

end Fields

end CommandRouter
