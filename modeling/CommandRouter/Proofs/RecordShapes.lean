import CommandRouter.Config.Extraction
import CommandRouter.Proofs.Layering

/-!
# Reading tables and records

A table is read member by member, and a record field by field: what stands under a key decides about
the part of the record that the field of the key fills in, and about no other part.
-/

namespace CommandRouter

variable {α β σ : Type}

namespace Shape

variable {shape : Shape α} {whole : Shape σ} {slots : List (Slot σ)} {default r v : σ}
  {get : σ → α} {key : String} {members : List (String × Setting)} {x y : Setting}

/-! ## Reading -/

/-- The setting can be read. -/
def Reads (shape : Shape α) (x : Setting) : Prop := ∃ v, shape x = .ok v

/-- The value is what is read off the setting, if there is one, and the default if there is none. -/
def Tells (shape : Shape α) (default v : α) : Option Setting → Prop
  | none => v = default
  | some x => shape x = .ok v

/-- A value is told apart by what is read, whatever it is that is read. -/
theorem Tells.unique {w : σ} {part : Shape σ} {x? : Option Setting} (h : Tells part default v x?)
    (h' : Tells part default w x?) : v = w := by
  cases x? with
  | none => exact h.trans h'.symm
  | some x => exact Except.ok.inj (h.symm.trans h')

theorem below_eq_ok_iff {result : Except (List String) α} {a : α} :
    below key result = .ok a ↔ result = .ok a := by
  cases result <;> simp [below, Except.mapError]

/-- Each member of a table is read by itself. -/
theorem tells_of_table {xs : List (String × α)} (h : table shape (.table members) = .ok xs)
    (key : String) :
    Tells (fun x => (shape x).map some) none (xs.lookup key) (members.lookup key) := by
  simp only [table] at h
  induction members generalizing xs with
  | nil =>
    cases h
    rfl
  | cons m members ih =>
    simp only [List.mapM_cons, bind_eq_ok_iff, pure_eq_ok_iff, map_eq_ok_iff,
      below_eq_ok_iff] at h
    obtain ⟨_, ⟨v, hv, rfl⟩, xs, hxs, rfl⟩ := h
    rw [lookup_cons_eq_ite, lookup_cons_eq_ite]
    by_cases hkey : key = m.1
    · rw [if_pos hkey, if_pos hkey]
      exact map_eq_ok_iff.mpr ⟨v, hv, rfl⟩
    · rw [if_neg hkey, if_neg hkey]
      exact ih hxs

/-- Filling the field leaves a part of the record as it is. -/
def Slot.Keeps (s : Slot σ) (get : σ → α) : Prop := ∀ x r r', s.fill x r = .ok r' → get r' = get r

@[simp] theorem Slot.key_of (key : String) (shape : Shape α) (put : α → σ → σ) :
    (Slot.of key shape put).key = key := rfl

theorem Slot.keeps_of {put : β → σ → σ} {shape : Shape β} (h : ∀ v r, get (put v r) = get r) :
    (Slot.of key shape put).Keeps get := by
  intro x r r' hfill
  obtain ⟨v, -, rfl⟩ := map_eq_ok_iff.mp hfill
  exact h v r

/-- The shape is that of a record, in which the field of the given key and shape fills in the part,
and no other field does. -/
def HasPart (whole : Shape σ) (default : σ) (key : String) (shape : Shape α) (get : σ → α) : Prop :=
  ∃ slots put, whole = record default slots ∧
    slots.find? (fun s => s.key == key) = some (.of key shape put) ∧
    (∀ v r, get (put v r) = v) ∧ ∀ s ∈ slots, s.key ≠ key → s.Keeps get

theorem fillMember_of_find? {m : String × Setting} {s : Slot σ}
    (h : slots.find? (fun s => s.key == m.1) = some s) :
    fillMember slots r m = below m.1 (s.fill m.2 r) := by rw [fillMember, h]

theorem fillMember_of_find?_eq_none {m : String × Setting}
    (h : slots.find? (fun s => s.key == m.1) = none) : fillMember slots r m = .ok r := by
  rw [fillMember, h]

/-- What a record is read as has in each part what the member under its key is read as. -/
theorem HasPart.tells (h : whole.HasPart default key shape get)
    (hordered : members.Pairwise fun a b => a.1 < b.1) (hread : whole (.table members) = .ok r) :
    Tells shape (get default) (get r) (members.lookup key) := by
  obtain ⟨slots, put, rfl, hown, hput, hother⟩ := h
  simp only [record] at hread
  induction members generalizing default with
  | nil =>
    cases hread
    rfl
  | cons m members ih =>
    rw [List.foldlM_cons, bind_eq_ok_iff] at hread
    obtain ⟨r', hfill, hrest⟩ := hread
    have htells := ih (List.pairwise_cons.mp hordered).2 hrest
    rw [lookup_cons_eq_ite]
    by_cases hkey : key = m.1
    · subst hkey
      rw [fillMember_of_find? hown, below_eq_ok_iff] at hfill
      obtain ⟨v, hv, rfl⟩ := map_eq_ok_iff.mp hfill
      -- The key does not come again, so that the part stays as it is now.
      rw [lookup_eq_none_of_pairwise hordered] at htells
      rw [if_pos rfl]
      exact hv.trans (congrArg Except.ok (htells.trans (hput v default)).symm)
    · rw [if_neg hkey]
      have hkeep : get r' = get default := by
        cases hfind : slots.find? (fun s => s.key == m.1) with
        | none =>
          rw [fillMember_of_find?_eq_none hfind] at hfill
          cases hfill
          rfl
        | some s =>
          rw [fillMember_of_find? hfind, below_eq_ok_iff] at hfill
          have hs : s.key = m.1 := beq_iff_eq.mp (List.find?_some hfind :)
          exact hother s (List.mem_of_find?_eq_some hfind) (hs ▸ Ne.symm hkey) m.2 default r' hfill
      rwa [hkeep] at htells

/-- A table can be read as a record if the members under the keys of the fields can be read. -/
theorem reads_record (hordered : members.Pairwise fun a b => a.1 < b.1)
    (h : ∀ s ∈ slots, ∀ x, members.lookup s.key = some x → ∀ r, ∃ r', s.fill x r = .ok r') :
    (record default slots).Reads (.table members) := by
  have hmembers : ∀ m ∈ members, ∀ r, ∃ r', fillMember slots r m = .ok r' := by
    intro m hm r
    cases hfind : slots.find? (fun s => s.key == m.1) with
    | none => exact ⟨r, fillMember_of_find?_eq_none hfind⟩
    | some s =>
      have hs : s.key = m.1 := beq_iff_eq.mp (List.find?_some hfind :)
      obtain ⟨r', hr'⟩ := h s (List.mem_of_find?_eq_some hfind) m.2
        (hs ▸ lookup_eq_some_of_mem hordered hm) r
      exact ⟨r', (fillMember_of_find? hfind).trans (below_eq_ok_iff.mpr hr')⟩
  unfold Reads
  simp only [record]
  clear h hordered
  induction members generalizing default with
  | nil => exact ⟨default, rfl⟩
  | cons m members ih =>
    obtain ⟨hm, hmembers⟩ := List.forall_mem_cons.mp hmembers
    obtain ⟨r', hr'⟩ := hm default
    obtain ⟨v, hv⟩ : ∃ v, members.foldlM (fillMember slots) r' = .ok v := ih hmembers
    exact ⟨v, bind_eq_ok_iff.mpr ⟨r', hr', hv⟩⟩

theorem Slot.fills_of {put : α → σ → σ} (h : shape.Reads x) (r : σ) :
    ∃ r', (Slot.of key shape put).fill x r = .ok r' := by
  obtain ⟨v, hv⟩ := h
  exact ⟨put v r, map_eq_ok_iff.mpr ⟨v, hv, rfl⟩⟩

end Shape

end CommandRouter
