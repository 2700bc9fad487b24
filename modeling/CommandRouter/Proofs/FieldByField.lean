import CommandRouter.Proofs.Decoding
import CommandRouter.Proofs.Records

/-!
# Reading records field by field

A record is read by visiting the members of an object or the items of an array. What comes of it can
be said field by field: a document has some parts for each field, those of its name or the one at
its position, and the value of the field depends on nothing else. So a document that is changed in
the parts for some fields still gives the same record if each of these fields keeps its value.
-/

namespace CommandRouter

variable {α β γ : Type}

namespace Document

/-- The documents of the members of the given name. -/
def named (name : String) (members : List (Option String × Document)) : List Document :=
  members.filterMap fun m => if m.1 = some name then some m.2 else none

/-- What the document has for the field of the given position and name. -/
def partsFor : Document → Nat → String → List Document
  | object members, _, name => named name members
  | array items, i, _ => items[i]?.toList
  | _, _, _ => []

/-- The document can be visited as a record of fields with these names: all members have a name, or
there are no more items than fields. -/
def IsRecord (names : List String) : Document → Prop
  | object members => ∀ m ∈ members, m.1 ≠ none
  | array items => items.length ≤ names.length
  | _ => False

variable {name : String} {part : Document} {members members' : List (Option String × Document)}

theorem named_cons_self : named name ((some name, part) :: members) = part :: named name members :=
  List.filterMap_cons_some (if_pos rfl)

theorem named_cons_of_ne {other : String} (hne : other ≠ name) :
    named name ((some other, part) :: members) = named name members :=
  List.filterMap_cons_none (if_neg fun heq => hne (Option.some.inj heq))

theorem named_cons_none : named name ((none, part) :: members) = named name members := rfl

theorem named_perm (h : members.Perm members') :
    (named name members).Perm (named name members') := h.filterMap _

theorem named_eq_nil_iff : named name members = [] ↔ ∀ m ∈ members, m.1 ≠ some name := by
  simp [named]

/-- The parts of a document lie one level down. -/
theorem depth_lt_of_mem_partsFor {doc : Document} {i : Nat} (h : part ∈ doc.partsFor i name) :
    part.depth < doc.depth := by
  cases doc with
  | object members =>
    obtain ⟨m, hm, hpart⟩ := List.mem_filterMap.mp h
    obtain ⟨-, rfl⟩ := Option.ite_none_right_eq_some.mp hpart |>.imp_right Option.some.inj
    exact Nat.lt_succ_of_le (depthOfMembers_le_iff.mp (Nat.le_refl _) m hm)
  | array items =>
    have hpart := List.mem_of_getElem? (Option.mem_toList.mp h)
    exact Nat.lt_succ_of_le (depthOfItems_le_iff.mp (Nat.le_refl _) part hpart)
  | _ => cases h

end Document

/-! ## One field -/

namespace Field

/-- The parts for the field give it the value: there is one part, from which the value is read, or
there is none, and the value is the default. -/
def Holds (f : Field α) (n : Nat) : List Document → α → Prop
  | [], x => f.default? = some x
  | [part], x => f.codec.decode n part = .ok x
  | _, _ => False

/-- Reads a part into the slot of the field. -/
def fill (f : Field α) (n : Nat) : Option α → Document → Except DecodeError (Option α)
  | some _, _ => .error (.duplicate f.name)
  | none, part => (f.codec.decode n part).map some

/-- What the first parts give to the field, the second parts give to it as well. -/
def Carries (f : Field α) (n : Nat) (parts parts' : List Document) : Prop :=
  ∀ x, f.Holds n parts x → f.Holds n parts' x

/-- The part gives the field the value that the field has without it. -/
def IsDefault (f : Field α) (n : Nat) (part : Document) : Prop :=
  ∃ x, f.default? = some x ∧ f.codec.decode n part = .ok x

variable {f : Field α} {n : Nat} {parts parts' : List Document} {part part' : Document} {x : α}

theorem foldlM_fill_eq_ok_iff : (∃ slot, parts.foldlM (f.fill n) none = .ok slot ∧
    slot.or f.default? = some x) ↔ f.Holds n parts x := by
  match parts with
  | [] => simp [Holds, pure, Except.pure]
  | [part] =>
    cases h : f.codec.decode n part <;>
      simp [Holds, fill, h, Except.map, bind, Except.bind, pure, Except.pure]
  | part :: part' :: parts =>
    cases h : f.codec.decode n part <;> simp [Holds, fill, h, Except.map, bind, Except.bind]

theorem carries_of_perm (h : parts.Perm parts') : f.Carries n parts parts' := by
  intro x hx
  match parts with
  | [] => rwa [h.nil_eq] at hx
  | [part] => rwa [h.singleton_eq] at hx
  | _ :: _ :: _ => exact hx.elim

theorem IsDefault.carries_omitted (h : f.IsDefault n part) :
    f.Carries n (part :: parts) parts := by
  obtain ⟨y, hdefault, hread⟩ := h
  intro x hx
  cases parts with
  | nil =>
    have heq : y = x := Except.ok.inj (hread.symm.trans hx)
    exact hdefault.trans (congrArg some heq)
  | cons _ _ => exact hx.elim

theorem IsDefault.carries_written (h : f.IsDefault n part) : f.Carries n [] [part] := by
  obtain ⟨y, hdefault, hread⟩ := h
  intro x hx
  have heq : y = x := Option.some.inj (hdefault.symm.trans hx)
  exact hread.trans (congrArg Except.ok heq)

theorem carries_of_decode
    (h : ∀ x, f.codec.decode n part = .ok x → f.codec.decode n part' = .ok x) :
    f.Carries n (part :: parts) (part' :: parts) := by
  intro x hx
  cases parts with
  | nil => exact h x hx
  | cons _ _ => exact hx.elim

end Field

/-! ## All fields -/

namespace Fields

/-- The parts for the fields give them the values. -/
def Holds (n : Nat) : {γ : Type} → Fields γ → (Nat → String → List Document) → γ → Prop
  | _, nil, _, _ => True
  | _, cons f rest, parts, (x, xs) =>
    f.Holds n (parts 0 f.name) x ∧ rest.Holds n (fun i => parts (i + 1)) xs

/-- What the first parts give to the fields, the second parts give to them as well, field by
field. -/
def Carries (n : Nat) : {γ : Type} → Fields γ → (Nat → String → List Document) →
    (Nat → String → List Document) → Prop
  | _, nil, _, _ => True
  | _, cons f rest, parts, parts' =>
    f.Carries n (parts 0 f.name) (parts' 0 f.name) ∧
      rest.Carries n (fun i => parts (i + 1)) fun i => parts' (i + 1)

/-- The field stands at the given position among the fields of the record. -/
inductive HasAt : {γ : Type} → Fields γ → Nat → Field α → Prop where
  | head {β : Type} {f : Field α} {rest : Fields β} : HasAt (cons f rest) 0 f
  | tail {β δ : Type} {f : Field α} {g : Field δ} {rest : Fields β} {i : Nat}
      (h : HasAt rest i f) : HasAt (cons g rest) (i + 1) f

variable {fs : Fields γ} {f : Field α} {rest : Fields β} {n i : Nat} {xs : γ}
  {parts parts' : Nat → String → List Document} {members : List (Option String × Document)}

theorem HasAt.name_mem (h : fs.HasAt i f) : f.name ∈ fs.names := by
  induction h with
  | head => exact List.mem_cons_self
  | tail _ ih => exact List.mem_cons_of_mem _ ih

/-! ### Members -/

theorem visit_of_not_mem {name : String} {part : Document} {slots : fs.Slots}
    (hname : name ∉ fs.names) : fs.visit n slots (some name, part) = .ok slots := by
  have hput : fs.put n name part slots = none := by
    induction fs with
    | nil => rfl
    | cons f rest ih =>
      obtain ⟨hne, hname⟩ := not_or.mp (mt List.mem_cons.mpr hname)
      obtain ⟨slot, others⟩ := slots
      have hput : (cons f rest).put n name part (consSlots slot others) =
          (rest.put n name part others).map (Except.map (consSlots slot)) := if_neg hne
      exact hput.trans (by rw [ih hname]; rfl)
  rw [visit, hput]
  rfl

theorem visit_cons_named {slot : Option α} {others : rest.Slots} {part : Document} :
    (cons f rest).visit n (consSlots slot others) (some f.name, part) =
      (f.fill n slot part).map fun slot => consSlots slot others := by
  cases slot with
  | none =>
    rw [visit_cons_self, Field.fill]
    cases f.codec.decode n part <;> rfl
  | some x =>
    have hput : (cons f rest).put n f.name part (consSlots (some x) others) =
        some (.error (.duplicate f.name)) := if_pos rfl
    rw [visit, hput]
    rfl

/-- Reading members fills the slot of the first field and those of the others, apart from one
another. The induction is on the members. -/
theorem foldlM_visit_cons_eq_ok_iff (hname : f.name ∉ rest.names) {slot slot' : Option α}
    {others others' : rest.Slots} :
    members.foldlM ((cons f rest).visit n) (consSlots slot others) = .ok (consSlots slot' others') ↔
      (Document.named f.name members).foldlM (f.fill n) slot = .ok slot' ∧
        members.foldlM (rest.visit n) others = .ok others' := by
  induction members generalizing slot others with
  | nil =>
    show Except.ok (slot, others) = .ok (slot', others') ↔ Except.ok slot = .ok slot' ∧
      Except.ok others = .ok others'
    simp
  | cons m members ih =>
    obtain ⟨name, part⟩ := m
    rw [List.foldlM_cons, List.foldlM_cons]
    cases name with
    | none =>
      rw [Document.named_cons_none]
      simp [visit, bind, Except.bind]
    | some name =>
      by_cases heq : name = f.name
      · -- The others pass the member over, as none of them has this name.
        subst heq
        rw [visit_cons_named, visit_of_not_mem hname, Document.named_cons_self, List.foldlM_cons]
        cases f.fill n slot part with
        | error e => simp [Except.map, bind, Except.bind]
        | ok slot => exact ih
      · rw [visit_cons_of_ne heq, Document.named_cons_of_ne heq]
        cases rest.visit n others (some name, part) with
        | error e => simp [Except.map, bind, Except.bind]
        | ok others => exact ih

theorem foldlM_visit_nil_eq_ok_iff {slots slots' : nil.Slots} :
    members.foldlM (nil.visit n) slots = .ok slots' ↔ ∀ m ∈ members, m.1 ≠ none := by
  induction members generalizing slots with
  | nil => exact ⟨nofun, fun _ => rfl⟩
  | cons m members ih =>
    obtain ⟨name, part⟩ := m
    rw [List.foldlM_cons, List.forall_mem_cons]
    cases name with
    | none => exact ⟨nofun, fun h => absurd rfl h.1⟩
    | some name => exact ih.trans ⟨fun h => ⟨nofun, h⟩, And.right⟩

/-- The members of an object give the values if each field has its value from the members of its
name. -/
theorem foldlM_visit_eq_ok_iff (hnames : fs.names.Nodup) :
    (∃ slots, members.foldlM (fs.visit n) fs.noSlots = .ok slots ∧ fs.close slots = .ok xs) ↔
      (∀ m ∈ members, m.1 ≠ none) ∧ fs.Holds n (fun _ name => Document.named name members) xs := by
  induction fs with
  | nil =>
    simp only [foldlM_visit_nil_eq_ok_iff, Holds, and_true]
    exact ⟨fun ⟨_, h, _⟩ => h, fun h => ⟨(), h, rfl⟩⟩
  | cons f rest ih =>
    obtain ⟨x, xs⟩ := xs
    obtain ⟨hname, hnames⟩ := List.nodup_cons.mp hnames
    have hclose : ∀ slot (others : rest.Slots), (cons f rest).close (consSlots slot others) =
        .ok (x, xs) ↔ slot.or f.default? = some x ∧ rest.close others = .ok xs := by
      intro slot others
      rw [close_consSlots]
      cases slot.or f.default? <;> simp [map_eq_ok_iff, and_comm]
    rw [Holds, ← Field.foldlM_fill_eq_ok_iff, and_left_comm, ← ih hnames]
    constructor
    · rintro ⟨⟨slot, others⟩, hfold, hslots⟩
      obtain ⟨hslot, hothers⟩ := (foldlM_visit_cons_eq_ok_iff hname).mp hfold
      obtain ⟨hx, hxs⟩ := (hclose slot others).mp hslots
      exact ⟨⟨slot, hslot, hx⟩, others, hothers, hxs⟩
    · rintro ⟨⟨slot, hslot, hx⟩, others, hothers, hxs⟩
      exact ⟨consSlots slot others, (foldlM_visit_cons_eq_ok_iff hname).mpr ⟨hslot, hothers⟩,
        (hclose slot others).mpr ⟨hx, hxs⟩⟩

/-! ### Items -/

/-- The items of an array give the values if each field has its value from the item at its
position. -/
theorem decodeItems_eq_ok_iff {items : List Document} : fs.decodeItems n items = .ok xs ↔
    items.length ≤ fs.names.length ∧ fs.Holds n (fun i _ => items[i]?.toList) xs := by
  induction fs generalizing items with
  | nil => cases items <;> simp [decodeItems, names, Holds]
  | cons f rest ih =>
    obtain ⟨x, xs⟩ := xs
    cases items with
    | nil =>
      have hrest := @ih xs []
      simp only [List.length_nil, Nat.zero_le, true_and, List.getElem?_nil] at hrest
      simp only [decodeItems, Holds, List.length_nil, Nat.zero_le, true_and, List.getElem?_nil,
        Option.toList_none, Field.Holds]
      rw [← Option.toList_none, ← hrest]
      cases f.default? <;> simp [map_eq_ok_iff, and_comm]
    | cons item items =>
      simp only [decodeItems, bind_eq_ok_iff, pure_eq_ok_iff, ih, Holds, List.length_cons, names,
        Nat.succ_le_succ_iff, List.getElem?_cons_succ, List.getElem?_cons_zero,
        Option.toList_some, Field.Holds, Prod.mk.injEq]
      constructor
      · rintro ⟨x, hx, xs, ⟨hlength, hxs⟩, rfl, rfl⟩
        exact ⟨hlength, hx, hxs⟩
      · rintro ⟨hlength, hx, hxs⟩
        exact ⟨x, hx, xs, ⟨hlength, hxs⟩, rfl, rfl⟩

/-! ### Records -/

/-- A document decodes as a record if it can be visited as one and has for each field what gives the
field its value. -/
theorem decode_eq_ok_iff (hnames : fs.names.Nodup) {doc : Document} :
    fs.decode (n + 1) doc = .ok xs ↔ doc.IsRecord fs.names ∧ fs.Holds n doc.partsFor xs := by
  cases doc with
  | object members =>
    rw [decode, bind_eq_ok_iff, foldlM_visit_eq_ok_iff hnames]
    rfl
  | array items =>
    rw [decode, decodeItems_eq_ok_iff]
    rfl
  | null | bool | number | string | unusable =>
    refine ⟨fun h => ?_, fun h => h.1.elim⟩
    cases h

theorem decode_zero_ne_ok {doc : Document} : fs.decode 0 doc ≠ .ok xs := by
  cases doc <;> exact nofun

/-! ### Changed documents -/

theorem Carries.holds (h : fs.Carries n parts parts') (hparts : fs.Holds n parts xs) :
    fs.Holds n parts' xs := by
  induction fs generalizing parts parts' with
  | nil => trivial
  | cons f rest ih => exact ⟨h.1 _ hparts.1, ih h.2 hparts.2⟩

/-- The order of the parts for a field does not matter. -/
theorem carries_of_perm (h : ∀ i, ∀ name ∈ fs.names, (parts i name).Perm (parts' i name)) :
    fs.Carries n parts parts' := by
  induction fs generalizing parts parts' with
  | nil => trivial
  | cons f rest ih =>
    exact ⟨Field.carries_of_perm (h 0 f.name List.mem_cons_self),
      ih fun i name hname => h (i + 1) name (List.mem_cons_of_mem _ hname)⟩

/-- If only the parts for one field are changed, nothing has to be known of the others. -/
theorem HasAt.carries (hf : fs.HasAt i f) (hnames : fs.names.Nodup)
    (hothers : ∀ j name, j ≠ i → name ≠ f.name → parts j name = parts' j name)
    (h : f.Carries n (parts i f.name) (parts' i f.name)) : fs.Carries n parts parts' := by
  induction hf generalizing parts parts' with
  | @head _ f rest =>
    -- All others have other names and other positions, so their parts are the same.
    refine ⟨h, carries_of_perm fun j name hname => ?_⟩
    have hne : name ≠ f.name := fun heq => (List.nodup_cons.mp hnames).1 (heq ▸ hname)
    exact .of_eq (hothers (j + 1) name nofun hne)
  | @tail _ _ f g rest i hf ih =>
    obtain ⟨hname, hnames⟩ := List.nodup_cons.mp hnames
    have hne : g.name ≠ f.name := fun heq => hname (heq ▸ hf.name_mem)
    refine ⟨Field.carries_of_perm (.of_eq (hothers 0 g.name nofun hne)), ih hnames ?_ h⟩
    exact fun j name hj => hothers (j + 1) name fun heq => hj (Nat.succ.inj heq)

/-- The second document is a record if the first one is, and gives to each field what the first one
does. -/
structure Keeps (n : Nat) (fs : Fields γ) (doc doc' : Document) : Prop where
  record : doc.IsRecord fs.names → doc'.IsRecord fs.names
  carries : fs.Carries n doc.partsFor doc'.partsFor

theorem Keeps.decode {doc doc' : Document} (h : fs.Keeps n doc doc') (hnames : fs.names.Nodup)
    (hread : fs.decode (n + 1) doc = .ok xs) : fs.decode (n + 1) doc' = .ok xs := by
  obtain ⟨hdoc, hxs⟩ := (decode_eq_ok_iff hnames).mp hread
  exact (decode_eq_ok_iff hnames).mpr ⟨h.record hdoc, h.carries.holds hxs⟩

variable {members' : List (Option String × Document)} {part part' : Document}

theorem keeps_of_perm (h : members.Perm members') : fs.Keeps n (.object members) (.object members')
    where
  record hdoc m hm := hdoc m (h.mem_iff.mpr hm)
  carries := carries_of_perm fun _ _ _ => Document.named_perm h

theorem keeps_added {name : String} (hname : name ∉ fs.names) :
    fs.Keeps n (.object members) (.object ((some name, part) :: members)) where
  record hdoc := List.forall_mem_cons.mpr ⟨nofun, hdoc⟩
  carries := carries_of_perm fun _ _ hother =>
    .of_eq (Document.named_cons_of_ne (ne_of_mem_of_not_mem hother hname).symm).symm

theorem HasAt.keeps_omitted (hf : fs.HasAt i f) (hnames : fs.names.Nodup)
    (hdefault : f.IsDefault n part) :
    fs.Keeps n (.object ((some f.name, part) :: members)) (.object members) where
  record hdoc := (List.forall_mem_cons.mp hdoc).2
  carries := by
    refine hf.carries hnames (fun _ name _ hne => Document.named_cons_of_ne hne.symm) ?_
    rw [Document.partsFor, Document.named_cons_self]
    exact hdefault.carries_omitted

theorem HasAt.keeps_written (hf : fs.HasAt i f) (hnames : fs.names.Nodup)
    (habsent : ∀ m ∈ members, m.1 ≠ some f.name) (hdefault : f.IsDefault n part) :
    fs.Keeps n (.object members) (.object ((some f.name, part) :: members)) where
  record hdoc := List.forall_mem_cons.mpr ⟨nofun, hdoc⟩
  carries := by
    refine hf.carries hnames (fun _ name _ hne => (Document.named_cons_of_ne hne.symm).symm) ?_
    rw [Document.partsFor, Document.partsFor, Document.named_cons_self,
      Document.named_eq_nil_iff.mpr habsent]
    exact hdefault.carries_written

/-- The member of a field may be changed if the field is read from it as before. -/
theorem HasAt.keeps_member (hf : fs.HasAt i f) (hnames : fs.names.Nodup)
    (h : ∀ x, f.codec.decode n part = .ok x → f.codec.decode n part' = .ok x) :
    fs.Keeps n (.object ((some f.name, part) :: members))
      (.object ((some f.name, part') :: members)) where
  record hdoc := List.forall_mem_cons.mpr ⟨nofun, (List.forall_mem_cons.mp hdoc).2⟩
  carries := by
    refine hf.carries hnames (fun _ name _ hne => ?_) ?_
    · rw [Document.partsFor, Document.partsFor, Document.named_cons_of_ne hne.symm,
        Document.named_cons_of_ne hne.symm]
    · rw [Document.partsFor, Document.partsFor, Document.named_cons_self, Document.named_cons_self]
      exact Field.carries_of_decode h

theorem HasAt.keeps_item (hf : fs.HasAt i f) (hnames : fs.names.Nodup) {items : List Document}
    (hpart : items[i]? = some part)
    (h : ∀ x, f.codec.decode n part = .ok x → f.codec.decode n part' = .ok x) :
    fs.Keeps n (.array items) (.array (items.set i part')) where
  record hdoc := (List.length_set ..).trans_le hdoc
  carries := by
    refine hf.carries hnames (fun j _ hne _ => ?_) ?_
    · exact congrArg Option.toList (List.getElem?_set_ne hne.symm).symm
    · obtain ⟨hlength, -⟩ := List.getElem?_eq_some_iff.mp hpart
      rw [Document.partsFor, Document.partsFor, hpart, List.getElem?_set_self hlength]
      exact Field.carries_of_decode h

end Fields

end CommandRouter
