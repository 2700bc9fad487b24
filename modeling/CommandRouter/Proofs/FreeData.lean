import CommandRouter.Json.Codec
import Mathlib.Data.List.Induction

/-!
# Free data

Free data is kept in canonical form: the members of each object are in the order of their names, and
the names are distinct. Such data is read back as it was written, from any number of levels that
suffices for its depth.
-/

namespace CommandRouter

namespace Document

variable {n : Nat}

/-! ## Depths -/

theorem depthOfItems_le_iff {items : List Document} :
    depthOfItems items ≤ n ↔ ∀ doc ∈ items, doc.depth ≤ n := by
  induction items with
  | nil => simp [depthOfItems]
  | cons doc items ih => rw [depthOfItems, Nat.max_le, ih, List.forall_mem_cons]

theorem depthOfMembers_le_iff {members : List (Option String × Document)} :
    depthOfMembers members ≤ n ↔ ∀ m ∈ members, m.2.depth ≤ n := by
  induction members with
  | nil => simp [depthOfMembers]
  | cons m members ih => rw [depthOfMembers, Nat.max_le, ih, List.forall_mem_cons]

end Document

namespace Json

variable {α : Type} {name : String} {x : α} {members : List (String × α)} {n : Nat}

theorem documents_eq_map (items : List Json) : documents items = items.map document := by
  induction items with
  | nil => rfl
  | cons j items ih => rw [documents, ih, List.map_cons]

theorem memberDocuments_eq_map (members : List (String × Json)) :
    memberDocuments members = members.map fun m => (some m.1, m.2.document) := by
  induction members with
  | nil => rfl
  | cons m members ih => rw [memberDocuments, ih, List.map_cons]

theorem depth_array_le_iff {items : List Json} :
    (array items).document.depth ≤ n + 1 ↔ ∀ j ∈ items, j.document.depth ≤ n := by
  rw [document, Document.depth, Nat.succ_le_succ_iff, Document.depthOfItems_le_iff,
    documents_eq_map, List.forall_mem_map]

theorem depth_object_le_iff {members : List (String × Json)} :
    (object members).document.depth ≤ n + 1 ↔ ∀ m ∈ members, m.2.document.depth ≤ n := by
  rw [document, Document.depth, Nat.succ_le_succ_iff, Document.depthOfMembers_le_iff,
    memberDocuments_eq_map, List.forall_mem_map]

/-! ## The order of members -/

theorem insertMember_of_lt (h : ∀ m ∈ members, m.1 < name) :
    insertMember name x members = members ++ [(name, x)] := by
  induction members with
  | nil => rfl
  | cons m members ih =>
    obtain ⟨hlt, hrest⟩ := List.forall_mem_cons.mp h
    -- The new name is neither before nor equal to the first one.
    have hne : name ≠ m.1 := fun heq => String.lt_irrefl _ (heq ▸ hlt)
    rw [insertMember, if_neg (String.lt_asymm hlt), if_neg hne, ih hrest, List.cons_append]

/-- Members that are in order stay as they are. -/
theorem sortMembers_of_pairwise (h : members.Pairwise fun a b => a.1 < b.1) :
    sortMembers members = members := by
  induction members using List.reverseRecOn with
  | nil => rfl
  | append_singleton members m ih =>
    rw [List.pairwise_append] at h
    rw [sortMembers, List.foldl_append]
    show insertMember m.1 m.2 (sortMembers members) = _
    rw [ih h.1, insertMember_of_lt fun m' hm' => h.2.2 m' hm' m (List.mem_singleton_self m)]

/-! ## Canonical values -/

/-- In each object the members are in the order of their names, which are distinct. -/
inductive Canonical : Json → Prop where
  | null : Canonical null
  | bool (b : Bool) : Canonical (bool b)
  | number (n : Number) : Canonical (number n)
  | string (s : String) : Canonical (string s)
  | array {items : List Json} (hitems : ∀ j ∈ items, Canonical j) : Canonical (array items)
  | object {members : List (String × Json)} (hordered : members.Pairwise fun a b => a.1 < b.1)
      (hmembers : ∀ m ∈ members, Canonical m.2) : Canonical (object members)

end Json

namespace Decoder

variable {n : Nat}

theorem values_documents {items : List Json} (h : ∀ j ∈ items, value n j.document = .ok j) :
    values n (Json.documents items) = .ok items := by
  induction items with
  | nil => rfl
  | cons j items ih =>
    obtain ⟨hj, hitems⟩ := List.forall_mem_cons.mp h
    rw [Json.documents, values, hj, ih hitems]
    rfl

theorem memberValues_memberDocuments {members : List (String × Json)}
    (h : ∀ m ∈ members, value n m.2.document = .ok m.2) :
    memberValues n (Json.memberDocuments members) = .ok members := by
  induction members with
  | nil => rfl
  | cons m members ih =>
    obtain ⟨hm, hmembers⟩ := List.forall_mem_cons.mp h
    rw [Json.memberDocuments, memberValues, hm, ih hmembers]
    rfl

/-- Canonical data is read back as it was written. -/
theorem value_document {j : Json} (h : j.Canonical) (hdepth : j.document.depth ≤ n) :
    value n j.document = .ok j := by
  induction h generalizing n with
  | null => rw [Json.document, value]
  | bool b => rw [Json.document, value]
  | number m => rw [Json.document, value]
  | string s => rw [Json.document, value]
  | @array items _ ih =>
    cases n with
    | zero => cases hdepth
    | succ n =>
      rw [Json.depth_array_le_iff] at hdepth
      rw [Json.document, value, values_documents fun j hj => ih j hj (hdepth j hj)]
      rfl
  | @object members hordered _ ih =>
    cases n with
    | zero => cases hdepth
    | succ n =>
      rw [Json.depth_object_le_iff] at hdepth
      rw [Json.document, value, memberValues_memberDocuments fun m hm => ih m hm (hdepth m hm),
        Except.map, Json.sortMembers_of_pairwise hordered]

end Decoder

end CommandRouter
