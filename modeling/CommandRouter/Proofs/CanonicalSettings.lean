import CommandRouter.Config.Notation
import CommandRouter.Proofs.Decoding
import CommandRouter.Toml.Reader

/-!
# Settings in order

Whatever a source gives, be it a file, a variable or a value that is set: in each of its tables the
members are in the order of their keys, and the keys are distinct. Laying settings over one another
keeps this.
-/

namespace CommandRouter

/-! ## Scanners -/

namespace Text.Scan

variable {α β : Type}

/-- All values that a scanner reads have the property. -/
def Gives (s : Scan α) (P : α → Prop) : Prop := ∀ cs x rest, s cs = some (x, rest) → P x

variable {s t : Scan α} {f : α → Scan β} {P : α → Prop} {Q : β → Prop}

theorem Gives.bind (hs : s.Gives P) (hf : ∀ x, P x → (f x).Gives Q) : (s >>= f).Gives Q := by
  intro cs y rest h
  obtain ⟨⟨x, mid⟩, hx, hy⟩ := Option.bind_eq_some_iff.mp h
  exact hf x (hs cs x mid hx) mid y rest hy

/-- What a scanner reads first need not matter. -/
theorem gives_bind (hf : ∀ x, (f x).Gives Q) : (s >>= f).Gives Q :=
  Gives.bind (P := fun _ => True) (fun _ _ _ _ => trivial) fun x _ => hf x

theorem gives_pure {x : α} (hx : P x) : (pure x : Scan α).Gives P := by
  intro cs y rest h
  cases h
  exact hx

theorem gives_failure : (failure : Scan α).Gives P := by
  intro cs x rest h
  cases h

theorem Gives.orElse (hs : s.Gives P) (ht : t.Gives P) : (s <|> t).Gives P := by
  intro cs x rest h
  have heq : (s <|> t) cs = (s cs <|> t cs) := rfl
  rw [heq] at h
  cases hfirst : s cs with
  | some result =>
    rw [hfirst] at h
    cases h
    exact hs cs x rest hfirst
  | none =>
    rw [hfirst] at h
    exact ht cs x rest h

theorem gives_map {g : α → β} (hg : ∀ x, Q (g x)) : (g <$> s).Gives Q := by
  intro cs y rest h
  obtain ⟨⟨x, mid⟩, -, hy⟩ := Option.bind_eq_some_iff.mp h
  cases hy
  exact hg x

theorem gives_lift {x? : Option α} (h : ∀ x, x? = some x → P x) :
    Gives (StateT.lift x?) P := by
  intro cs x rest hx
  obtain ⟨x', hx', heq⟩ := Option.bind_eq_some_iff.mp hx
  cases heq
  exact h x hx'

theorem Gives.all? {cs : List Char} {x : α} (hs : s.Gives P) (h : s.all? cs = some x) : P x := by
  unfold Scan.all? at h
  split at h
  · cases h
    rename_i hx
    exact hs cs x [] hx
  · cases h

end Text.Scan

/-! ## Settings -/

namespace Setting

variable {x below above : Setting} {key : String} {members : List (String × Setting)}

/-- In each table the members are in the order of their keys, which are distinct. -/
inductive Canonical : Setting → Prop where
  | ordered {members : List (String × Setting)} (hordered : members.Pairwise fun a b => a.1 < b.1)
      (hmembers : ∀ m ∈ members, Canonical m.2) : Canonical (table members)
  | leaf {x : Setting} (hx : ∀ members, x ≠ table members) : Canonical x

theorem canonical_table_iff : (table members).Canonical ↔
    (members.Pairwise fun a b => a.1 < b.1) ∧ ∀ m ∈ members, m.2.Canonical := by
  constructor
  · intro h
    cases h with
    | ordered hordered hmembers => exact ⟨hordered, hmembers⟩
    | leaf hx => exact absurd rfl (hx members)
  · exact fun h => .ordered h.1 h.2

theorem canonical_ofMembers (h : ∀ m ∈ members, m.2.Canonical) : (ofMembers members).Canonical :=
  .ordered (Json.pairwise_sortMembers members) fun m hm => h m (Json.mem_of_mem_sortMembers hm)

theorem Canonical.insertMember (h : (table members).Canonical) (hx : x.Canonical) :
    (table (Json.insertMember key x members)).Canonical := by
  obtain ⟨hordered, hmembers⟩ := canonical_table_iff.mp h
  refine .ordered (Json.pairwise_insertMember hordered) fun m hm => ?_
  rcases Json.mem_of_mem_insertMember hm with rfl | hm
  · exact hx
  · exact hmembers m hm

theorem Canonical.of_lookup (h : (table members).Canonical) (hx : members.lookup key = some x) :
    x.Canonical := by
  obtain ⟨before, after, rfl, -⟩ := List.lookup_eq_some_iff.mp hx
  exact (canonical_table_iff.mp h).2 (key, x) (by simp)

theorem merge_of_ne_table (h : ∀ members, above ≠ table members) : merge below above = above := by
  cases above with
  | table members => exact absurd rfl (h members)
  | _ => rfl

theorem Canonical.mergeMembers (h : (table members).Canonical) {upper : List (String × Setting)}
    (hupper : ∀ m ∈ upper, m.2.Canonical)
    (hmerge : ∀ m ∈ upper, ∀ y, y.Canonical → (merge y m.2).Canonical) :
    (table (Setting.mergeMembers members upper)).Canonical := by
  induction upper generalizing members with
  | nil => exact h
  | cons m upper ih =>
    obtain ⟨hm, hupper⟩ := List.forall_mem_cons.mp hupper
    obtain ⟨hmergem, hmerge⟩ := List.forall_mem_cons.mp hmerge
    rw [Setting.mergeMembers]
    refine ih (h.insertMember ?_) hupper hmerge
    cases hlookup : members.lookup m.1 with
    | none => exact hm
    | some y => exact hmergem y (h.of_lookup hlookup)

theorem Canonical.merge (hbelow : below.Canonical) (habove : above.Canonical) :
    (Setting.merge below above).Canonical := by
  induction habove generalizing below with
  | leaf hx =>
    rw [merge_of_ne_table hx]
    exact .leaf hx
  | ordered hordered hmembers ih =>
    cases below with
    | table others => exact hbelow.mergeMembers hmembers fun m hm y hy => ih m hm hy
    | _ => exact .ordered hordered hmembers

theorem Canonical.nest (hx : x.Canonical) (keys : List String) :
    (Setting.nest x keys).Canonical := by
  induction keys with
  | nil => exact hx
  | cons key keys ih =>
    rw [Setting.nest]
    split
    · exact hx
    · exact .ordered (List.pairwise_singleton _ _) (List.forall_mem_singleton.mpr ih)

/-! ## Values that are set -/

mutual

theorem canonical_ofJson : ∀ j, (ofJson j).Canonical
  | .null | .bool _ | .number (.integer _) | .number (.double _) | .string _ | .array _ =>
    .leaf nofun
  | .object members => canonical_ofMembers (canonical_ofJsonMembers members)

theorem canonical_ofJsonMembers :
    ∀ members, ∀ m ∈ ofJsonMembers members, m.2.Canonical
  | [], _, hm => absurd hm List.not_mem_nil
  | (_, j) :: members, m, hm => by
    rcases List.mem_cons.mp hm with rfl | hm
    · exact canonical_ofJson j
    · exact canonical_ofJsonMembers members m hm

end

/-! ## Variables -/

theorem canonical_ofWord (cs : List Char) : (ofWord cs).Canonical := by
  unfold ofWord
  split
  · exact .leaf nofun
  · split <;> exact .leaf nofun

/-- Values and members in the notation of variables are in order. -/
theorem gives_canonical (n : Nat) : (value n).Gives Canonical ∧
    (Setting.members n).Gives fun ms => ∀ m ∈ ms, m.2.Canonical := by
  induction n with
  | zero => exact ⟨Text.Scan.gives_failure, Text.Scan.gives_failure⟩
  | succ n ih =>
    obtain ⟨hvalue, hmembers⟩ := ih
    constructor
    · rw [value]
      refine Text.Scan.gives_bind fun _ => Text.Scan.Gives.bind (P := Canonical) ?_ fun x hx =>
        Text.Scan.gives_bind fun _ => Text.Scan.gives_pure hx
      intro cs x rest h
      dsimp only at h
      -- Only what begins with a brace is a table.
      split at h
      case h_4 =>
        obtain ⟨⟨ms, rest'⟩, hms, heq⟩ := Option.map_eq_some_iff.mp h
        cases heq
        exact canonical_ofMembers (hmembers _ _ _ hms)
      case h_3 | h_5 =>
        obtain ⟨_, -, heq⟩ := Option.map_eq_some_iff.mp h
        cases heq
        exact .leaf nofun
      case h_8 =>
        cases h
        exact canonical_ofWord _
      all_goals
        cases h
        try exact .leaf nofun
    · rw [Setting.members]
      refine Text.Scan.Gives.orElse (Text.Scan.gives_bind fun _ => Text.Scan.gives_pure nofun) ?_
      refine Text.Scan.gives_bind fun _ => Text.Scan.gives_bind fun key => ?_
      refine Text.Scan.gives_bind fun _ => Text.Scan.gives_bind fun _ => ?_
      refine hvalue.bind fun x hx => ?_
      refine Text.Scan.Gives.orElse ?_ ?_
      · refine Text.Scan.gives_bind fun _ => hmembers.bind fun ms hms => Text.Scan.gives_pure ?_
        exact List.forall_mem_cons.mpr ⟨hx, hms⟩
      · exact Text.Scan.gives_bind fun _ => Text.Scan.gives_pure (List.forall_mem_singleton.mpr hx)

theorem canonical_ofVariable (s : String) : (ofVariable s).Canonical := by
  show (((value (2 * s.toList.length + 1)).all? s.toList).getD (.string s)).Canonical
  cases hread : (value (2 * s.toList.length + 1)).all? s.toList with
  | none => exact .leaf nofun
  | some x => exact (gives_canonical _).1.all? hread

end Setting

/-! ## Files -/

namespace Toml

open Text (Scan)

/-- The settings that a node stands for are in order. -/
inductive Node.Canonical : Node → Prop where
  | value {x : Setting} (hx : x.Canonical) : Canonical (value x)
  | table {origin : Origin} {members : List (String × Node)}
      (hmembers : ∀ m ∈ members, Canonical m.2) : Canonical (table origin members)
  | tables {last : List (String × Node)} {others : List (List (String × Node))} :
      Canonical (tables last others)

theorem Node.settings_eq_map (ms : List (String × Node)) :
    Node.settings ms = ms.map fun m => (m.1, m.2.setting) := by
  induction ms with
  | nil => rfl
  | cons m ms ih => rw [Node.settings, ih, List.map_cons]

theorem Node.Canonical.setting {x : Node} (h : x.Canonical) : x.setting.Canonical := by
  induction h with
  | value hx => exact hx
  | table hmembers ih =>
    rw [Node.setting, Node.settings_eq_map]
    exact Setting.canonical_ofMembers (List.forall_mem_map.mpr ih)
  | tables => exact .leaf nofun

namespace Members

variable {key k : String} {ms ms' : Members} {node : Node} {x : Setting}

/-- The settings that the members stand for are in order. -/
def Canonical (ms : Members) : Prop := ∀ m ∈ ms, m.2.Canonical

theorem Canonical.setting (h : ms.Canonical) : (Setting.ofMembers (Node.settings ms)).Canonical := by
  rw [Node.settings_eq_map]
  exact Setting.canonical_ofMembers (List.forall_mem_map.mpr fun m hm => (h m hm).setting)

theorem canonical_nil : Canonical [] := fun _ hm => absurd hm List.not_mem_nil

theorem Canonical.add (h : ms.Canonical) (hnode : node.Canonical) :
    Canonical (ms ++ [(key, node)]) :=
  List.forall_mem_append.mpr ⟨h, List.forall_mem_singleton.mpr hnode⟩

theorem Canonical.put (h : ms.Canonical) (hnode : node.Canonical) :
    (Members.put key node ms).Canonical := by
  induction ms with
  | nil => exact List.forall_mem_singleton.mpr hnode
  | cons m ms ih =>
    obtain ⟨hm, hms⟩ := List.forall_mem_cons.mp h
    rw [Members.put]
    split
    · exact List.forall_mem_cons.mpr ⟨hnode, hms⟩
    · exact List.forall_mem_cons.mpr ⟨hm, ih hms⟩

theorem Canonical.of_lookup {origin : Origin} {sub : Members} (h : ms.Canonical)
    (hlookup : ms.lookup k = some (.table origin sub)) : sub.Canonical := by
  obtain ⟨before, after, rfl, -⟩ := List.lookup_eq_some_iff.mp hlookup
  have hnode : (Node.table origin sub).Canonical := h (k, .table origin sub) (by simp)
  cases hnode with
  | table hmembers => exact hmembers

theorem Canonical.define (h : ms.Canonical) (hx : x.Canonical) {path : List String}
    (hdefine : define key x path ms = some ms') : ms'.Canonical := by
  induction path generalizing ms ms' with
  | nil =>
    rw [Members.define] at hdefine
    split at hdefine
    · cases hdefine
    · cases hdefine
      exact h.add (.value hx)
  | cons k path ih =>
    rw [Members.define] at hdefine
    split at hdefine
    · obtain ⟨sub, hsub, rfl⟩ := Option.map_eq_some_iff.mp hdefine
      exact h.add (.table (ih canonical_nil hsub))
    · rename_i hlookup
      split at hdefine
      · cases hdefine
      · obtain ⟨sub', hsub, rfl⟩ := Option.map_eq_some_iff.mp hdefine
        exact h.put (.table (ih (h.of_lookup hlookup) hsub))
    · split at hdefine
      · cases hdefine
      · obtain ⟨last', -, rfl⟩ := Option.map_eq_some_iff.mp hdefine
        exact h.put .tables
    · cases hdefine

theorem Canonical.within (h : ms.Canonical) {change : Members → Option Members}
    (hchange : ∀ ms ms', Canonical ms → change ms = some ms' → Canonical ms') {path : List String}
    (hwithin : within change path ms = some ms') : ms'.Canonical := by
  induction path generalizing ms ms' with
  | nil => exact hchange ms ms' h hwithin
  | cons k path ih =>
    rw [Members.within] at hwithin
    split at hwithin
    · obtain ⟨sub, hsub, rfl⟩ := Option.map_eq_some_iff.mp hwithin
      exact h.add (.table (ih canonical_nil hsub))
    · rename_i hlookup
      obtain ⟨sub', hsub, rfl⟩ := Option.map_eq_some_iff.mp hwithin
      exact h.put (.table (ih (h.of_lookup hlookup) hsub))
    · obtain ⟨last', -, rfl⟩ := Option.map_eq_some_iff.mp hwithin
      exact h.put .tables
    · cases hwithin

theorem Canonical.openTable (h : ms.Canonical) (hopen : openTable key ms = some ms') :
    ms'.Canonical := by
  rw [Members.openTable] at hopen
  split at hopen
  · cases hopen
    exact h.add (.table canonical_nil)
  · rename_i hlookup
    cases hopen
    exact h.put (.table (h.of_lookup hlookup))
  · cases hopen

theorem Canonical.appendTable (h : ms.Canonical) (happend : appendTable key ms = some ms') :
    ms'.Canonical := by
  rw [Members.appendTable] at happend
  split at happend
  · cases happend
    exact h.add .tables
  · cases happend
    exact h.put .tables
  · cases happend

end Members

/-! ### Values -/

theorem gives_canonical_scalar : scalar.Gives Setting.Canonical := by
  have hmoment : momentSetting.Gives Setting.Canonical := by
    intro cs x rest h
    obtain ⟨_, -, heq⟩ := Option.map_eq_some_iff.mp h
    cases heq
    exact .ordered (List.pairwise_singleton _ _) (List.forall_mem_singleton.mpr (.leaf nofun))
  have hreal : realNumber.Gives Setting.Canonical := by
    refine Scan.gives_bind fun _ => Scan.gives_bind fun _ => Scan.gives_bind fun _ =>
      Scan.gives_bind fun _ => ?_
    dsimp only
    split
    · exact Scan.gives_failure.bind (P := fun _ => False) fun _ h => h.elim
    · split
      · exact Scan.gives_pure (.leaf nofun)
      · exact Scan.gives_failure
  have hspecial : specialNumber.Gives Setting.Canonical :=
    Scan.gives_bind fun _ => Scan.gives_bind fun _ => Scan.gives_pure (.leaf nofun)
  have hinteger : integer.Gives Setting.Canonical := by
    refine Scan.gives_bind fun n => ?_
    split
    · exact Scan.gives_pure (.leaf nofun)
    · exact Scan.gives_failure
  have htruth : truth.Gives Setting.Canonical :=
    .orElse (Scan.gives_bind fun _ => Scan.gives_pure (.leaf nofun))
      (Scan.gives_bind fun _ => Scan.gives_pure (.leaf nofun))
  exact .orElse (Scan.gives_map fun _ => .leaf nofun) <| .orElse htruth <| .orElse hmoment <|
    .orElse hreal <| .orElse hspecial hinteger

/-- Values and pairs of a document are in order. -/
theorem gives_canonical (n : Nat) : (∀ level, (value n level).Gives Setting.Canonical) ∧
    ∀ level ms, Members.Canonical ms → (pairs n level ms).Gives Members.Canonical := by
  induction n with
  | zero => exact ⟨fun _ => Scan.gives_failure, fun _ _ _ => Scan.gives_failure⟩
  | succ n ih =>
    obtain ⟨hvalue, hpairs⟩ := ih
    constructor
    · intro level cs x rest h
      rw [value] at h
      dsimp only at h
      split at h
      · obtain ⟨_, -, heq⟩ := Option.map_eq_some_iff.mp h
        cases heq
        exact .leaf nofun
      · split at h
        · cases h
          exact .ordered .nil (List.forall_mem_nil _)
        · obtain ⟨⟨ms, rest'⟩, hms, heq⟩ := Option.map_eq_some_iff.mp h
          cases heq
          exact (hpairs _ [] Members.canonical_nil _ _ _ hms).setting
      · exact gives_canonical_scalar _ _ _ h
    · intro level ms hms
      rw [pairs]
      refine Scan.gives_bind fun (path, key) => Scan.gives_bind fun _ => Scan.gives_bind fun _ => ?_
      refine (hvalue level).bind fun x hx => Scan.gives_bind fun _ => ?_
      refine (Scan.gives_lift fun ms' hdefine => hms.define hx hdefine).bind fun ms' hms' => ?_
      refine Scan.gives_bind fun comma => ?_
      cases comma with
      | some _ => exact hpairs level ms' hms'
      | none => exact Scan.gives_bind fun _ => Scan.gives_pure hms'

/-! ### Lines -/

/-- A line keeps the members of a document in order. -/
theorem gives_canonical_line (steps : Nat) {d : Draft} (hd : d.root.Canonical) :
    (line steps d).Gives fun d => d.root.Canonical := by
  have hheader (mark : Scan Unit) (change : String → Members → Option Members)
      (hchange : ∀ key ms ms', Members.Canonical ms → change key ms = some ms' →
        Members.Canonical ms') (path : List String) (key : String) :
      Scan.Gives (mark >>= fun _ => lineEnd >>= fun _ =>
        StateT.lift (d.root.within (change key) path) >>= fun root =>
          pure { root, header := path ++ [key] } : Scan Draft) fun d => d.root.Canonical := by
    refine Scan.gives_bind fun _ => Scan.gives_bind fun _ => ?_
    exact (Scan.gives_lift fun ms h => hd.within (hchange key) h).bind fun ms hms =>
      Scan.gives_pure hms
  intro cs d' rest h
  unfold line at h
  split at h
  · refine Scan.gives_bind (Q := fun d : Draft => d.root.Canonical) ?_ _ _ _ h
    rintro ⟨path, key⟩
    exact hheader _ _ (fun _ _ _ h happend => h.appendTable happend) path key
  · refine Scan.gives_bind (Q := fun d : Draft => d.root.Canonical) ?_ _ _ _ h
    rintro ⟨path, key⟩
    exact hheader _ _ (fun _ _ _ h hopen => h.openTable hopen) path key
  · refine Scan.gives_bind (Q := fun d : Draft => d.root.Canonical) ?_ _ _ _ h
    rintro ⟨path, key⟩
    refine Scan.gives_bind fun _ => Scan.gives_bind fun _ => ?_
    refine ((gives_canonical steps).1 _).bind fun x hx => Scan.gives_bind fun _ => ?_
    refine Scan.Gives.bind (Scan.gives_lift fun ms h => ?_) fun ms hms => Scan.gives_pure hms
    exact hd.within (fun _ _ hms hdefine => hms.define hx hdefine) h

theorem canonical_readLines {steps n : Nat} {d d' : Draft} {cs : List Char}
    (hd : d.root.Canonical) (h : readLines steps n d cs = some d') : d'.root.Canonical := by
  induction n generalizing d cs with
  | zero => cases h
  | succ n ih =>
    rw [readLines] at h
    split at h
    · cases h
      exact hd
    · exact ih hd h
    · obtain ⟨⟨⟨⟩, rest⟩, -, hrest⟩ := Option.bind_eq_some_iff.mp h
      exact ih hd hrest
    · obtain ⟨⟨d'', rest⟩, hline, hrest⟩ := Option.bind_eq_some_iff.mp h
      exact ih (gives_canonical_line steps hd _ _ _ hline) hrest

theorem canonical_read {text : String} {x : Setting} (h : read text = some x) : x.Canonical := by
  obtain ⟨d, hd, rfl⟩ := Option.map_eq_some_iff.mp h
  exact (canonical_readLines Members.canonical_nil hd).setting

end Toml

end CommandRouter
