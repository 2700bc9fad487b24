import CommandRouter.Proofs.CanonicalSettings

/-!
# Layers of settings

Settings that are laid over one another are resolved path by path. Where all of them have nothing or
tables on the way to a path, and nothing or a value in the end, what the result has there is what
the last of them has that has anything.
-/

namespace CommandRouter

variable {α : Type}

/-! ## Members -/

theorem lookup_cons_eq_ite (key : String) (m : String × α) (members : List (String × α)) :
    (m :: members).lookup key = if key = m.1 then some m.2 else members.lookup key := by
  rw [List.lookup_cons]
  by_cases h : key = m.1
  · rw [h, if_pos rfl, BEq.rfl]
  · rw [if_neg h, beq_false_of_ne h]

theorem Json.lookup_insertMember (key name : String) (x : α) (members : List (String × α)) :
    (Json.insertMember name x members).lookup key =
      if key = name then some x else members.lookup key := by
  induction members with
  | nil => exact lookup_cons_eq_ite key (name, x) []
  | cons m members ih =>
    rw [insertMember]
    split
    · exact lookup_cons_eq_ite key (name, x) (m :: members)
    · split
      · rename_i heq
        rw [lookup_cons_eq_ite, lookup_cons_eq_ite, heq]
        by_cases h : key = m.1
        · rw [if_pos h, if_pos h]
        · rw [if_neg h, if_neg h, if_neg h]
      · rename_i hne
        rw [lookup_cons_eq_ite, ih, lookup_cons_eq_ite]
        by_cases h : key = m.1
        · rw [if_pos h, if_pos h, if_neg fun heq => hne (heq.symm.trans h)]
        · rw [if_neg h, if_neg h]

/-- The first key of members in order does not come again. -/
theorem lookup_eq_none_of_pairwise {m : String × α} {members : List (String × α)}
    (h : (m :: members).Pairwise fun a b => a.1 < b.1) : members.lookup m.1 = none := by
  refine List.lookup_eq_none_iff.mpr fun m' hm' => bne_iff_ne.mpr fun heq => ?_
  exact String.lt_irrefl m.1 (heq ▸ (List.pairwise_cons.mp h).1 m' hm')

/-- In members in order each member is the one under its key. -/
theorem lookup_eq_some_of_mem {members : List (String × α)} {m : String × α}
    (h : members.Pairwise fun a b => a.1 < b.1) (hm : m ∈ members) :
    members.lookup m.1 = some m.2 := by
  obtain ⟨before, after, rfl⟩ := List.append_of_mem hm
  refine List.lookup_eq_some_iff.mpr ⟨before, after, rfl, fun m' hm' => bne_iff_ne.mpr fun heq => ?_⟩
  have hlt := (List.pairwise_append.mp h).2.2 m' hm' m List.mem_cons_self
  exact String.lt_irrefl m.1 (heq ▸ hlt)

namespace Setting

variable {x y below above base : Setting} {P : Setting → Prop} {key : String} {path : List String}
  {members : List (String × Setting)} {sources : List Setting}

theorem lookup_mergeMembers (below : List (String × Setting))
    (h : members.Pairwise fun a b => a.1 < b.1) (key : String) :
    (mergeMembers below members).lookup key =
      match members.lookup key with
      | some x => some ((below.lookup key).elim x fun y => merge y x)
      | none => below.lookup key := by
  induction members generalizing below with
  | nil => rfl
  | cons m members ih =>
    rw [mergeMembers, ih _ (List.pairwise_cons.mp h).2, Json.lookup_insertMember,
      lookup_cons_eq_ite]
    by_cases hkey : key = m.1
    · rw [hkey, lookup_eq_none_of_pairwise h]
      cases below.lookup m.1 <;> simp
    · simp [hkey]

/-! ## Paths -/

/-- What a setting has at a path. -/
def at? (x : Setting) : List String → Option Setting
  | [] => some x
  | key :: path =>
    match x with
    | table members => (members.lookup key).bind (·.at? path)
    | _ => none

/-- The setting has nothing or tables on the way to the path, and in the end nothing or something
that has the property. -/
def Fits (P : Setting → Prop) (x : Setting) : List String → Prop
  | [] => P x
  | key :: path =>
    match x with
    | table members => ∀ y, members.lookup key = some y → y.Fits P path
    | _ => False

theorem fits_cons_iff : x.Fits P (key :: path) ↔
    ∃ members, x = table members ∧ ∀ y, members.lookup key = some y → y.Fits P path := by
  cases x <;> simp [Fits]

theorem fits_empty_table : (table []).Fits P (key :: path) := nofun

/-- A single value fits at all paths that neither go on behind its own nor end before it. -/
theorem fits_nest {path' : List String} (hkeys : ∀ key ∈ path, key.isEmpty = false)
    (hx : path = path' → P x) (hbehind : path <+: path' → path = path')
    (hbefore : path' <+: path → path = path') : (nest x path).Fits P path' := by
  induction path generalizing path' with
  | nil =>
    cases hbehind List.nil_prefix
    exact hx rfl
  | cons key path ih =>
    obtain ⟨hkey, hrest⟩ := List.forall_mem_cons.mp hkeys
    rw [nest, hkey, if_neg Bool.false_ne_true]
    cases path' with
    | nil => cases hbefore List.nil_prefix
    | cons key' path' =>
      intro y hy
      rw [lookup_cons_eq_ite] at hy
      by_cases heq : key' = key
      · rw [if_pos heq] at hy
        cases hy
        subst heq
        refine ih hrest (fun h => hx (h ▸ rfl)) (fun h => ?_) fun h => ?_
        · exact (List.cons.inj (hbehind (List.cons_prefix_cons.mpr ⟨rfl, h⟩))).2
        · exact (List.cons.inj (hbefore (List.cons_prefix_cons.mpr ⟨rfl, h⟩))).2
      · rw [if_neg heq] at hy
        cases hy

/-! ## Two layers -/

/-- What two settings laid over one another have at a path, from what each of them has there. -/
def overlay : Option Setting → Option Setting → Option Setting
  | some y, some x => some (merge y x)
  | y, none => y
  | none, x => x

@[simp] theorem overlay_none (y : Option Setting) : overlay y none = y := by cases y <;> rfl

@[simp] theorem none_overlay (x : Option Setting) : overlay none x = x := by cases x <;> rfl

/-- Laying a setting over another one decides path by path, if both have tables on the way. -/
theorem at?_merge (hP : ∀ y x, P y → P x → P (merge y x)) (hcanonical : above.Canonical)
    (hbelow : below.Fits P path) (habove : above.Fits P path) :
    (merge below above).Fits P path ∧
      (merge below above).at? path = overlay (below.at? path) (above.at? path) := by
  induction path generalizing below above with
  | nil => exact ⟨hP below above hbelow habove, rfl⟩
  | cons key path ih =>
    obtain ⟨others, rfl, hbelow⟩ := fits_cons_iff.mp hbelow
    obtain ⟨members, rfl, habove⟩ := fits_cons_iff.mp habove
    have hordered := (canonical_table_iff.mp hcanonical).1
    simp only [merge, Fits, Setting.at?, lookup_mergeMembers others hordered]
    cases hx : members.lookup key with
    | none =>
      rw [Option.bind_none, overlay_none]
      exact ⟨hbelow, rfl⟩
    | some x =>
      cases hy : others.lookup key with
      | none =>
        simp only [Option.elim_none, Option.some.injEq, forall_eq']
        exact ⟨habove x hx, (none_overlay _).symm⟩
      | some y =>
        simp only [Option.elim_some, Option.some.injEq, forall_eq']
        exact ih (hcanonical.of_lookup hx) (hbelow y hy) (habove x hx)

/-- What stands at a path at which a setting fits has the property. -/
theorem Fits.of_at? (h : x.Fits P path) (hat : x.at? path = some y) : P y := by
  induction path generalizing x with
  | nil =>
    cases hat
    exact h
  | cons key path ih =>
    obtain ⟨members, rfl, hmembers⟩ := fits_cons_iff.mp h
    obtain ⟨z, hz, hat⟩ := Option.bind_eq_some_iff.mp hat
    exact ih (hmembers z hz) hat

/-- A setting with something at a path has tables on the way. -/
theorem fits_of_at? (hat : x.at? path = some y) (hy : P y) : x.Fits P path := by
  induction path generalizing x with
  | nil =>
    cases hat
    exact hy
  | cons key path ih =>
    cases x with
    | table members =>
      intro z hz
      rw [at?, hz, Option.bind_some] at hat
      exact ih hat
    | _ => cases hat

/-- Where only single values stand, the upper one hides the lower one. -/
theorem merge_of_fits (hP : ∀ members, ¬P (table members)) (hcanonical : above.Canonical)
    (hbelow : below.Fits P path) (habove : above.Fits P path) :
    (merge below above).Fits P path ∧
      (merge below above).at? path = (above.at? path).or (below.at? path) := by
  have hleaf : ∀ x, P x → ∀ members, x ≠ table members := by
    rintro _ hx members rfl
    exact hP members hx
  have hmerge : ∀ y x, P y → P x → P (merge y x) := by
    intro y x _ hx
    rwa [merge_of_ne_table (hleaf x hx)]
  obtain ⟨hfits, hat⟩ := at?_merge hmerge hcanonical hbelow habove
  refine ⟨hfits, hat.trans ?_⟩
  cases hx : above.at? path with
  | none => rw [overlay_none, Option.none_or]
  | some x =>
    cases hy : below.at? path with
    | none => rfl
    | some y =>
      rw [Option.some_or, overlay, merge_of_ne_table (hleaf x (habove.of_at? hx))]

/-! ## Many layers -/

/-- What the last of several settings has at a path that has anything there. -/
def latest (sources : List Setting) (path : List String) : Option Setting :=
  (sources.filterMap (·.at? path)).getLast?

theorem latest_append (sources sources' : List Setting) (path : List String) :
    latest (sources ++ sources') path = (latest sources' path).or (latest sources path) := by
  rw [latest, List.filterMap_append, List.getLast?_append]
  rfl

theorem latest_nil (path : List String) : latest [] path = none := rfl

theorem latest_cons (x : Setting) (sources : List Setting) (path : List String) :
    latest (x :: sources) path = (latest sources path).or (x.at? path) := by
  rw [← List.singleton_append, latest_append]
  cases h : x.at? path <;> simp [latest, h]

theorem latest_singleton (x : Setting) (path : List String) : latest [x] path = x.at? path := by
  rw [latest_cons, latest_nil, Option.none_or]

theorem latest_eq_none (h : ∀ x ∈ sources, x.at? path = none) : latest sources path = none := by
  rw [latest, List.filterMap_eq_nil_iff.mpr h, List.getLast?_nil]

theorem foldl_merge_of_fits (hP : ∀ members, ¬P (table members))
    (hbase : base.Fits P path) (hcanonical : ∀ x ∈ sources, x.Canonical)
    (hfits : ∀ x ∈ sources, x.Fits P path) :
    (sources.foldl merge base).Fits P path ∧
      (sources.foldl merge base).at? path = (latest sources path).or (base.at? path) := by
  induction sources using List.reverseRecOn with
  | nil => exact ⟨hbase, rfl⟩
  | append_singleton sources x ih =>
    obtain ⟨hcanonical, hx⟩ := List.forall_mem_append.mp hcanonical
    obtain ⟨hfits, hfitsx⟩ := List.forall_mem_append.mp hfits
    obtain ⟨hlower, hat⟩ := ih hcanonical hfits
    have hlast := List.mem_singleton_self x
    obtain ⟨hboth, hmerge⟩ := merge_of_fits hP (hx x hlast) hlower (hfitsx x hlast)
    rw [List.foldl_append, latest_append, latest_singleton, Option.or_assoc, ← hat]
    exact ⟨hboth, hmerge⟩

theorem canonical_foldl_merge (hbase : base.Canonical) (h : ∀ x ∈ sources, x.Canonical) :
    (sources.foldl merge base).Canonical := by
  induction sources generalizing base with
  | nil => exact hbase
  | cons x sources ih =>
    obtain ⟨hx, hsources⟩ := List.forall_mem_cons.mp h
    exact ih (hbase.merge hx) hsources

/-! ## Settings that differ at one path -/

/-- The first path goes the same way as the second one up to its last key, and there beside it. -/
def Beside (p path : List String) : Prop :=
  ∃ front key rest key', path = front ++ key :: rest ∧ key' ≠ key ∧ p = front ++ [key']

/-- Both settings have tables on the way to a path, and beside it they have the same. -/
structure SameBeside (path : List String) (x y : Setting) : Prop where
  canonical : x.Canonical ∧ y.Canonical
  fits : x.Fits (fun _ => True) path ∧ y.Fits (fun _ => True) path
  same : ∀ p, Beside p path → x.at? p = y.at? p

variable {Q : Setting → Prop} {z : Setting} {zs : List Setting} {p : List String}

theorem Fits.mono (hPQ : ∀ y, P y → Q y) (h : x.Fits P path) : x.Fits Q path := by
  induction path generalizing x with
  | nil => exact hPQ x h
  | cons key path ih =>
    obtain ⟨members, rfl, hmembers⟩ := fits_cons_iff.mp h
    exact fun y hy => ih (hmembers y hy)

theorem Fits.beside (h : x.Fits P path) (hp : Beside p path) : x.Fits (fun _ => True) p := by
  obtain ⟨front, key, rest, key', rfl, -, rfl⟩ := hp
  induction front generalizing x with
  | nil =>
    obtain ⟨members, rfl, -⟩ := fits_cons_iff.mp h
    exact fun y _ => trivial
  | cons k front ih =>
    obtain ⟨members, rfl, hmembers⟩ := fits_cons_iff.mp h
    exact fun y hy => ih (hmembers y hy)

theorem fits_nest_self (hkeys : ∀ key ∈ path, key.isEmpty = false) (hx : P x) :
    (nest x path).Fits P path :=
  fits_nest hkeys (fun _ => hx) (fun _ => rfl) fun _ => rfl

theorem at?_nest_self (hkeys : ∀ key ∈ path, key.isEmpty = false) :
    (nest x path).at? path = some x := by
  induction path with
  | nil => rfl
  | cons key path ih =>
    obtain ⟨hkey, hrest⟩ := List.forall_mem_cons.mp hkeys
    rw [nest, hkey, if_neg Bool.false_ne_true, at?, List.lookup_cons_self, Option.bind_some,
      ih hrest]

theorem at?_nest_beside (hkeys : ∀ key ∈ path, key.isEmpty = false) (hp : Beside p path) :
    (nest x path).at? p = none := by
  obtain ⟨front, key, rest, key', rfl, hne, rfl⟩ := hp
  induction front with
  | nil =>
    obtain ⟨hkey, -⟩ := List.forall_mem_cons.mp hkeys
    rw [List.nil_append, nest, hkey, if_neg Bool.false_ne_true, List.nil_append, at?,
      lookup_cons_eq_ite, if_neg hne]
    rfl
  | cons k front ih =>
    obtain ⟨hkey, hrest⟩ := List.forall_mem_cons.mp hkeys
    rw [List.cons_append, nest, hkey, if_neg Bool.false_ne_true, List.cons_append, at?,
      List.lookup_cons_self, Option.bind_some, ih hrest]

theorem SameBeside.refl (hcanonical : x.Canonical) (hfits : x.Fits P path) :
    SameBeside path x x :=
  ⟨⟨hcanonical, hcanonical⟩, ⟨hfits.mono fun _ _ => trivial, hfits.mono fun _ _ => trivial⟩,
    fun _ _ => rfl⟩

theorem SameBeside.empty : SameBeside (key :: path) (table []) (table []) :=
  .refl (P := fun _ => True) (.ordered .nil (List.forall_mem_nil _)) fits_empty_table

/-- Settings with the same beside a path keep it so if they are laid over such settings. -/
theorem SameBeside.merge {x' y' : Setting} (h : SameBeside path x y)
    (h' : SameBeside path x' y') : SameBeside path (merge x x') (merge y y') := by
  have hall {p : List String} {below above : Setting} (hcanonical : above.Canonical)
      (hbelow : below.Fits (fun _ => True) p) (habove : above.Fits (fun _ => True) p) :=
    at?_merge (fun _ _ _ _ => trivial) hcanonical hbelow habove
  refine ⟨⟨h.canonical.1.merge h'.canonical.1, h.canonical.2.merge h'.canonical.2⟩,
    ⟨(hall h'.canonical.1 h.fits.1 h'.fits.1).1, (hall h'.canonical.2 h.fits.2 h'.fits.2).1⟩, ?_⟩
  intro p hp
  have hx := (hall h'.canonical.1 (h.fits.1.beside hp) (h'.fits.1.beside hp)).2
  have hy := (hall h'.canonical.2 (h.fits.2.beside hp) (h'.fits.2.beside hp)).2
  rw [hx, hy, h.same p hp, h'.same p hp]

/-- A single value laid over a setting changes nothing beside its path. -/
theorem SameBeside.nest (hkeys : ∀ key ∈ path, key.isEmpty = false) (hz : z.Canonical)
    (hcanonical : x.Canonical) (hfits : x.Fits P path) :
    SameBeside path x (Setting.merge x (nest z path)) := by
  have hx := SameBeside.refl hcanonical hfits
  have hnest := fits_nest_self (P := fun _ => True) (x := z) hkeys trivial
  have hmerge {p : List String} (hbelow : x.Fits (fun _ => True) p)
      (habove : (Setting.nest z path).Fits (fun _ => True) p) :=
    at?_merge (fun _ _ _ _ => trivial) (hz.nest path) hbelow habove
  refine ⟨⟨hcanonical, hcanonical.merge (hz.nest path)⟩,
    ⟨hx.fits.1, (hmerge hx.fits.1 hnest).1⟩, ?_⟩
  intro p hp
  rw [(hmerge (hx.fits.1.beside hp) (hnest.beside hp)).2, at?_nest_beside hkeys hp, overlay_none]

theorem SameBeside.foldl (h : SameBeside path x y)
    (hzs : ∀ z ∈ zs, z.Canonical ∧ z.Fits P path) :
    SameBeside path (zs.foldl Setting.merge x) (zs.foldl Setting.merge y) := by
  induction zs generalizing x y with
  | nil => exact h
  | cons z zs ih =>
    obtain ⟨⟨hcanonical, hfits⟩, hzs⟩ := List.forall_mem_cons.mp hzs
    exact ih (h.merge (.refl hcanonical hfits)) hzs

end Setting

end CommandRouter
