import CommandRouter.Proofs.LeafTree
import CommandRouter.Proofs.PatternGrammar
import Mathlib.Data.List.Perm.Basic

/-!
# The shape of command trees

What a tree of commands may look like and which leaves it has, said of any tree, and then proved of
the tree of a list of leaves: it is well-shaped, its leaves are those of the list, and its nodes
stand in the order in which the list first mentions them.
-/

namespace CommandRouter

/-! ## Shapes -/

/-- The option takes a value and holds no further options. -/
def CommandOption.TakesValue (o : CommandOption) : Prop := o.kind.isNesting = false ∧ o.options = []

/-- The options are those of a routable node: all of them take values, under different names. -/
structure CommandOption.OfLeaf (os : List CommandOption) : Prop where
  values : ∀ o ∈ os, o.TakesValue
  distinct : (os.map (·.name)).Nodup

/-- The option is a sub-command, which holds value options only. -/
structure CommandOption.IsSubCommand (o : CommandOption) : Prop where
  kind : o.kind = .subCommand
  options : OfLeaf o.options

/-- The option is a group, which holds at least one sub-command and nothing else. -/
structure CommandOption.IsGroup (o : CommandOption) : Prop where
  kind : o.kind = .subCommandGroup
  nonempty : o.options ≠ []
  subCommands : ∀ s ∈ o.options, s.IsSubCommand
  distinct : (o.options.map (·.name)).Nodup

/-- The command holds either value options only or sub-commands and groups only. -/
structure ApplicationCommand.Shaped (c : ApplicationCommand) : Prop where
  uniform : (∀ o ∈ c.options, o.TakesValue) ∨ ∀ o ∈ c.options, o.IsSubCommand ∨ o.IsGroup
  distinct : (c.options.map (·.name)).Nodup

/-- The option is one of the options or stands anywhere below one of them. -/
inductive CommandOption.Within (o : CommandOption) : List CommandOption → Prop where
  | here {os : List CommandOption} (h : o ∈ os) : Within o os
  | deeper {os : List CommandOption} {parent : CommandOption} (hp : parent ∈ os)
      (h : Within o parent.options) : Within o os

/-- The option describes itself by its name, and its choices have values of its type. -/
structure CommandOption.Labelled (o : CommandOption) : Prop where
  description : o.description = o.name
  choices : ∀ c ∈ o.choices, c.value.Suits o.kind

/-! ## Leaves -/

/-- The same leaf, seen from one level up. -/
def Leaf.below (h : String) (l : Leaf) : Leaf := ⟨h :: l.names, l.options⟩

/-- The leaves at an option of a command: those of a group are its sub-commands. -/
def CommandOption.leaves (o : CommandOption) : List Leaf :=
  if o.kind = .subCommandGroup then o.options.map fun s => ⟨[o.name, s.name], s.options⟩
  else [⟨[o.name], o.options⟩]

/-- The leaves of a command, which is one itself unless it branches. -/
def ApplicationCommand.leaves (c : ApplicationCommand) : List Leaf :=
  if c.isBranching then (c.options.flatMap CommandOption.leaves).map (.below c.name)
  else [⟨[c.name], c.options⟩]

/-- The leaves of a registry. -/
def CommandRegistry.leaves (r : CommandRegistry) : List Leaf :=
  r.commands.flatMap ApplicationCommand.leaves

/-- The options of the routable node to which the names lead, found step by step. -/
def CommandRegistry.optionsAt? (r : CommandRegistry) (name : String) (path : List String) :
    Option (List CommandOption) :=
  (r.get? name).bind fun c =>
    match path with
    | [] => if c.isBranching then none else some c.options
    | [sub] => (c.find? sub .subCommand).map (·.options)
    | [group, sub] =>
      ((c.find? group .subCommandGroup).bind (·.find? sub .subCommand)).map (·.options)
    | _ => none

namespace Leaf

variable {depth : Nat} {h x : String} {xs : List String} {os : List CommandOption} {l : Leaf}
  {ls : List Leaf}

/-! ## The tree of a list of leaves is well-shaped -/

theorem mem_children {α : Type} {node : String → List Leaf → α} {a : α} :
    a ∈ children node ls ↔ ∃ h ∈ heads ls, a = node h (under h ls) := by
  simp only [children, List.mem_map, eq_comm]

/-- The nodes at one level carry the first names. -/
theorem map_name_children {α : Type} {node : String → List Leaf → α} {name : α → String}
    (hname : ∀ h ls, name (node h ls) = h) : (children node ls).map name = heads ls := by
  rw [children, List.map_map]
  exact (List.map_congr_left fun h _ => hname h _).trans (List.map_id _)

theorem isSubCommand_subCommand (hos : CommandOption.OfLeaf os) :
    (CommandOption.subCommand h os).IsSubCommand :=
  ⟨rfl, hos⟩

theorem isSubCommand_subCommandOf (hls : Tidy 0 ls) (hne : ls ≠ [])
    (hoptions : ∀ l ∈ ls, CommandOption.OfLeaf l.options) : (subCommandOf h ls).IsSubCommand := by
  obtain ⟨os, rfl⟩ := hls.eq_singleton_of_zero hne
  exact isSubCommand_subCommand (hoptions _ (List.mem_singleton_self _))

/-- The leaves under a name have the options of leaves if all do. -/
theorem forall_under {P : List CommandOption → Prop} (hls : ∀ l ∈ ls, P l.options) :
    ∀ l ∈ under h ls, P l.options := by
  intro l hl
  exact hls ⟨h :: l.names, l.options⟩ (mem_under.mp hl)

/-- The node of a command is a sub-command or a group. -/
theorem isSubCommand_or_isGroup_nodeOf (hls : Tidy 1 ls) (hne : ls ≠ [])
    (hoptions : ∀ l ∈ ls, CommandOption.OfLeaf l.options) :
    (nodeOf h ls).IsSubCommand ∨ (nodeOf h ls).IsGroup := by
  unfold nodeOf
  cases hos : bare? ls with
  | some os => exact Or.inl (isSubCommand_subCommand (hoptions _ (mem_of_bare? hos)))
  | none =>
    refine Or.inr ⟨rfl, ?_, ?_, ?_⟩
    · obtain ⟨l, hl⟩ := List.exists_mem_of_ne_nil ls hne
      obtain ⟨x, xs, hnames⟩ := List.exists_cons_of_ne_nil (bare?_eq_none_iff.mp hos l hl)
      exact List.ne_nil_of_mem (mem_children.mpr ⟨x, mem_heads.mpr ⟨l, hl, xs, hnames⟩, rfl⟩)
    · intro s hs
      obtain ⟨y, hy, rfl⟩ := mem_children.mp hs
      exact isSubCommand_subCommandOf hls.under (under_ne_nil hy) (forall_under hoptions)
    · show ((children subCommandOf ls).map (·.name)).Nodup
      rw [map_name_children name_subCommandOf]
      exact nodup_heads ls

/-- Every command of the tree is well-shaped. -/
theorem shaped_commandOf (hls : Tidy 2 ls)
    (hoptions : ∀ l ∈ ls, CommandOption.OfLeaf l.options) : (commandOf h ls).Shaped := by
  cases hos : bare? ls with
  | some os =>
    have hleaf := hoptions _ (mem_of_bare? hos)
    have heq : (commandOf h ls).options = os := optionsOf_of_leaf hos
    exact ⟨Or.inl (by rw [heq]; exact hleaf.values), by rw [heq]; exact hleaf.distinct⟩
  | none =>
    have heq : (commandOf h ls).options = children nodeOf ls := optionsOf_of_none hos
    refine ⟨Or.inr ?_, ?_⟩
    · rw [heq]
      intro o ho
      obtain ⟨y, hy, rfl⟩ := mem_children.mp ho
      exact isSubCommand_or_isGroup_nodeOf hls.under (under_ne_nil hy) (forall_under hoptions)
    · rw [heq, map_name_children name_nodeOf]
      exact nodup_heads ls

/-! ## The options of the tree -/

/-- What stands at a level of the tree or below it is a node of the level or stands below one. -/
theorem within_children {node : String → List Leaf → CommandOption} {o : CommandOption}
    (ho : o.Within (children node ls)) :
    ∃ h ∈ heads ls, o = node h (under h ls) ∨ o.Within (node h (under h ls)).options := by
  cases ho with
  | here ho =>
    obtain ⟨h, hh, rfl⟩ := mem_children.mp ho
    exact ⟨h, hh, Or.inl rfl⟩
  | deeper hp ho =>
    obtain ⟨h, hh, rfl⟩ := mem_children.mp hp
    exact ⟨h, hh, Or.inr ho⟩

/-- Nothing stands below the options of a leaf. -/
theorem mem_of_within {o : CommandOption} (hos : CommandOption.OfLeaf os) (ho : o.Within os) :
    o ∈ os := by
  cases ho with
  | here ho => exact ho
  | deeper hp ho =>
    rw [(hos.values _ hp).2] at ho
    cases ho with
    | here ho => cases ho
    | deeper hp _ => cases hp

/-- A property of the options of all leaves and of all sub-commands and groups is one of all options
of a command. -/
theorem forall_within_optionsOf {P : CommandOption → Prop} {o : CommandOption} (hls : Tidy 2 ls)
    (hoptions : ∀ l ∈ ls, CommandOption.OfLeaf l.options) (hleaf : ∀ l ∈ ls, ∀ o ∈ l.options, P o)
    (hsub : ∀ name os, P (.subCommand name os)) (hgroup : ∀ name os, P (.group name os))
    (ho : o.Within (optionsOf ls)) : P o := by
  cases hos : bare? ls with
  | some os =>
    rw [optionsOf_of_leaf hos] at ho
    have hmem := mem_of_bare? hos
    exact hleaf _ hmem o (mem_of_within (hoptions _ hmem) ho)
  | none =>
    rw [optionsOf_of_none hos] at ho
    obtain ⟨x, hx, ho⟩ := within_children ho
    have hoptions' := forall_under (h := x) hoptions
    have hleaf' : ∀ l ∈ under x ls, ∀ o ∈ l.options, P o :=
      forall_under (P := fun os => ∀ o ∈ os, P o) hleaf
    unfold nodeOf at ho
    cases hos' : bare? (under x ls) with
    | some os =>
      rw [hos'] at ho
      have hmem := mem_of_bare? hos'
      rcases ho with rfl | ho
      · exact hsub x os
      · exact hleaf' _ hmem o (mem_of_within (hoptions' _ hmem) ho)
    | none =>
      rw [hos'] at ho
      rcases ho with rfl | ho
      · exact hgroup x _
      · obtain ⟨y, hy, ho⟩ := within_children ho
        obtain ⟨os, hunder⟩ := hls.under.under.eq_singleton_of_zero (under_ne_nil hy)
        have hmem : ⟨[], os⟩ ∈ under y (under x ls) := by simp [hunder]
        rw [hunder] at ho
        rcases ho with rfl | ho
        · exact hsub y os
        · exact forall_under (P := fun os => ∀ o ∈ os, P o) hleaf' _ hmem o
            (mem_of_within (forall_under hoptions' _ hmem) ho)

/-! ## The leaves of the tree -/

/-- Among different names a leaf stands under its first name only. -/
theorem flatMap_under_singleton {hs : List String} (hnodup : hs.Nodup) (hx : x ∈ hs) :
    (hs.flatMap fun h => (under h [⟨x :: xs, os⟩]).map (below h)) = [⟨x :: xs, os⟩] := by
  obtain ⟨before, after, rfl⟩ := List.append_of_mem hx
  have hnone : ∀ h ∈ before ++ after, (under h [⟨x :: xs, os⟩]).map (below h) = [] := by
    intro h hh
    rw [under_singleton_of_ne, List.map_nil]
    rintro rfl
    simp only [List.nodup_append, List.nodup_cons] at hnodup
    rcases List.mem_append.mp hh with hh | hh
    · exact hnodup.2.2 h hh h List.mem_cons_self rfl
    · exact hnodup.2.1.1 hh
  rw [List.flatMap_append, List.flatMap_cons, under_singleton,
    List.flatMap_eq_nil_iff.mpr fun h hh => hnone h (List.mem_append_left _ hh),
    List.flatMap_eq_nil_iff.mpr fun h hh => hnone h (List.mem_append_right _ hh)]
  rfl

/-- The leaves are those under each first name, in turn. -/
theorem flatMap_heads_perm (hls : ∀ l ∈ ls, l.names ≠ []) :
    ((heads ls).flatMap fun h => (under h ls).map (below h)).Perm ls := by
  induction ls using List.reverseRecOn with
  | nil => exact .nil
  | append_singleton ls l ih =>
    obtain ⟨names, os⟩ := l
    obtain ⟨x, xs, rfl⟩ := List.exists_cons_of_ne_nil (hls ⟨names, os⟩ (by simp))
    have hinit := ih fun l hl => hls l (List.mem_append_left _ hl)
    -- The new leaf stands under its first name, and nothing else changes.
    have hold : ((heads (ls ++ [⟨x :: xs, os⟩])).flatMap fun h => (under h ls).map (below h)) =
        (heads ls).flatMap fun h => (under h ls).map (below h) := by
      rw [heads_append_singleton]
      split
      · rfl
      · rename_i hx
        simp [under_eq_nil hx]
    have hx : x ∈ heads (ls ++ [⟨x :: xs, os⟩]) :=
      mem_heads.mpr ⟨⟨x :: xs, os⟩, by simp, xs, rfl⟩
    have hsplit := List.flatMap_append_perm (heads (ls ++ [⟨x :: xs, os⟩]))
      (fun h => (under h ls).map (below h)) fun h => (under h [⟨x :: xs, os⟩]).map (below h)
    simp only [← List.map_append, ← under_append] at hsplit
    rw [hold, flatMap_under_singleton (nodup_heads _) hx] at hsplit
    exact hsplit.symm.trans (hinit.append_right _)

/-- If the node of every name has the leaves under it, the nodes together have all leaves. -/
theorem flatMap_children_perm {α : Type} {node : String → List Leaf → α} {f : α → List Leaf}
    (hls : ∀ l ∈ ls, l.names ≠ [])
    (hf : ∀ h ∈ heads ls, (f (node h (under h ls))).Perm ((under h ls).map (below h))) :
    ((children node ls).flatMap f).Perm ls := by
  refine List.Perm.trans ?_ (flatMap_heads_perm hls)
  rw [children, List.flatMap_map]
  exact List.Perm.flatMap_left _ hf

/-- The node of a command has the leaves under its name. -/
theorem leaves_nodeOf (hls : Tidy 1 ls) : (nodeOf h ls).leaves.Perm (ls.map (below h)) := by
  unfold nodeOf
  cases hos : bare? ls with
  | some os =>
    obtain rfl := hls.eq_singleton hos
    exact .refl _
  | none =>
    have hnames := bare?_eq_none_iff.mp hos
    have hsubs : ((children subCommandOf ls).flatMap fun s => [⟨[s.name], s.options⟩]).Perm ls := by
      refine flatMap_children_perm hnames fun y hy => ?_
      obtain ⟨os, hunder⟩ := hls.under.eq_singleton_of_zero (under_ne_nil hy)
      rw [hunder]
      exact .refl _
    have hmap := hsubs.map (below h)
    rw [List.map_flatMap] at hmap
    simpa [CommandOption.leaves, CommandOption.group, below, List.map_eq_flatMap] using hmap

/-- A command has the leaves under its name. -/
theorem leaves_commandOf (hls : Tidy 2 ls) (hne : ls ≠ []) :
    (commandOf h ls).leaves.Perm (ls.map (below h)) := by
  unfold ApplicationCommand.leaves
  rw [isBranching_commandOf hls hne]
  cases hos : bare? ls with
  | some os =>
    obtain rfl := hls.eq_singleton hos
    exact .refl _
  | none =>
    have hnames := bare?_eq_none_iff.mp hos
    have hoptions : (commandOf h ls).options = children nodeOf ls := optionsOf_of_none hos
    rw [Option.isNone_none, if_pos rfl, hoptions]
    exact (flatMap_children_perm hnames fun y _ => leaves_nodeOf hls.under).map (below h)

/-- The tree has the leaves of the list. -/
theorem leaves_commandsOf (hls : Tidy 3 ls) (hnames : ∀ l ∈ ls, l.names ≠ []) :
    ((commandsOf ls).flatMap ApplicationCommand.leaves).Perm ls :=
  flatMap_children_perm hnames fun _ hy => leaves_commandOf hls.under (under_ne_nil hy)

/-- The way to a leaf leads to its options. -/
theorem optionsAt?_of_mem {r : CommandRegistry} {name : String} {path : List String}
    (hr : r.commands = commandsOf ls) (hls : Tidy 3 ls) (hl : ⟨name :: path, os⟩ ∈ ls) :
    r.optionsAt? name path = some os := by
  have hunder : ⟨path, os⟩ ∈ under name ls := mem_under.mpr hl
  have hbranching := isBranching_commandOf (h := name) hls.under (List.ne_nil_of_mem hunder)
  have htidy : Tidy 2 (under name ls) := hls.under
  rw [CommandRegistry.optionsAt?, CommandRegistry.get?, hr, find?_commandOf,
    if_pos (mem_heads_of_mem_under hunder), Option.bind_some]
  generalize under name ls = ls' at hunder hbranching htidy
  match path with
  | [] =>
    have hos := htidy.bare?_of_mem hunder
    rw [hos] at hbranching
    show (if (commandOf name ls').isBranching then none else some (optionsOf ls')) = some os
    rw [hbranching, optionsOf_of_leaf hos]
    rfl
  | [sub] =>
    have hos := htidy.bare?_of_mem_cons hunder
    have hsub := htidy.under.bare?_of_mem (mem_under.mpr hunder)
    show ((optionsOf ls').find? (CommandOption.named sub .subCommand)).map (·.options) = some os
    rw [optionsOf_of_none hos, find?_subCommand, hsub]
    rfl
  | [group, sub] =>
    have hos := htidy.bare?_of_mem_cons hunder
    have hgroup : ⟨[sub], os⟩ ∈ under group ls' := mem_under.mpr hunder
    have hsub : ⟨[], os⟩ ∈ under sub (under group ls') := mem_under.mpr hgroup
    have hleaf := htidy.under.under.bare?_of_mem hsub
    show (((optionsOf ls').find? (CommandOption.named group .subCommandGroup)).bind
      (·.find? sub .subCommand)).map (·.options) = some os
    rw [optionsOf_of_none hos, find?_group_subCommand (htidy.under.bare?_of_mem_cons hgroup),
      if_pos (mem_heads_of_mem_under hsub)]
    simp [subCommandOf, CommandOption.subCommand, hleaf]
  | _ :: _ :: _ :: _ =>
    have hlen := htidy.depth _ hunder
    simp at hlen

/-! ## The order of the tree -/

/-- The name that comes next on a way, if the names take the way and go on. -/
def nameAfter? : List String → List String → Option String
  | [], names => names.head?
  | _ :: _, [] => none
  | w :: way, x :: names => if x = w then nameAfter? way names else none

/-- The first names at the end of a way are those that come next on it. -/
theorem heads_foldl_under (way : List String) (ls : List Leaf) :
    heads (way.foldl (fun ls h => under h ls) ls) =
      (ls.filterMap fun l => nameAfter? way l.names).eraseDups := by
  induction way generalizing ls with
  | nil => rfl
  | cons w way ih =>
    rw [List.foldl_cons, ih, under, List.filterMap_filterMap]
    congr 2
    funext l
    obtain ⟨names, os⟩ := l
    cases names with
    | nil => rfl
    | cons x xs => by_cases hx : x = w <;> simp [after?, nameAfter?, hx]

/-- A group among the options of a command holds the sub-commands under its name. -/
theorem eq_group_of_mem {g : CommandOption} (hls : Tidy depth ls) (hg : g ∈ optionsOf ls)
    (hkind : g.kind = .subCommandGroup) :
    ∃ y ∈ heads ls, g = .group y (children subCommandOf (under y ls)) := by
  cases hos : bare? ls with
  | some os =>
    rw [optionsOf_of_leaf hos] at hg
    have hvalue := hls.values _ (mem_of_bare? hos) g hg
    rw [hkind] at hvalue
    cases hvalue
  | none =>
    rw [optionsOf_of_none hos] at hg
    obtain ⟨y, hy, rfl⟩ := mem_children.mp hg
    unfold nodeOf at hkind ⊢
    cases hleaf : bare? (under y ls) with
    | some os => simp [hleaf, CommandOption.subCommand] at hkind
    | none => exact ⟨y, hy, rfl⟩

end Leaf

end CommandRouter
