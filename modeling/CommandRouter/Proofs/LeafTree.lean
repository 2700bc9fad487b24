import CommandRouter.Proofs.LeafList

/-!
# The tree of a list of leaves

The commands that a list of leaves determines, and what registering does to them. Adding the node of
a pattern that fits turns the tree of some leaves into the tree of these leaves with one more. The
checks in front of it, which look for nodes by name and type, find out whether the pattern fits.
-/

namespace CommandRouter

/-- The names of a pattern, from the command to the routable node. -/
def Pattern.segments (p : Pattern) : List String := p.name :: p.path

/-- The leaf that a pattern describes. -/
def Pattern.leaf (p : Pattern) : Leaf := ⟨p.segments, p.options.map OptionSpec.definition⟩

namespace Leaf

open CommandRegistry (changeFirst addNode refusal?)

/-! ## The tree -/

/-- The sub-command of a group with the leaves under it, of which there should be one. -/
def subCommandOf (h : String) (ls : List Leaf) : CommandOption := .subCommand h ((bare? ls).getD [])

/-- The node of a command with the leaves under it: a sub-command if one stands there already, and
else a group. -/
def nodeOf (h : String) (ls : List Leaf) : CommandOption :=
  match bare? ls with
  | some os => .subCommand h os
  | none => .group h (children subCommandOf ls)

/-- The options of a command with the leaves under it. -/
def optionsOf (ls : List Leaf) : List CommandOption := (bare? ls).getD (children nodeOf ls)

/-- The command with the leaves under it. -/
def commandOf (h : String) (ls : List Leaf) : ApplicationCommand :=
  { ApplicationCommand.chatInput h with options := optionsOf ls }

/-- The commands with the given leaves. -/
def commandsOf (ls : List Leaf) : List ApplicationCommand := children commandOf ls

theorem name_subCommandOf (h : String) (ls : List Leaf) : (subCommandOf h ls).name = h := rfl

theorem name_nodeOf (h : String) (ls : List Leaf) : (nodeOf h ls).name = h := by
  unfold nodeOf
  split <;> rfl

theorem name_commandOf (h : String) (ls : List Leaf) : (commandOf h ls).name = h := rfl

/-- The leaves keep apart from each other, no more than so many names lead to each of them, and
their options are value options. -/
structure Tidy (depth : Nat) (ls : List Leaf) : Prop where
  apart : ls.Pairwise fun k l => Apart k.names l.names
  depth : ∀ l ∈ ls, l.names.length ≤ depth
  values : ∀ l ∈ ls, ∀ o ∈ l.options, o.kind.isNesting = false

variable {depth : Nat} {h x : String} {xs : List String} {os : List CommandOption} {l : Leaf}
  {ls : List Leaf}

theorem Tidy.append_singleton (hls : Tidy depth ls) (hfits : Fits l.names ls)
    (hdepth : l.names.length ≤ depth) (hvalues : ∀ o ∈ l.options, o.kind.isNesting = false) :
    Tidy depth (ls ++ [l]) := by
  refine ⟨List.pairwise_append.mpr ⟨hls.apart, List.pairwise_singleton _ _, ?_⟩, ?_, ?_⟩
  · intro k hk l' hl'
    rw [List.mem_singleton.mp hl']
    exact hfits k hk
  · intro k hk
    rcases List.mem_append.mp hk with hk | hk
    · exact hls.depth k hk
    · rwa [List.mem_singleton.mp hk]
  · intro k hk
    rcases List.mem_append.mp hk with hk | hk
    · exact hls.values k hk
    · rwa [List.mem_singleton.mp hk]

/-- The leaves under a name are tidy again, one level deeper. -/
theorem Tidy.under (hls : Tidy (depth + 1) ls) : Tidy depth (under h ls) := by
  refine ⟨?_, ?_, ?_⟩
  · refine hls.apart.filterMap (after? h) ?_
    intro k l hkl k' hk' l' hl'
    obtain rfl := after?_eq_some_iff.mp hk'
    obtain rfl := after?_eq_some_iff.mp hl'
    exact apart_cons.mp hkl rfl
  · intro l hl
    have hlen := hls.depth _ (mem_under.mp hl)
    simpa using hlen
  · intro l hl
    exact hls.values ⟨h :: l.names, l.options⟩ (mem_under.mp hl)

/-- A leaf at the top stands alone. -/
theorem Tidy.eq_singleton_of_mem (hls : Tidy depth ls) (hmem : ⟨[], os⟩ ∈ ls) :
    ls = [⟨[], os⟩] := by
  obtain ⟨before, after, rfl⟩ := List.append_of_mem hmem
  obtain ⟨-, hafter, hbefore⟩ := List.pairwise_append.mp hls.apart
  have hnone : before = [] := by
    refine List.eq_nil_iff_forall_not_mem.mpr fun l hl => ?_
    exact (hbefore l hl _ List.mem_cons_self).2 List.nil_prefix
  have hnone' : after = [] := by
    refine List.eq_nil_iff_forall_not_mem.mpr fun l hl => ?_
    exact ((List.pairwise_cons.mp hafter).1 l hl).1 List.nil_prefix
  rw [hnone, hnone']
  rfl

theorem Tidy.eq_singleton (hls : Tidy depth ls) (hos : bare? ls = some os) : ls = [⟨[], os⟩] :=
  hls.eq_singleton_of_mem (mem_of_bare? hos)

/-- Without room for names there is one leaf at most. -/
theorem Tidy.eq_singleton_of_zero (hls : Tidy 0 ls) (hne : ls ≠ []) : ∃ os, ls = [⟨[], os⟩] := by
  obtain ⟨⟨names, os⟩, hl⟩ := List.exists_mem_of_ne_nil ls hne
  obtain rfl : names = [] := by simpa using hls.depth _ hl
  exact ⟨os, hls.eq_singleton_of_mem hl⟩

theorem Tidy.bare?_of_mem (hls : Tidy depth ls) (hmem : ⟨[], os⟩ ∈ ls) : bare? ls = some os := by
  rw [hls.eq_singleton_of_mem hmem]
  rfl

/-- Where a leaf stands further down, none stands at the top. -/
theorem Tidy.bare?_of_mem_cons (hls : Tidy depth ls) (hmem : ⟨x :: xs, os⟩ ∈ ls) :
    bare? ls = none := by
  cases hos : bare? ls with
  | none => rfl
  | some os' =>
    rw [hls.eq_singleton hos] at hmem
    simp at hmem

/-! ## The options of a command -/

/-- A command with a leaf at its top has the options of the leaf. -/
theorem optionsOf_of_leaf (hos : bare? ls = some os) : optionsOf ls = os := by
  rw [optionsOf, hos]
  rfl

/-- Any other command has a node for each first name. -/
theorem optionsOf_of_none (hos : bare? ls = none) : optionsOf ls = children nodeOf ls := by
  rw [optionsOf, hos]
  rfl

theorem named_eq_false {o : CommandOption} {kind : OptionType} (hne : o.name ≠ x) :
    CommandOption.named x kind o = false := by
  simp [CommandOption.named, hne]

theorem named_nodeOf_of_ne {kind : OptionType} (hne : h ≠ x) (ls : List Leaf) :
    CommandOption.named x kind (nodeOf h ls) = false :=
  named_eq_false (by rwa [name_nodeOf])

/-! ## Adding a node -/

/-- A sub-command that fits is added at the end of the group. -/
theorem subCommands_append_singleton (hfits : Fits [x] ls) (hls : ∀ l ∈ ls, l.names ≠ []) :
    children subCommandOf (ls ++ [⟨[x], os⟩]) =
      children subCommandOf ls ++ [.subCommand x os] :=
  children_append_new ((fits_singleton hls).mp hfits)

/-- No leaf stands at the top after one is added below it, if none stood there. -/
theorem bare?_append_singleton (hls : bare? ls = none) : bare? (ls ++ [⟨x :: xs, os⟩]) = none := by
  rw [bare?_eq_none_iff] at hls ⊢
  intro l hl
  rcases List.mem_append.mp hl with hl | hl
  · exact hls l hl
  · rw [List.mem_singleton.mp hl]
    exact List.cons_ne_nil x xs

/-- Adding the node of a way that fits adds a leaf to the command. -/
theorem addNode_optionsOf {path : List String} (hfits : Fits path ls) (hdepth : path.length ≤ 2) :
    addNode (optionsOf ls) path os = optionsOf (ls ++ [⟨path, os⟩]) := by
  match path, hdepth with
  | [], _ =>
    obtain rfl := fits_nil.mp hfits
    rfl
  | [sub], _ =>
    have hnone := hfits.bare?
    have hnew := (fits_singleton (bare?_eq_none_iff.mp hnone)).mp hfits
    rw [optionsOf_of_none hnone, optionsOf_of_none (bare?_append_singleton hnone),
      children_append_new hnew]
    rfl
  | [group, sub], _ =>
    have hnone := hfits.bare?
    have hfitsUnder := (fits_cons (bare?_eq_none_iff.mp hnone)).mp hfits
    have hgroup := hfitsUnder.bare?
    rw [optionsOf_of_none hnone, optionsOf_of_none (bare?_append_singleton hnone)]
    show changeFirst (CommandOption.named group .subCommandGroup) (nodeOf group []) _
      (children nodeOf ls) = children nodeOf (ls ++ [⟨[group, sub], os⟩])
    refine (children_append_singleton ?_ ?_ ?_).symm
    · exact fun h hne ls => named_nodeOf_of_ne hne ls
    · intro _
      simp [nodeOf, hgroup, CommandOption.named, CommandOption.group]
    · rw [nodeOf, nodeOf, bare?_append_singleton hgroup, hgroup]
      simp only [CommandOption.group]
      rw [subCommands_append_singleton hfitsUnder (bare?_eq_none_iff.mp hgroup)]

/-- Adding the node of a pattern that fits adds its leaf to the tree. -/
theorem insert_commandsOf {r : CommandRegistry} {p : Pattern} (hr : r.commands = commandsOf ls)
    (hls : ∀ l ∈ ls, l.names ≠ []) (hfits : Fits p.segments ls) (hdepth : p.path.length ≤ 2) :
    (r.insert p).commands = commandsOf (ls ++ [p.leaf]) := by
  have hfitsUnder := (fits_cons hls).mp hfits
  rw [CommandRegistry.insert, hr]
  show changeFirst (fun c => c.name == p.name) (commandOf p.name []) _ (children commandOf ls) =
    children commandOf (ls ++ [⟨p.name :: p.path, p.options.map OptionSpec.definition⟩])
  refine (children_append_singleton ?_ ?_ ?_).symm
  · intro h hne ls
    simpa [commandOf, ApplicationCommand.chatInput] using hne
  · intro _
    simp [commandOf, ApplicationCommand.chatInput]
  · simp only [commandOf]
    rw [addNode_optionsOf hfitsUnder hdepth]

/-! ## Finding a node -/

/-- A group is found at a name under which no leaf stands right at the top. -/
theorem find?_group :
    (children nodeOf ls).find? (CommandOption.named x .subCommandGroup) =
      if x ∈ heads ls ∧ bare? (under x ls) = none then
        some (.group x (children subCommandOf (under x ls)))
      else none := by
  rw [find?_children fun h hne ls => named_nodeOf_of_ne hne ls, nodeOf]
  cases bare? (under x ls) <;> simp [CommandOption.named, CommandOption.subCommand,
    CommandOption.group]

/-- A sub-command is found at a name under which a leaf stands right at the top. -/
theorem find?_subCommand :
    (children nodeOf ls).find? (CommandOption.named x .subCommand) =
      (bare? (under x ls)).map (.subCommand x) := by
  rw [find?_children fun h hne ls => named_nodeOf_of_ne hne ls, nodeOf]
  cases hos : bare? (under x ls) with
  | none => simp [CommandOption.named, CommandOption.group]
  | some os =>
    have hx := mem_heads_of_mem_under (mem_of_bare? hos)
    simp [CommandOption.named, CommandOption.subCommand, hx]

/-- In a group a sub-command is found at every first name. -/
theorem find?_subCommandOf :
    (children subCommandOf ls).find? (CommandOption.named x .subCommand) =
      if x ∈ heads ls then some (subCommandOf x (under x ls)) else none := by
  rw [find?_children (x := x) fun h hne ls => named_eq_false hne]
  simp [subCommandOf, CommandOption.named, CommandOption.subCommand]

/-- Below a group a sub-command is found at every first name under that of the group. -/
theorem find?_group_subCommand {group : String} (hgroup : bare? (under group ls) = none) :
    ((children nodeOf ls).find? (CommandOption.named group .subCommandGroup)).bind
        (·.find? x .subCommand) =
      if x ∈ heads (under group ls) then some (subCommandOf x (under x (under group ls)))
      else none := by
  rw [find?_group]
  by_cases hmem : group ∈ heads ls
  · rw [if_pos ⟨hmem, hgroup⟩, Option.bind_some]
    exact find?_subCommandOf
  · rw [if_neg fun h => hmem h.1, under_eq_nil hmem]
    rfl

/-- A command is found at every first name. -/
theorem find?_commandOf :
    (commandsOf ls).find? (fun c => c.name == x) =
      if x ∈ heads ls then some (commandOf x (under x ls)) else none := by
  rw [commandsOf, find?_children (x := x) fun h hne ls => ?_]
  · simp [commandOf, ApplicationCommand.chatInput]
  · simpa [commandOf, ApplicationCommand.chatInput] using hne

/-- A command branches unless a leaf stands at its top. -/
theorem isBranching_commandOf (hls : Tidy depth ls) (hne : ls ≠ []) :
    (commandOf h ls).isBranching = (bare? ls).isNone := by
  show (optionsOf ls).any _ = _
  cases hos : bare? ls with
  | some os =>
    rw [optionsOf_of_leaf hos]
    simpa using hls.values _ (mem_of_bare? hos)
  | none =>
    obtain ⟨l, hl⟩ := List.exists_mem_of_ne_nil ls hne
    obtain ⟨x, xs, hnames⟩ := List.exists_cons_of_ne_nil (bare?_eq_none_iff.mp hos l hl)
    have hx : x ∈ heads ls := mem_heads.mpr ⟨l, hl, xs, hnames⟩
    have hnesting : (nodeOf x (under x ls)).kind.isNesting = true := by
      unfold nodeOf
      split <;> rfl
    rw [optionsOf_of_none hos, Option.isNone_none, List.any_eq_true]
    exact ⟨_, List.mem_map_of_mem hx, hnesting⟩

/-! ## Refusing a pattern -/

/-- What the refusal of a way means for the leaves: it is refused unless it fits, as a duplicate if
it is empty or leads to a leaf, and else as a conflict. -/
inductive Judged (key : DispatchKey) (path : List String) (ls : List Leaf) :
    Option CommandRegistry.Error → Prop where
  | fits (hfits : Fits path ls) : Judged key path ls none
  | duplicate (hfits : ¬Fits path ls) (hold : path = [] ∨ ∃ l ∈ ls, l.names = path) :
      Judged key path ls (some (.duplicate key))
  | conflict (clash : CommandRegistry.Clash) (hfits : ¬Fits path ls) (hpath : path ≠ [])
      (hnew : ∀ l ∈ ls, l.names ≠ path) : Judged key path ls (some (.conflict key clash))

variable {key : DispatchKey} {path : List String}

/-- A command with a leaf at its top has no room for nodes. -/
theorem judged_of_leaf (hls : Tidy 2 ls) (hos : bare? ls = some os) (hpath : path ≠ [])
    (hdepth : path.length ≤ 2) : Judged key path ls (refusal? key (commandOf h ls) path) := by
  obtain rfl := hls.eq_singleton hos
  have hnot : (commandOf h [⟨[], os⟩]).isBranching = false := by
    rw [isBranching_commandOf hls (by simp), hos]
    rfl
  have hrefusal : refusal? key (commandOf h [⟨[], os⟩]) path =
      some (.conflict key (.notBranching h)) := by
    match path, hpath, hdepth with
    | [sub], _, _ =>
      rw [refusal?, hnot]
      rfl
    | [group, sub], _, _ =>
      rw [refusal?, hnot]
      rfl
  rw [hrefusal]
  refine .conflict _ (fun hfits => ?_) hpath ?_
  · simpa [hos] using hfits.bare?
  · simpa using hpath.symm

/-- Where no leaf stands at the top, the name of a sub-command is looked for among the nodes. -/
theorem refusal?_subCommand {sub : String} (hls : Tidy 2 ls) (hne : ls ≠ [])
    (hos : bare? ls = none) :
    refusal? key (commandOf h ls) [sub] =
      if sub ∉ heads ls then none
      else if bare? (under sub ls) = none then some (.conflict key (.isGroup sub))
      else some (.duplicate key) := by
  have hbranching : (commandOf h ls).isBranching = true := by
    rw [isBranching_commandOf hls hne, hos]
    rfl
  have hoptions : (commandOf h ls).options = children nodeOf ls := optionsOf_of_none hos
  rw [refusal?, ApplicationCommand.find?, ApplicationCommand.find?, hoptions, find?_group,
    find?_subCommand, hbranching]
  by_cases hsub : sub ∈ heads ls
  · cases bare? (under sub ls) <;> simp [hsub]
  · simp [hsub, under_eq_nil hsub, bare?]

/-- Where no leaf stands at the top, the name of a group is looked for among the nodes, and that of
the sub-command below it. -/
theorem refusal?_group {group sub : String} (hls : Tidy 2 ls) (hne : ls ≠ [])
    (hos : bare? ls = none) :
    refusal? key (commandOf h ls) [group, sub] =
      if bare? (under group ls) ≠ none then some (.conflict key (.isSubCommand group))
      else if sub ∈ heads (under group ls) then some (.duplicate key)
      else none := by
  have hbranching : (commandOf h ls).isBranching = true := by
    rw [isBranching_commandOf hls hne, hos]
    rfl
  have hoptions : (commandOf h ls).options = children nodeOf ls := optionsOf_of_none hos
  rw [refusal?, ApplicationCommand.find?, ApplicationCommand.find?, hoptions, find?_subCommand,
    hbranching]
  cases hleaf : bare? (under group ls) with
  | some os => simp
  | none =>
    rw [find?_group_subCommand hleaf]
    by_cases hsub : sub ∈ heads (under group ls) <;> simp [hsub]

/-- The name of a sub-command must not come first yet. -/
theorem judged_subCommand {sub : String} (hls : Tidy 2 ls) (hne : ls ≠ [])
    (hos : bare? ls = none) : Judged key [sub] ls (refusal? key (commandOf h ls) [sub]) := by
  have hfits : Fits [sub] ls ↔ sub ∉ heads ls := fits_singleton (bare?_eq_none_iff.mp hos)
  rw [refusal?_subCommand hls hne hos]
  by_cases hsub : sub ∈ heads ls
  · have hnot : ¬Fits [sub] ls := fun h => hfits.mp h hsub
    rw [if_neg (not_not_intro hsub)]
    cases hleaf : bare? (under sub ls) with
    | none =>
      refine .conflict (.isGroup sub) hnot (by simp) ?_
      rintro ⟨_, os⟩ hl rfl
      have hmem : ⟨[], os⟩ ∈ under sub ls := mem_under.mpr hl
      exact bare?_eq_none_iff.mp hleaf _ hmem rfl
    | some os =>
      exact .duplicate hnot (Or.inr ⟨_, mem_under.mp (mem_of_bare? hleaf), rfl⟩)
  · rw [if_pos hsub]
    exact .fits (hfits.mpr hsub)

/-- The name of a group must not be that of a sub-command, and it must not lead to the name of the
new sub-command yet. -/
theorem judged_group {group sub : String} (hls : Tidy 2 ls) (hne : ls ≠ [])
    (hos : bare? ls = none) :
    Judged key [group, sub] ls (refusal? key (commandOf h ls) [group, sub]) := by
  have hfits : Fits [group, sub] ls ↔ Fits [sub] (under group ls) :=
    fits_cons (bare?_eq_none_iff.mp hos)
  rw [refusal?_group hls hne hos]
  cases hleaf : bare? (under group ls) with
  | some os =>
    have hunder := hls.under.eq_singleton hleaf
    refine .conflict (.isSubCommand group) (fun h => ?_) (by simp) ?_
    · simpa [hleaf] using (hfits.mp h).bare?
    · rintro ⟨_, os'⟩ hl rfl
      have hmem : ⟨[sub], os'⟩ ∈ under group ls := mem_under.mpr hl
      simp [hunder] at hmem
  | none =>
    rw [fits_singleton (bare?_eq_none_iff.mp hleaf)] at hfits
    rw [if_neg (not_not_intro rfl)]
    by_cases hsub : sub ∈ heads (under group ls)
    · rw [if_pos hsub]
      obtain ⟨⟨_, os⟩, hl, xs, rfl⟩ := mem_heads.mp hsub
      -- Only one name can follow that of a group, so the leaf found is that of the way.
      have hlen := hls.under.depth _ hl
      obtain rfl : xs = [] := by simpa using hlen
      exact .duplicate (fun h => hfits.mp h hsub) (Or.inr ⟨_, mem_under.mp hl, rfl⟩)
    · rw [if_neg hsub]
      exact .fits (hfits.mpr hsub)

/-- Below a command a way is judged by whether it fits. -/
theorem judged_refusal? (hls : Tidy 2 ls) (hne : ls ≠ []) (hdepth : path.length ≤ 2) :
    Judged key path ls (refusal? key (commandOf h ls) path) := by
  match path, hdepth with
  | [], _ => exact .duplicate (fun hfits => hne (fits_nil.mp hfits)) (Or.inl rfl)
  | [sub], _ =>
    cases hos : bare? ls with
    | some os => exact judged_of_leaf hls hos (by simp) (by simp)
    | none => exact judged_subCommand hls hne hos
  | [group, sub], _ =>
    cases hos : bare? ls with
    | some os => exact judged_of_leaf hls hos (by simp) (by simp)
    | none => exact judged_group hls hne hos

end Leaf

end CommandRouter
