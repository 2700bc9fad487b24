import CommandRouter.Proofs.CommandTree
import CommandRouter.Proofs.Steps

/-!
# The order of registrations

Patterns that can be registered in one order can be registered in any order, for none of them stands
in the way of another. The order decides only in which order commands, and within them sub-commands
and groups, are listed: what the leaves take stays as it is.
-/

namespace CommandRouter

/-- The lists have the same elements, as far as the relation tells them apart, in any order. -/
def Reordered {α : Type} (same : α → α → Prop) (xs ys : List α) : Prop :=
  ∃ zs, xs.Perm zs ∧ List.Forall₂ same zs ys

/-- The options of a command are the same but for the order in which a group lists its
sub-commands. -/
inductive CommandOption.SameBelow : CommandOption → CommandOption → Prop where
  | refl (o : CommandOption) : SameBelow o o
  | group {o : CommandOption} {subs : List CommandOption} (hkind : o.kind = .subCommandGroup)
      (hsubs : o.options.Perm subs) : SameBelow o { o with options := subs }

/-- The commands are the same but for the order in which a branching command lists its sub-commands
and groups, and these their sub-commands. -/
inductive ApplicationCommand.SameBelow : ApplicationCommand → ApplicationCommand → Prop where
  | refl (c : ApplicationCommand) : SameBelow c c
  | branching {c : ApplicationCommand} {nodes : List CommandOption} (hc : c.isBranching = true)
      (hnodes : Reordered CommandOption.SameBelow c.options nodes) :
      SameBelow c { c with options := nodes }

/-- Registers patterns one after another, as long as none is refused. -/
def CommandRegistry.registerAll (ps : List Pattern) : Except Error CommandRegistry :=
  ps.foldlM register {}

namespace Leaf

variable {depth : Nat} {h : String} {ls ls' : List Leaf}

/-! ## Leaves in another order -/

/-- The leaves come with the same first names in any order. -/
theorem heads_perm (hperm : ls.Perm ls') : (heads ls).Perm (heads ls') := by
  rw [List.perm_ext_iff_of_nodup (nodup_heads ls) (nodup_heads ls')]
  intro x
  simp only [mem_heads, hperm.mem_iff]

theorem Apart.symm {xs ys : List String} (hxy : Apart xs ys) : Apart ys xs := ⟨hxy.2, hxy.1⟩

theorem Tidy.perm (hls : Tidy depth ls) (hperm : ls.Perm ls') : Tidy depth ls' where
  apart := hls.apart.perm hperm fun hkl => hkl.symm
  depth l hl := hls.depth l (hperm.mem_iff.mpr hl)
  values l hl := hls.values l (hperm.mem_iff.mpr hl)

/-- Tidy leaves have the same leaf at the top in any order, for it stands alone. -/
theorem Tidy.bare?_perm (hls : Tidy depth ls) (hperm : ls.Perm ls') : bare? ls = bare? ls' := by
  cases hos : bare? ls with
  | some os =>
    have hmem : ⟨[], os⟩ ∈ ls' := hperm.mem_iff.mp (mem_of_bare? hos)
    exact ((hls.perm hperm).bare?_of_mem hmem).symm
  | none =>
    rw [eq_comm, bare?_eq_none_iff]
    exact fun l hl => bare?_eq_none_iff.mp hos l (hperm.mem_iff.mpr hl)

/-- In another order of the leaves the nodes of a level stand in another order, and each is changed
as the order of the leaves under its name changes it. -/
theorem reordered_children {α : Type} {node : String → List Leaf → α} {same : α → α → Prop}
    (hperm : ls.Perm ls')
    (hnode : ∀ h ∈ heads ls', same (node h (under h ls)) (node h (under h ls'))) :
    Reordered same (children node ls) (children node ls') := by
  refine ⟨(heads ls').map fun h => node h (under h ls), (heads_perm hperm).map _, ?_⟩
  rw [children, List.forall₂_map_left_iff, List.forall₂_map_right_iff, List.forall₂_same]
  exact hnode

theorem under_perm (hperm : ls.Perm ls') : (under h ls).Perm (under h ls') :=
  hperm.filterMap (after? h)

/-- A group lists the same sub-commands. -/
theorem subCommands_perm (hls : Tidy 1 ls) (hperm : ls.Perm ls') :
    (children subCommandOf ls).Perm (children subCommandOf ls') := by
  have hsame : ∀ x, subCommandOf x (under x ls) = subCommandOf x (under x ls') := fun x => by
    rw [subCommandOf, subCommandOf, hls.under.bare?_perm (under_perm hperm)]
  simp only [children, hsame]
  exact (heads_perm hperm).map _

/-- The node of a command differs in the order of its sub-commands at most. -/
theorem sameBelow_nodeOf (hls : Tidy 1 ls) (hperm : ls.Perm ls') :
    (nodeOf h ls).SameBelow (nodeOf h ls') := by
  rw [nodeOf, nodeOf, ← hls.bare?_perm hperm]
  cases bare? ls with
  | some os => exact .refl _
  | none => exact .group rfl (subCommands_perm hls hperm)

/-- A command differs in the order of what is below it at most. -/
theorem sameBelow_commandOf (hls : Tidy 2 ls) (hne : ls ≠ []) (hperm : ls.Perm ls') :
    (commandOf h ls).SameBelow (commandOf h ls') := by
  cases hos : bare? ls with
  | some os =>
    have hsame : commandOf h ls' = commandOf h ls := by
      rw [commandOf, commandOf, optionsOf_of_leaf hos,
        optionsOf_of_leaf ((hls.bare?_perm hperm).symm.trans hos)]
    rw [hsame]
    exact .refl _
  | none =>
    have hbranching : (commandOf h ls).isBranching = true := by
      rw [isBranching_commandOf hls hne, hos]
      rfl
    refine .branching hbranching ?_
    rw [optionsOf_of_none ((hls.bare?_perm hperm).symm.trans hos)]
    show Reordered _ (optionsOf ls) _
    rw [optionsOf_of_none hos]
    exact reordered_children hperm fun x _ => sameBelow_nodeOf hls.under (under_perm hperm)

/-- The tree of the leaves differs in the order of its nodes at most. -/
theorem reordered_commandsOf (hls : Tidy 3 ls) (hperm : ls.Perm ls') :
    Reordered ApplicationCommand.SameBelow (commandsOf ls) (commandsOf ls') :=
  reordered_children hperm fun _ hx => sameBelow_commandOf hls.under
    (under_ne_nil ((heads_perm hperm).mem_iff.mpr hx)) (under_perm hperm)

end Leaf

namespace CommandRegistry

variable {p : Pattern} {ps qs : List Pattern} {r : CommandRegistry}

/-! ## Patterns in another order -/

theorem registerAll_append_singleton :
    registerAll (ps ++ [p]) = .ok r ↔ ∃ r', registerAll ps = .ok r' ∧ r'.register p = .ok r := by
  rw [registerAll, List.foldlM_append, bind_eq_ok_iff]
  simp [registerAll]

/-- In a sound history a pattern is registered if it is not too deep and keeps apart from those
accepted before. -/
theorem History.Sound.register_eq_ok_iff {h : History} (hh : h.Sound) :
    h.registry.register p = .ok r ↔ p.path.length ≤ 2 ∧
      (∀ q ∈ h.accepted, Leaf.Apart q.segments p.segments) ∧ r = h.registry.insert p := by
  have hverdict := hh.verdict p
  unfold register
  generalize h.registry.refusal p = refusal at hverdict
  cases hverdict with
  | accepted hdepth hapart =>
    simp only [hdepth, true_and, Except.ok.injEq, eq_comm]
    exact (and_iff_right hapart).symm
  | tooDeep hdeep => simp [Nat.not_le.mpr hdeep]
  | duplicate hdepth hapart hold => simp [hapart]
  | conflict clash hdepth hapart hpath hnew => simp [hapart]

/-- The leaves of patterns that are not too deep and keep apart are tidy. -/
theorem tidy_of_apart (hps : ∀ p ∈ ps, ∀ o ∈ p.options, o.kind.isNesting = false)
    (hdepth : ∀ p ∈ ps, p.path.length ≤ 2)
    (hapart : ps.Pairwise fun p q => Leaf.Apart p.segments q.segments) :
    Leaf.Tidy 3 (ps.map Pattern.leaf) where
  apart := List.pairwise_map.mpr hapart
  depth := List.forall_mem_map.mpr fun p hp => Nat.succ_le_succ (hdepth p hp)
  values := List.forall_mem_map.mpr fun p hp => List.forall_mem_map.mpr fun o ho => hps p hp o ho

/-- Patterns can be registered one after another if none is too deep and they keep apart, and the
tree is then that of their leaves. -/
theorem registerAll_eq_ok_iff (hps : ∀ p ∈ ps, ∀ o ∈ p.options, o.kind.isNesting = false) :
    registerAll ps = .ok r ↔ (∀ p ∈ ps, p.path.length ≤ 2) ∧
      (ps.Pairwise fun p q => Leaf.Apart p.segments q.segments) ∧
      r = ⟨Leaf.commandsOf (ps.map Pattern.leaf)⟩ := by
  induction ps using List.reverseRecOn generalizing r with
  | nil =>
    rw [registerAll, List.foldlM_nil, pure_eq_ok_iff]
    simp [eq_comm, Leaf.commandsOf, Leaf.children, Leaf.heads]
  | append_singleton ps p ih =>
    have hpsInit : ∀ q ∈ ps, ∀ o ∈ q.options, o.kind.isNesting = false := fun q hq =>
      hps q (List.mem_append_left [p] hq)
    -- What is registered after patterns that keep apart must keep apart from them in its turn.
    have hlast : (∀ q ∈ ps, q.path.length ≤ 2) →
        (ps.Pairwise fun p q => Leaf.Apart p.segments q.segments) →
        ((⟨Leaf.commandsOf (ps.map Pattern.leaf)⟩ : CommandRegistry).register p = .ok r ↔
          p.path.length ≤ 2 ∧ (∀ q ∈ ps, Leaf.Apart q.segments p.segments) ∧
            r = ⟨Leaf.commandsOf ((ps ++ [p]).map Pattern.leaf)⟩) := by
      intro hdepth hapart
      have hsound : History.Sound ⟨⟨Leaf.commandsOf (ps.map Pattern.leaf)⟩, ps⟩ :=
        ⟨rfl, tidy_of_apart hpsInit hdepth hapart⟩
      rw [hsound.register_eq_ok_iff]
      refine and_congr_right fun hp => and_congr_right fun hfits => ?_
      have hcommands := Leaf.insert_commandsOf hsound.tree (History.names_ne_nil ps)
        (History.fits_iff.mpr hfits) hp
      rw [List.map_append, List.map_singleton, ← hcommands]
    rw [registerAll_append_singleton]
    simp only [ih hpsInit]
    rw [List.pairwise_append]
    constructor
    · rintro ⟨r', ⟨hdepth, hapart, rfl⟩, hreg⟩
      obtain ⟨hp, hfits, hr⟩ := (hlast hdepth hapart).mp hreg
      exact ⟨by simpa [or_imp, forall_and] using ⟨hdepth, hp⟩,
        ⟨hapart, List.pairwise_singleton _ _, by simpa using hfits⟩, hr⟩
    · rintro ⟨hdepth, ⟨hapart, -, hfits⟩, hr⟩
      simp only [List.mem_append, List.mem_singleton, or_imp, forall_and, forall_eq] at hdepth hfits
      exact ⟨_, ⟨hdepth.1, hapart, rfl⟩, (hlast hdepth.1 hapart).mpr ⟨hdepth.2, hfits, hr⟩⟩

/-- Patterns that were read from lines and can be registered in one order can be registered in any
order. The trees differ in nothing but the order of commands and, below them, of sub-commands and
groups. -/
theorem registerAll_perm (hps : ∀ p ∈ ps, ∃ line, Pattern.parse line = .ok p)
    (hregister : registerAll ps = .ok r) (hperm : ps.Perm qs) :
    ∃ r', registerAll qs = .ok r' ∧
      Reordered ApplicationCommand.SameBelow r.commands r'.commands := by
  have hvalues : ∀ p ∈ ps, ∀ o ∈ p.options, o.kind.isNesting = false := by
    intro p hp o ho
    obtain ⟨line, hline⟩ := hps p hp
    exact ((Pattern.parse_eq_ok_iff.mp hline).2.options o ho).kind
  obtain ⟨hdepth, hapart, rfl⟩ := (registerAll_eq_ok_iff hvalues).mp hregister
  have hvalues' : ∀ q ∈ qs, ∀ o ∈ q.options, o.kind.isNesting = false := fun q hq =>
    hvalues q (hperm.mem_iff.mpr hq)
  have hdepth' : ∀ q ∈ qs, q.path.length ≤ 2 := fun q hq => hdepth q (hperm.mem_iff.mpr hq)
  have hapart' : qs.Pairwise fun p q => Leaf.Apart p.segments q.segments :=
    hapart.perm hperm fun hpq => hpq.symm
  exact ⟨_, (registerAll_eq_ok_iff hvalues').mpr ⟨hdepth', hapart', rfl⟩,
    Leaf.reordered_commandsOf (tidy_of_apart hvalues hdepth hapart) (hperm.map Pattern.leaf)⟩

/-- A group and its sub-commands are found in whichever order their patterns come. -/
theorem registerAll_perm_of_group :
    let ps : List Pattern := [⟨"a", ["g", "s"], []⟩, ⟨"b", [], [⟨"x", .string, true, []⟩]⟩,
      ⟨"a", ["t"], []⟩, ⟨"a", ["g", "u"], []⟩]
    ∃ r r', registerAll ps = .ok r ∧ registerAll ps.reverse = .ok r' ∧
      Reordered ApplicationCommand.SameBelow r.commands r'.commands := by
  intro ps
  have hps : ∀ p ∈ ps, ∃ line, Pattern.parse line = .ok p := by
    simp only [ps, List.forall_mem_cons]
    exact ⟨⟨"/a g s", by decide⟩, ⟨"/b x:string", by decide⟩, ⟨"/a t", by decide⟩,
      ⟨"/a g u", by decide⟩, by simp⟩
  obtain ⟨r, hr⟩ : ∃ r, registerAll ps = .ok r := ⟨_, rfl⟩
  obtain ⟨r', hr', hsame⟩ := registerAll_perm hps hr (List.reverse_perm ps).symm
  exact ⟨r, r', hr, hr', hsame⟩

end CommandRegistry

end CommandRouter
