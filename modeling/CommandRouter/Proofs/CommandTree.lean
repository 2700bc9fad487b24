import CommandRouter.Proofs.CommandShape
import CommandRouter.Proofs.PatternRoundTrip
import CommandRouter.Proofs.Registration

/-!
# The tree as a picture of the accepted patterns

From the tree of commands the accepted patterns can be read off again: its leaves are their leaves,
each stands where its pattern says, and the nodes stand in the order in which the patterns came. In
between there is nothing that no pattern asked for, and patterns that were refused leave no trace.
-/

namespace CommandRouter

/-- The options of a well-formed pattern are those of a leaf. -/
theorem Pattern.WellFormed.ofLeaf {p : Pattern} (h : p.WellFormed) :
    CommandOption.OfLeaf p.leaf.options := by
  refine ⟨?_, ?_⟩
  · intro o ho
    obtain ⟨spec, hspec, rfl⟩ := List.mem_map.mp ho
    exact ⟨(h.options spec hspec).kind, rfl⟩
  · have hnames : p.leaf.options.map (·.name) = p.options.map (·.name) := by
      simp [leaf, OptionSpec.definition, CommandOption.value, Function.comp_def]
    rw [hnames]
    exact h.distinct

/-- The options of a well-formed pattern are labelled. -/
theorem Pattern.WellFormed.labelled {p : Pattern} (h : p.WellFormed) :
    ∀ o ∈ p.leaf.options, o.Labelled := by
  intro o ho
  obtain ⟨spec, hspec, rfl⟩ := List.mem_map.mp ho
  exact ⟨rfl, fun c hc => ((h.options spec hspec).choices c hc).value⟩

namespace CommandRegistry

namespace History

/-- The names that come next on a way, in the order in which accepted patterns first have them. -/
def namesAfter (h : History) (way : List String) : List String :=
  (h.accepted.filterMap fun p => Leaf.nameAfter? way p.segments).eraseDups

/-- The tree shows the accepted patterns and nothing else. -/
structure Lossless (h : History) : Prop where
  /-- Every command has value options only, or sub-commands and non-empty groups of these only. -/
  shaped : ∀ c ∈ h.registry.commands, c.Shaped
  /-- Commands have different names. -/
  distinct : (h.registry.commands.map (·.name)).Nodup
  /-- The leaves of the tree are those of the accepted patterns. -/
  leaves : h.registry.leaves.Perm (h.accepted.map Pattern.leaf)
  /-- Different accepted patterns have different leaves. -/
  injective : (h.accepted.map Pattern.segments).Nodup
  /-- The way of an accepted pattern leads to its options. -/
  reached : ∀ p ∈ h.accepted,
    h.registry.optionsAt? p.name p.path = some (p.options.map OptionSpec.definition)
  /-- The commands stand in the order of the patterns. -/
  commandOrder : h.registry.commands.map (·.name) = h.namesAfter []
  /-- So do the sub-commands and groups of a command. -/
  nodeOrder : ∀ c ∈ h.registry.commands, c.isBranching = true →
    c.options.map (·.name) = h.namesAfter [c.name]
  /-- So do the sub-commands of a group. -/
  groupOrder : ∀ c ∈ h.registry.commands, ∀ g ∈ c.options, g.kind = .subCommandGroup →
    g.options.map (·.name) = h.namesAfter [c.name, g.name]
  /-- Commands describe themselves by their names. -/
  described : ∀ c ∈ h.registry.commands, c.description = c.name
  /-- So do all options, and choices have values of the type of their option. -/
  labelled : ∀ c ∈ h.registry.commands, ∀ o : CommandOption, o.Within c.options → o.Labelled
  /-- The accepted patterns alone give the same history. -/
  replayed : of h.accepted = h

variable {h : History} {p : Pattern} {ps : List Pattern}

theorem of_append_singleton : of (ps ++ [p]) = (of ps).offer p := by
  rw [of, List.foldl_append]
  rfl

/-- Only patterns that were offered are accepted. -/
theorem mem_of_mem_accepted (hp : p ∈ (of ps).accepted) : p ∈ ps := by
  induction ps using List.reverseRecOn with
  | nil => cases hp
  | append_singleton ps q ih =>
    rw [of_append_singleton, offer] at hp
    split at hp
    · rcases List.mem_append.mp hp with hp | hp
      · exact List.mem_append_left _ (ih hp)
      · exact List.mem_append_right _ hp
    · exact List.mem_append_left _ (ih hp)

/-- Offering the accepted patterns alone gives the same history. -/
theorem of_accepted (ps : List Pattern) : of (of ps).accepted = of ps := by
  induction ps using List.reverseRecOn with
  | nil => rfl
  | append_singleton ps p ih =>
    rw [of_append_singleton]
    cases hreg : (of ps).registry.register p with
    | error e =>
      have hsame : (of ps).offer p = of ps := by rw [offer, hreg]
      rw [hsame, ih]
    | ok r =>
      have hnext : (of ps).offer p = ⟨r, (of ps).accepted ++ [p]⟩ := by rw [offer, hreg]
      rw [hnext]
      show of ((of ps).accepted ++ [p]) = _
      rw [of_append_singleton, ih, hnext]

/-- The names after a way are the first names of the leaves at its end. -/
theorem namesAfter_eq (h : History) (way : List String) :
    h.namesAfter way =
      Leaf.heads (way.foldl (fun ls x => Leaf.under x ls) (h.accepted.map Pattern.leaf)) := by
  rw [Leaf.heads_foldl_under, List.filterMap_map]
  rfl

/-- A sound history of well-formed patterns is shown by its tree. -/
theorem Sound.lossless (hh : h.Sound) (hwf : ∀ p ∈ h.accepted, p.WellFormed)
    (hreplay : of h.accepted = h) : h.Lossless := by
  have hoptions : ∀ l ∈ h.accepted.map Pattern.leaf, CommandOption.OfLeaf l.options := by
    intro l hl
    obtain ⟨p, hp, rfl⟩ := List.mem_map.mp hl
    exact (hwf p hp).ofLeaf
  have hlabelled : ∀ l ∈ h.accepted.map Pattern.leaf, ∀ o ∈ l.options, o.Labelled := by
    intro l hl
    obtain ⟨p, hp, rfl⟩ := List.mem_map.mp hl
    exact (hwf p hp).labelled
  have hcommand : ∀ c ∈ h.registry.commands, ∃ x ∈ Leaf.heads (h.accepted.map Pattern.leaf),
      c = Leaf.commandOf x (Leaf.under x (h.accepted.map Pattern.leaf)) := by
    rw [hh.tree]
    exact fun c hc => Leaf.mem_children.mp hc
  have hnames : h.registry.commands.map (·.name) = Leaf.heads (h.accepted.map Pattern.leaf) := by
    rw [hh.tree]
    exact Leaf.map_name_children Leaf.name_commandOf
  refine
    { shaped := ?_
      distinct := ?_
      leaves := ?_
      injective := ?_
      reached := ?_
      commandOrder := ?_
      nodeOrder := ?_
      groupOrder := ?_
      described := ?_
      labelled := ?_
      replayed := hreplay }
  · intro c hc
    obtain ⟨x, -, rfl⟩ := hcommand c hc
    exact Leaf.shaped_commandOf hh.tidy.under (Leaf.forall_under hoptions)
  · rw [hnames]
    exact Leaf.nodup_heads _
  · rw [CommandRegistry.leaves, hh.tree]
    exact Leaf.leaves_commandsOf hh.tidy (names_ne_nil _)
  · rw [List.Nodup, List.pairwise_map]
    refine (List.pairwise_map.mp hh.tidy.apart).imp ?_
    intro p q hapart
    exact hapart.ne
  · intro p hp
    exact Leaf.optionsAt?_of_mem hh.tree hh.tidy (List.mem_map_of_mem hp)
  · rw [hnames, namesAfter_eq]
    rfl
  · intro c hc hbranching
    obtain ⟨x, hx, rfl⟩ := hcommand c hc
    rw [namesAfter_eq]
    rw [Leaf.isBranching_commandOf hh.tidy.under (Leaf.under_ne_nil hx),
      Option.isNone_iff_eq_none] at hbranching
    show (Leaf.optionsOf _).map (·.name) = _
    rw [Leaf.optionsOf_of_none hbranching]
    exact Leaf.map_name_children Leaf.name_nodeOf
  · intro c hc g hg hkind
    obtain ⟨x, hx, rfl⟩ := hcommand c hc
    obtain ⟨y, -, rfl⟩ := Leaf.eq_group_of_mem hh.tidy.under hg hkind
    rw [namesAfter_eq]
    exact Leaf.map_name_children Leaf.name_subCommandOf
  · intro c hc
    obtain ⟨x, -, rfl⟩ := hcommand c hc
    rfl
  · intro c hc o ho
    obtain ⟨x, -, rfl⟩ := hcommand c hc
    refine Leaf.forall_within_optionsOf hh.tidy.under (Leaf.forall_under hoptions) ?_ ?_ ?_ ho
    · exact Leaf.forall_under (P := fun os => ∀ o ∈ os, o.Labelled) hlabelled
    · exact fun name os => ⟨rfl, by simp [CommandOption.subCommand]⟩
    · exact fun name os => ⟨rfl, by simp [CommandOption.group]⟩

/-- The tree of patterns that were read from lines and registered one after another shows exactly
those that were accepted. -/
theorem lossless_of_parsed (hps : ∀ p ∈ ps, ∃ line, Pattern.parse line = .ok p) :
    (of ps).Lossless := by
  have hwf : ∀ p ∈ ps, p.WellFormed := by
    intro p hp
    obtain ⟨line, hline⟩ := hps p hp
    exact (Pattern.parse_eq_ok_iff.mp hline).2
  have hsound : (of ps).Sound := sound_of fun p hp o ho => ((hwf p hp).options o ho).kind
  exact hsound.lossless (fun p hp => hwf p (mem_of_mem_accepted hp)) (of_accepted ps)

/-- Patterns of all three depths, of which one is refused, are shown by their tree. -/
theorem lossless_three_depths :
    (of [⟨"a", ["g", "s"], [⟨"x", .string, false, [⟨"k", .text "v"⟩]⟩]⟩, ⟨"b", [], []⟩,
      ⟨"a", ["g"], []⟩, ⟨"a", ["t"], []⟩]).Lossless := by
  refine lossless_of_parsed ?_
  simp only [List.forall_mem_cons]
  refine ⟨⟨"/a g s x?:string<k=v>", by decide⟩, ⟨"/b", by decide⟩, ⟨"/a g", by decide⟩,
    ⟨"/a t", by decide⟩, ?_⟩
  simp

end History

end CommandRegistry

end CommandRouter
