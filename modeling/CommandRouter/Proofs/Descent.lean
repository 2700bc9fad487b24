import CommandRouter.Proofs.DispatchKeys

/-!
# Going down along first options

The dispatch key and the values of an invocation are found separately. Both go down from the options
of the command to the first of them, and from a group further to the first option below it, whatever
that is. So they stop at the same place in every option tree, also in those that the platform does
not send: the key has the names of the options that were passed, and the values are the options
below the last of these. How far they go is decided by the kind of the first option and, if that is
a group, by whether anything is below it; but for a group without options nothing else is looked at.
-/

namespace CommandRouter

namespace DataOption

/-- The second list is a chain that goes down from the options in the first one: each option of the
chain is the first on its level. -/
inductive FirstChain : List DataOption → List DataOption → Prop where
  | nil {os : List DataOption} : FirstChain os []
  | cons {o : DataOption} {others chain : List DataOption} (h : FirstChain o.options chain) :
      FirstChain (o :: others) (o :: chain)

/-- The options at the end of a chain: those below its last option, or those from which it goes down
if it is empty. -/
def atEnd (os chain : List DataOption) : List DataOption :=
  (chain.getLast?.map (·.options)).getD os

variable {os chain chain' : List DataOption}

/-- Of two chains from the same options one continues the other. -/
theorem FirstChain.isPrefix (h : FirstChain os chain) (h' : FirstChain os chain')
    (hlength : chain.length ≤ chain'.length) : chain <+: chain' := by
  induction h generalizing chain' with
  | nil => exact List.nil_prefix
  | @cons o others chain _ ih =>
    cases h' with
    | nil => cases hlength
    | cons h' =>
      rw [List.cons_prefix_cons]
      exact ⟨rfl, ih h' (Nat.le_of_succ_le_succ hlength)⟩

/-- A chain that continues another one has further names in its key. -/
theorem eq_of_isPrefix_of_ofPath {name : String} (h : chain <+: chain')
    (hkey : DispatchKey.ofPath name (chain.map (·.name)) = .ofPath name (chain'.map (·.name))) :
    chain = chain' := by
  obtain ⟨rest, rfl⟩ := h
  have htext := congrArg (fun k : DispatchKey => k.text.toList) hkey
  simp only [DispatchKey.toList_text_ofPath, List.map_append, DispatchKey.spaced,
    List.flatMap_append, List.cons.injEq, true_and, List.append_cancel_left_eq] at htext
  cases rest with
  | nil => exact (List.append_nil chain).symm
  | cons o rest =>
    -- The name of a further option would come after a space.
    simp at htext

/-- A chain can be told by its key. -/
theorem FirstChain.eq_of_ofPath {name : String} (h : FirstChain os chain)
    (h' : FirstChain os chain')
    (hkey : DispatchKey.ofPath name (chain.map (·.name)) = .ofPath name (chain'.map (·.name))) :
    chain = chain' := by
  rcases Nat.le_total chain.length chain'.length with hle | hle
  · exact eq_of_isPrefix_of_ofPath (h.isPrefix h' hle) hkey
  · exact (eq_of_isPrefix_of_ofPath (h'.isPrefix h hle) hkey.symm).symm

end DataOption

namespace CommandData

open DataOption

/-- How many options an invocation passes on the way down, by the kind of the first option and by
whether anything is below it. -/
def passed : Option OptionType → Bool → Nat
  | some .subCommand, _ => 1
  | some .subCommandGroup, false => 1
  | some .subCommandGroup, true => 2
  | _, _ => 0

/-- The invocation goes down along the chain: this decides both its key and its values. -/
structure Descends (d : CommandData) (chain : List DataOption) : Prop where
  firsts : FirstChain d.options chain
  length : chain.length = passed (d.options.head?.map (·.kind))
    (d.options.head?.any fun first => !first.options.isEmpty)
  key : d.key = .ofPath d.name (chain.map (·.name))
  values : d.values = atEnd d.options chain

/-- The chain of an invocation, case by case: it has a sub-command, or a group and the first option
below it if there is one, or nothing. -/
inductive Along (d : CommandData) : List DataOption → Prop where
  | values (hvalues : ∀ first, d.options.head? = some first → first.kind.isNesting = false) :
      Along d []
  | subCommand {first : DataOption} {others : List DataOption}
      (hoptions : d.options = first :: others) (hkind : first.kind = .subCommand) : Along d [first]
  | emptyGroup {first : DataOption} {others : List DataOption}
      (hoptions : d.options = first :: others) (hkind : first.kind = .subCommandGroup)
      (hempty : first.options = []) : Along d [first]
  | group {first child : DataOption} {others below : List DataOption}
      (hoptions : d.options = first :: others) (hkind : first.kind = .subCommandGroup)
      (hbelow : first.options = child :: below) : Along d [first, child]

variable {d : CommandData} {chain : List DataOption}

theorem exists_along (d : CommandData) : ∃ chain, Along d chain := by
  cases hoptions : d.options with
  | nil => exact ⟨[], .values fun first hfirst => by simp [hoptions] at hfirst⟩
  | cons first others =>
    by_cases hsub : first.kind = .subCommand
    · exact ⟨_, .subCommand hoptions hsub⟩
    · by_cases hgroup : first.kind = .subCommandGroup
      · cases hbelow : first.options with
        | nil => exact ⟨_, .emptyGroup hoptions hgroup hbelow⟩
        | cons child below => exact ⟨_, .group hoptions hgroup hbelow⟩
      · refine ⟨[], .values fun o ho => ?_⟩
        obtain rfl : first = o := by simpa [hoptions] using ho
        cases hkind : first.kind <;> simp_all [OptionType.isNesting]

/-- The key and the values are both found along the chain. -/
theorem Along.descends (h : Along d chain) : Descends d chain := by
  cases h with
  | values hvalue =>
    cases hoptions : d.options with
    | nil =>
      exact
        { firsts := .nil
          length := by simp [hoptions, passed]
          key := by simp [CommandData.key, path, hoptions]
          values := by simp [CommandData.values, hoptions, atEnd] }
    | cons first others =>
      have hfirst : first.kind.isNesting = false := hvalue first (by simp [hoptions])
      have hkind : first.kind ≠ .subCommand ∧ first.kind ≠ .subCommandGroup := by
        constructor <;> intro h <;> simp [h, OptionType.isNesting] at hfirst
      exact
        { firsts := .nil
          length := by
            simp only [hoptions, List.head?_cons, Option.map_some, List.length_nil]
            unfold passed
            split <;> simp_all
          key := by
            simp only [CommandData.key, path, hoptions, List.head?_cons]
            split <;> simp_all
          values := by
            simp only [CommandData.values, hoptions, List.head?_cons]
            split <;> simp_all [atEnd] }
  | @subCommand first others hoptions hkind =>
    exact
      { firsts := hoptions ▸ .cons .nil
        length := by simp [hoptions, hkind, passed]
        key := by simp [CommandData.key, path, hoptions, hkind]
        values := by simp [CommandData.values, hoptions, hkind, atEnd] }
  | @emptyGroup first others hoptions hkind hempty =>
    exact
      { firsts := hoptions ▸ .cons .nil
        length := by simp [hoptions, hkind, hempty, passed]
        key := by simp [CommandData.key, path, hoptions, hkind, hempty]
        values := by simp [CommandData.values, hoptions, hkind, hempty, atEnd] }
  | @group first child others below hoptions hkind hbelow =>
    exact
      { firsts := hoptions ▸ .cons (hbelow ▸ .cons .nil)
        length := by simp [hoptions, hkind, hbelow, passed]
        key := by simp [CommandData.key, path, hoptions, hkind, hbelow]
        values := by simp [CommandData.values, hoptions, hkind, hbelow, atEnd] }

/-- An option in the chain that is no sub-command or group is the first one below a group. -/
theorem Along.eq_of_value (h : Along d chain) {o : DataOption} (ho : o ∈ chain)
    (hvalue : o.kind.isNesting = false) :
    ∃ group, group.kind = .subCommandGroup ∧ chain = [group, o] := by
  cases h with
  | values => cases ho
  | subCommand _ hkind | emptyGroup _ hkind =>
    obtain rfl := List.mem_singleton.mp ho
    simp [hkind, OptionType.isNesting] at hvalue
  | @group first child others below _ hkind _ =>
    rcases List.mem_cons.mp ho with rfl | hchild
    · simp [hkind, OptionType.isNesting] at hvalue
    · obtain rfl := List.mem_singleton.mp hchild
      exact ⟨first, hkind, rfl⟩

/-- The key and the values of an invocation are found along one chain of first options, in every
option tree, and no other chain has that key. The chain has at most two options; how many is decided
by the kind of the first option and by whether a group has something below it. Below a group without
options there are no values. An option with a value is in the chain only as the first one below a
group. The values at the end of the chain are those that a handler is given. -/
theorem descends_uniquely (d : CommandData) :
    ∃ chain, d.Descends chain ∧ chain.length ≤ 2 ∧
      (∀ chain', FirstChain d.options chain' →
        d.key = .ofPath d.name (chain'.map (·.name)) → chain' = chain) ∧
      (∀ group others, d.options = group :: others → group.kind = .subCommandGroup →
        group.options = [] → chain = [group] ∧ d.values = []) ∧
      (∀ o ∈ chain, o.kind.isNesting = false →
        ∃ group, group.kind = .subCommandGroup ∧ chain = [group, o]) ∧
      ∀ i : Interaction, i.command? = some d → i.options = atEnd d.options chain ∧
        ∀ name, i.option? name = (atEnd d.options chain).find? fun o => o.name == name := by
  obtain ⟨chain, halong⟩ := exists_along d
  have hdescends := halong.descends
  have hunique : ∀ chain', FirstChain d.options chain' →
      d.key = .ofPath d.name (chain'.map (·.name)) → chain' = chain := fun chain' hfirsts hkey =>
    hfirsts.eq_of_ofPath hdescends.firsts (hkey.symm.trans hdescends.key)
  refine ⟨chain, hdescends, ?_, hunique, fun group others hoptions hkind hempty => ?_,
    fun o ho hvalue => halong.eq_of_value ho hvalue, fun i hi => ?_⟩
  · rw [hdescends.length]
    unfold passed
    split <;> decide
  · have hgroup : d.Descends [group] := (Along.emptyGroup hoptions hkind hempty).descends
    exact ⟨(hunique [group] hgroup.firsts hgroup.key).symm, hgroup.values.trans hempty⟩
  · have hoptions : i.options = atEnd d.options chain := by
      rw [Interaction.options, hi]
      exact hdescends.values
    exact ⟨hoptions, fun name => by rw [Interaction.option?, hoptions]⟩

/-- A group that holds a value, which holds a further one, and a group that holds nothing. -/
theorem descends_uniquely_malformed :
    let inner : DataOption := .ofValue "x" .string (.string "v")
    let value : DataOption := { name := "flag", kind := .boolean, options := [inner] }
    let filled : CommandData := .ofOptions "a" [.group "g" value, .subCommand "s" []]
    let empty : CommandData := .ofOptions "a" [{ name := "g", kind := .subCommandGroup }, inner]
    (filled.key = ⟨"/a g flag"⟩ ∧ filled.Descends [.group "g" value, value] ∧
        (Interaction.ofCommand "1" filled).options = [inner]) ∧
      empty.key = ⟨"/a g"⟩ ∧ empty.values = [] := by
  intro inner value filled empty
  obtain ⟨chain, hdescends, -, hunique, -, -, hgiven⟩ := descends_uniquely filled
  obtain ⟨_, -, -, -, hempty, -⟩ := descends_uniquely empty
  obtain rfl : [DataOption.group "g" value, value] = chain :=
    hunique _ (.cons (.cons .nil)) rfl
  refine ⟨⟨by decide, hdescends, (hgiven (.ofCommand "1" filled) rfl).1⟩, by decide, ?_⟩
  exact (hempty _ _ rfl rfl rfl).2

end CommandData

end CommandRouter
