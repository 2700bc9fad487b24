import CommandRouter.DispatchKey
import CommandRouter.Interaction.Basic
import CommandRouter.Proofs.PatternGrammar
import Mathlib.Data.List.TakeWhile

/-!
# Dispatch keys

Names hold no spaces, so the names on a way can be read off from its dispatch key. The key of an
invocation is that of the way along which its options lead, for all shapes in which the platform
sends them.
-/

namespace CommandRouter

namespace DispatchKey

/-- Names one after the other, each after a space. -/
def spaced (names : List String) : List Char := names.flatMap fun s => ' ' :: s.toList

theorem spaced_cons (s : String) (names : List String) :
    spaced (s :: names) = ' ' :: (s.toList ++ spaced names) := rfl

/-- A key is the slash with the names, but for the space before the first of them. -/
theorem toList_text_ofPath (name : String) (path : List String) :
    (ofPath name path).text.toList = '/' :: (name.toList ++ spaced path) := by
  have hjoined : [' '].intercalate ((name :: path).map String.toList) =
      name.toList ++ spaced path := by
    induction path generalizing name with
    | nil => simp [spaced]
    | cons s path ih =>
      rw [List.map_cons, List.map_cons, List.intercalate_cons_cons, ← List.map_cons, ih,
        spaced_cons, List.append_assoc, List.singleton_append]
  rw [ofPath, String.toList_ofList, hjoined]

/-- What is spelled by the names on a way can be read off from its key. -/
theorem flatMap_namesIn_of_ofPath {name name' : String} {path path' : List String}
    (h : ofPath name path = ofPath name' path') :
    (name :: path).flatMap Text.namesIn = (name' :: path').flatMap Text.namesIn := by
  have hspelled : ∀ name path, ((ofPath name path).text.toList.drop 1).splitOn ' ' =
      (name :: path).flatMap fun s => s.toList.splitOn ' ' := by
    intro name path
    rw [ofPath, String.toList_ofList, List.drop_one, List.tail_cons,
      Text.splitOn_intercalate_eq_flatMap ' ' (by simp), List.flatMap_map]
  have hsplit := hspelled name path
  rw [h, hspelled name' path'] at hsplit
  have hnames := congrArg (List.map String.ofList) hsplit
  rw [List.map_flatMap, List.map_flatMap] at hnames
  exact hnames.symm

/-- Ways of names have different keys unless they are the same. -/
theorem ofPath_injective {name name' : String} {path path' : List String}
    (hnames : ∀ s ∈ name :: path, Pattern.IsName s)
    (hnames' : ∀ s ∈ name' :: path', Pattern.IsName s)
    (h : ofPath name path = ofPath name' path') : name :: path = name' :: path' := by
  have hspelled := flatMap_namesIn_of_ofPath h
  rwa [Text.flatMap_namesIn_of_not_mem fun s hs => (hnames s hs).not_mem (by decide),
    Text.flatMap_namesIn_of_not_mem fun s hs => (hnames' s hs).not_mem (by decide)] at hspelled

/-- A name without spaces is read off from the keys that begin with it. -/
theorem commandName_ofPath {name : String} (h : ' ' ∉ name.toList) (path : List String) :
    (ofPath name path).commandName = name := by
  have hname : ∀ c ∈ name.toList, (c != ' ') = true := fun c hc =>
    bne_iff_ne.mpr fun heq => h (heq ▸ hc)
  have hrest : (spaced path).takeWhile (· != ' ') = [] := by
    cases path with
    | nil => rfl
    | cons s path => exact List.takeWhile_cons_of_neg (by decide)
  rw [commandName, toList_text_ofPath, List.drop_succ_cons, List.drop_zero,
    List.takeWhile_append_of_pos hname, hrest, List.append_nil, String.ofList_toList]

end DispatchKey

/-! ## Invocations -/

/-- The options of an invocation lead along a way: they are values, or one sub-command that holds
values, or one group that holds one such sub-command. -/
inductive DataOption.LeadAlong : List DataOption → List String → Prop where
  | values {os : List DataOption} (hvalues : ∀ o ∈ os, o.kind.isNesting = false) : LeadAlong os []
  | subCommand {sub : DataOption} (hkind : sub.kind = .subCommand)
      (hvalues : ∀ o ∈ sub.options, o.kind.isNesting = false) : LeadAlong [sub] [sub.name]
  | group {group sub : DataOption} (hkind : group.kind = .subCommandGroup)
      (hgroup : group.options = [sub]) (hsub : sub.kind = .subCommand)
      (hvalues : ∀ o ∈ sub.options, o.kind.isNesting = false) :
      LeadAlong [group] [group.name, sub.name]

/-- The way on which the options lead is the one that is read off from them. -/
theorem DataOption.LeadAlong.path_eq {d : CommandData} {path : List String}
    (h : LeadAlong d.options path) : d.path = path := by
  unfold CommandData.path
  generalize d.options = os at h
  cases h with
  | values hvalues =>
    cases os with
    | nil => rfl
    | cons first rest =>
      have hfirst := hvalues first List.mem_cons_self
      cases hkind : first.kind <;> simp_all [OptionType.isNesting]
  | subCommand hkind => simp [hkind]
  | group hkind hgroup => simp [hkind, hgroup]

/-- The data of an invocation that is made for a way lead along it. -/
theorem DataOption.leadAlong_ofPath {name : String} {path : List String} {vs : List DataOption}
    (hdepth : path.length ≤ 2) (hvalues : ∀ o ∈ vs, o.kind.isNesting = false) :
    LeadAlong (CommandData.ofPath name path vs).options path := by
  match path, hdepth with
  | [], _ => exact .values hvalues
  | [sub], _ => exact @LeadAlong.subCommand (.subCommand sub vs) rfl hvalues
  | [group, sub], _ =>
    exact @LeadAlong.group (.group group (.subCommand sub vs)) (.subCommand sub vs) rfl rfl rfl
      hvalues

end CommandRouter
