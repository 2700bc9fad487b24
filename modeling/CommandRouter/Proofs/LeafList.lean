import CommandRouter.CommandRegistry
import Mathlib.Data.List.Induction

/-!
# Lists of leaves

A *leaf* of the tree of commands is a routable node, with the names on the way to it. A list of
leaves determines a tree: the names that come first are its top level, in the order in which they
first appear, and below each of them stands the tree of the leaves that go on from there.

Leaves are appended one at a time, so the lemmas say what one more leaf changes.
-/

namespace CommandRouter

/-- A routable node: the names that lead to it, that of the command first, and its options. -/
structure Leaf where
  /-- The names on the way. -/
  names : List String
  /-- The options of the node. -/
  options : List CommandOption

namespace Leaf

/-- The names that come first, in the order in which they first appear. -/
def heads (ls : List Leaf) : List String := (ls.filterMap (·.names.head?)).eraseDups

/-- What follows after the given first name, if it is that of the leaf. -/
def after? (h : String) (l : Leaf) : Option Leaf :=
  match l.names with
  | [] => none
  | x :: xs => if x = h then some ⟨xs, l.options⟩ else none

/-- The leaves that go on from the given first name, without it. -/
def under (h : String) (ls : List Leaf) : List Leaf := ls.filterMap (after? h)

/-- The options of the leaf to which no names lead, if it is among the leaves. -/
def bare? (ls : List Leaf) : Option (List CommandOption) :=
  (ls.find? (·.names.isEmpty)).map (·.options)

/-- One node for each first name, made from the name and the leaves under it. -/
def children {α : Type} (node : String → List Leaf → α) (ls : List Leaf) : List α :=
  (heads ls).map fun h => node h (under h ls)

/-- Neither of the ways leads on from the end of the other. -/
def Apart (xs ys : List String) : Prop := ¬xs <+: ys ∧ ¬ys <+: xs

/-- The way keeps apart from those to the leaves. -/
def Fits (names : List String) (ls : List Leaf) : Prop := ∀ l ∈ ls, Apart l.names names

variable {h x : String} {xs ys : List String} {os : List CommandOption} {l : Leaf} {ls : List Leaf}

/-! ## First names -/

theorem mem_heads : h ∈ heads ls ↔ ∃ l ∈ ls, ∃ xs, l.names = h :: xs := by
  simp [heads, List.mem_eraseDups, List.head?_eq_some_iff]

theorem heads_append_singleton :
    heads (ls ++ [⟨x :: xs, os⟩]) = if x ∈ heads ls then heads ls else heads ls ++ [x] := by
  have hsnoc : heads (ls ++ [⟨x :: xs, os⟩]) =
      heads ls ++ ([x].removeAll (ls.filterMap (·.names.head?))).eraseDups := by
    rw [heads, List.filterMap_append, List.eraseDups_append]
    rfl
  have hmem : x ∈ heads ls ↔ x ∈ ls.filterMap (·.names.head?) := List.mem_eraseDups
  by_cases hx : x ∈ heads ls
  · rw [hsnoc, if_pos hx, List.cons_removeAll, if_neg (by simpa using hmem.mp hx)]
    simp
  · rw [hsnoc, if_neg hx, List.cons_removeAll, if_pos (by simpa using mt hmem.mpr hx)]
    simp [List.eraseDups_cons]

/-- Every first name is listed once. -/
theorem nodup_heads (ls : List Leaf) : (heads ls).Nodup := by
  induction ls using List.reverseRecOn with
  | nil => exact List.nodup_nil
  | append_singleton ls l ih =>
    obtain ⟨names, os⟩ := l
    cases names with
    | nil => simpa [heads, List.filterMap_cons] using ih
    | cons x xs =>
      rw [heads_append_singleton]
      split
      · exact ih
      · rename_i hnew
        refine List.nodup_append.mpr ⟨ih, by simp, ?_⟩
        rintro a ha b hb rfl
        exact hnew (List.mem_singleton.mp hb ▸ ha)

/-! ## Leaves under a first name -/

theorem after?_eq_some_iff {l' : Leaf} :
    after? h l = some l' ↔ l = ⟨h :: l'.names, l'.options⟩ := by
  obtain ⟨names, os⟩ := l
  cases names with
  | nil => simp [after?]
  | cons x xs =>
    obtain ⟨names', os'⟩ := l'
    by_cases hx : x = h <;> simp [after?, hx]

theorem mem_under : l ∈ under h ls ↔ ⟨h :: l.names, l.options⟩ ∈ ls := by
  simp [under, after?_eq_some_iff]

theorem under_append (ls' : List Leaf) : under h (ls ++ ls') = under h ls ++ under h ls' :=
  List.filterMap_append

theorem under_singleton : under x [⟨x :: xs, os⟩] = [⟨xs, os⟩] := by
  simp [under, after?]

theorem under_singleton_of_ne (hne : h ≠ x) : under h [⟨x :: xs, os⟩] = [] := by
  simp [under, after?, hne.symm]

/-- No leaves stand under a name that does not come first. -/
theorem under_eq_nil (hx : x ∉ heads ls) : under x ls = [] := by
  refine List.eq_nil_iff_forall_not_mem.mpr fun l hl => hx ?_
  exact mem_heads.mpr ⟨_, mem_under.mp hl, _, rfl⟩

theorem mem_heads_of_mem_under (hl : l ∈ under h ls) : h ∈ heads ls :=
  mem_heads.mpr ⟨_, mem_under.mp hl, _, rfl⟩

/-- Some leaf stands under every name that comes first. -/
theorem under_ne_nil (hh : h ∈ heads ls) : under h ls ≠ [] := by
  obtain ⟨⟨_, os⟩, hl, xs, rfl⟩ := mem_heads.mp hh
  exact List.ne_nil_of_mem (mem_under.mpr hl : ⟨xs, os⟩ ∈ _)

/-! ## The leaf to which no names lead -/

theorem bare?_eq_none_iff : bare? ls = none ↔ ∀ l ∈ ls, l.names ≠ [] := by
  simp [bare?]

theorem mem_of_bare? (hos : bare? ls = some os) : ⟨[], os⟩ ∈ ls := by
  obtain ⟨l, hl, rfl⟩ := Option.map_eq_some_iff.mp hos
  obtain ⟨names, os⟩ := l
  obtain rfl : names = [] := by simpa using List.find?_some hl
  exact List.mem_of_find?_eq_some hl

/-! ## Ways that keep apart -/

theorem apart_cons : Apart (x :: xs) (h :: ys) ↔ x = h → Apart xs ys := by
  simp only [Apart, List.cons_prefix_cons]
  by_cases hx : x = h
  · simp [hx]
  · simp [hx, Ne.symm hx]

theorem Apart.ne (hxy : Apart xs ys) : xs ≠ ys := by
  rintro rfl
  exact hxy.1 (List.prefix_refl xs)

/-- A way fits if its rest fits under its first name. -/
theorem fits_cons (hls : ∀ l ∈ ls, l.names ≠ []) :
    Fits (x :: xs) ls ↔ Fits xs (under x ls) := by
  constructor
  · intro hfits l hl
    exact apart_cons.mp (hfits _ (mem_under.mp hl)) rfl
  · intro hfits l hl
    obtain ⟨names, os⟩ := l
    cases names with
    | nil => exact absurd rfl (hls _ hl)
    | cons y ys =>
      rw [apart_cons]
      rintro rfl
      exact hfits ⟨ys, os⟩ (mem_under.mpr hl)

theorem fits_nil : Fits [] ls ↔ ls = [] := by
  constructor
  · intro hfits
    refine List.eq_nil_iff_forall_not_mem.mpr fun l hl => ?_
    exact (hfits l hl).2 List.nil_prefix
  · rintro rfl
    simp [Fits]

/-- Where a way fits, no leaf stands at the top. -/
theorem Fits.bare? (hfits : Fits xs ls) : bare? ls = none := by
  rw [bare?_eq_none_iff]
  intro l hl hnil
  exact (hfits l hl).1 (hnil ▸ List.nil_prefix)

/-- A single name fits if it does not come first anywhere. -/
theorem fits_singleton (hls : ∀ l ∈ ls, l.names ≠ []) : Fits [x] ls ↔ x ∉ heads ls := by
  rw [fits_cons hls, fits_nil]
  refine ⟨fun hnil hx => ?_, under_eq_nil⟩
  obtain ⟨⟨_, os⟩, hl, xs, rfl⟩ := mem_heads.mp hx
  have hmem : ⟨xs, os⟩ ∈ under x ls := mem_under.mpr hl
  rw [hnil] at hmem
  cases hmem

/-! ## Nodes -/

section Nodes

variable {α : Type} {node : String → List Leaf → α} {found : α → Bool} {change : α → α} {new : α}

open CommandRegistry (changeFirst)

/-- Changing the node of one name among nodes with different names. -/
theorem changeFirst_map {hs : List String} {g g' : String → α} (hnodup : hs.Nodup)
    (hother : ∀ h, h ≠ x → found (g h) = false ∧ g' h = g h)
    (hself : x ∈ hs → found (g x) = true) (hchange : change (g x) = g' x) :
    changeFirst found new change (hs.map g) =
      if x ∈ hs then hs.map g' else hs.map g' ++ [change new] := by
  induction hs with
  | nil => rfl
  | cons h hs ih =>
    obtain ⟨hh, hnodup⟩ := List.nodup_cons.mp hnodup
    have hkeep : ∀ {ks : List String}, x ∉ ks → ks.map g = ks.map g' := by
      intro ks hks
      refine List.map_congr_left fun k hk => ((hother k ?_).2).symm
      rintro rfl
      exact hks hk
    by_cases hx : h = x
    · subst hx
      simp [changeFirst, hself, hchange, hkeep hh]
    · obtain ⟨hnot, heq⟩ := hother h hx
      rw [List.map_cons, changeFirst, if_neg (by simp [hnot]),
        ih hnodup fun hmem => hself (List.mem_cons_of_mem h hmem)]
      by_cases hmem : x ∈ hs <;> simp [hmem, heq, Ne.symm hx]

/-- One more leaf changes the node of its first name, which is made if it is not there. -/
theorem children_append_singleton (hother : ∀ h, h ≠ x → ∀ ls, found (node h ls) = false)
    (hself : x ∈ heads ls → found (node x (under x ls)) = true)
    (hchange : change (node x (under x ls)) = node x (under x ls ++ [⟨xs, os⟩])) :
    children node (ls ++ [⟨x :: xs, os⟩]) =
      changeFirst found (node x []) change (children node ls) := by
  have hafter : ∀ h, h ≠ x →
      node h (under h (ls ++ [⟨x :: xs, os⟩])) = node h (under h ls) := by
    intro h hne
    rw [under_append, under_singleton_of_ne hne, List.append_nil]
  have hwith : node x (under x (ls ++ [⟨x :: xs, os⟩])) = change (node x (under x ls)) := by
    rw [under_append, under_singleton, hchange]
  rw [children, children, heads_append_singleton,
    changeFirst_map (nodup_heads ls) (fun h hne => ⟨hother h hne _, hafter h hne⟩) hself hwith.symm]
  split
  · rfl
  · rename_i hnew
    rw [List.map_append, List.map_singleton, hwith, under_eq_nil hnew]

/-- A leaf with a new first name adds a node at the end. -/
theorem children_append_new (hx : x ∉ heads ls) :
    children node (ls ++ [⟨x :: xs, os⟩]) = children node ls ++ [node x [⟨xs, os⟩]] := by
  rw [children, children, heads_append_singleton, if_neg hx, List.map_append, List.map_singleton,
    under_append, under_singleton, under_eq_nil hx, List.nil_append]
  congr 1
  refine List.map_congr_left fun h hh => ?_
  have hne : h ≠ x := by
    rintro rfl
    exact hx hh
  rw [under_append, under_singleton_of_ne hne, List.append_nil]

/-- A search that can only find the node of one name. -/
theorem find?_children (hother : ∀ h, h ≠ x → ∀ ls, found (node h ls) = false) :
    (children node ls).find? found =
      if x ∈ heads ls ∧ found (node x (under x ls)) = true then some (node x (under x ls))
      else none := by
  rw [children]
  generalize heads ls = hs
  induction hs with
  | nil => rfl
  | cons h hs ih =>
    by_cases hx : h = x
    · subst hx
      cases hfound : found (node h (under h ls)) with
      | true => simp [hfound]
      | false => simpa [hfound] using ih
    · rw [List.map_cons, List.find?_cons_of_neg (by simp [hother h hx]), ih]
      simp [Ne.symm hx]

end Nodes

end Leaf

end CommandRouter
