import CommandRouter.Proofs.DispatchKeys
import CommandRouter.Proofs.LeafTree
import CommandRouter.Proofs.PatternRoundTrip
import Mathlib.Data.String.Basic
import Mathlib.Order.Basic

/-!
# The order of dispatch keys

Dispatch keys are ordered as texts, and that is the order of the names on their ways, compared one
after the other. It holds because the space between two names comes before every character of a
name: where one name ends and the other goes on, the text with the shorter name comes first. So the
keys of all nodes below a command stand together, after the key of the command itself.
-/

namespace CommandRouter

/-- Keys are ordered like their texts. -/
instance : PartialOrder DispatchKey :=
  PartialOrder.lift DispatchKey.text fun ⟨_⟩ ⟨_⟩ h => congrArg DispatchKey.mk h

namespace DispatchKey

/-! ## Joined names -/

/-- Texts without spaces that are followed by nothing or by a space: the first difference lies in
the texts if these differ, be it that one of them ends. -/
theorem append_lt_append_iff {x y u v : List Char} (hx : ∀ c ∈ x, ' ' < c) (hy : ∀ c ∈ y, ' ' < c)
    (hu : ∀ c ∈ u.head?, c = ' ') (hv : ∀ c ∈ v.head?, c = ' ') :
    x ++ u < y ++ v ↔ x < y ∨ x = y ∧ u < v := by
  induction x generalizing y with
  | nil =>
    cases y with
    | nil => simp
    | cons d y =>
      have hd := hy d List.mem_cons_self
      cases u with
      | nil => simp
      | cons c u =>
        obtain rfl := hu c rfl
        simp [List.cons_lt_cons_iff, hd]
  | cons c x ih =>
    have hc := hx c List.mem_cons_self
    cases y with
    | nil =>
      cases v with
      | nil => simp
      | cons d v =>
        obtain rfl := hv d rfl
        simp [List.cons_lt_cons_iff, hc.ne', hc.not_gt]
    | cons d y =>
      rw [List.cons_append, List.cons_append, List.cons_lt_cons_iff, List.cons_lt_cons_iff,
        ih (fun c' hc' => hx c' (List.mem_cons_of_mem _ hc'))
          (fun c' hc' => hy c' (List.mem_cons_of_mem _ hc'))]
      simp only [List.cons.injEq]
      tauto

theorem head?_spaced (names : List String) : ∀ c ∈ (spaced names).head?, c = ' ' := by
  cases names with
  | nil => exact nofun
  | cons s names => exact fun c hc => (Option.some_inj.mp hc).symm

theorem spaced_lt_spaced_iff {xs ys : List String} (hxs : ∀ s ∈ xs, ∀ c ∈ s.toList, ' ' < c)
    (hys : ∀ s ∈ ys, ∀ c ∈ s.toList, ' ' < c) : spaced xs < spaced ys ↔ xs < ys := by
  induction xs generalizing ys with
  | nil => cases ys <;> simp [spaced]
  | cons x xs ih =>
    cases ys with
    | nil => simp [spaced]
    | cons y ys =>
      obtain ⟨hx, hxs⟩ := List.forall_mem_cons.mp hxs
      obtain ⟨hy, hys⟩ := List.forall_mem_cons.mp hys
      rw [spaced_cons, spaced_cons, List.cons_lt_cons_iff, List.cons_lt_cons_iff,
        append_lt_append_iff hx hy (head?_spaced xs) (head?_spaced ys), ih hxs hys,
        String.lt_iff_toList_lt, String.toList_inj]
      simp

theorem ofPath_lt_ofPath_iff {name name' : String} {path path' : List String}
    (hnames : ∀ s ∈ name :: path, Pattern.IsName s)
    (hnames' : ∀ s ∈ name' :: path', Pattern.IsName s) :
    ofPath name path < ofPath name' path' ↔ name :: path < name' :: path' := by
  have habove : ∀ {s : String}, Pattern.IsName s → ∀ c ∈ s.toList, ' ' < c := by
    intro s hs c hc
    have hcode := hs.toNat hc
    show 32 < c.toNat
    omega
  have hspaced := spaced_lt_spaced_iff (fun s hs => habove (hnames s hs))
    (fun s hs => habove (hnames' s hs))
  rw [← hspaced, spaced_cons, spaced_cons]
  show (ofPath name path).text < (ofPath name' path').text ↔ _
  rw [String.lt_iff_toList_lt, toList_text_ofPath, toList_text_ofPath]
  simp

end DispatchKey

/-! ## Runs of a sorted list -/

section Sorted

variable {α : Type} {l : List α} {a b x : α}

theorem eraseRepsBy_loop (r : α → α → Bool) (a : α) (l acc : List α) :
    List.eraseRepsBy.loop r a l acc = acc.reverse ++ List.eraseRepsBy.loop r a l [] := by
  induction l generalizing a acc with
  | nil => simp [List.eraseRepsBy.loop]
  | cons b l ih =>
    simp only [List.eraseRepsBy.loop]
    cases r a b with
    | true => exact ih a acc
    | false =>
      rw [ih b (a :: acc), ih b [a], List.reverse_cons, List.append_assoc, List.reverse_singleton]

theorem eraseReps_cons_cons [DecidableEq α] (a b : α) (l : List α) :
    (a :: b :: l).eraseReps = if a = b then (a :: l).eraseReps else a :: (b :: l).eraseReps := by
  simp only [List.eraseReps, List.eraseRepsBy, List.eraseRepsBy.loop]
  split
  · rename_i heq
    rw [if_pos (beq_iff_eq.mp heq)]
  · rename_i hne
    rw [if_neg (beq_eq_false_iff_ne.mp hne), eraseRepsBy_loop]
    rfl

theorem mem_eraseReps_cons [DecidableEq α] : x ∈ (a :: l).eraseReps ↔ x ∈ a :: l := by
  induction l generalizing a with
  | nil => rfl
  | cons b l ih =>
    rw [eraseReps_cons_cons]
    split
    · rename_i heq
      rw [ih, heq]
      simp
    · rw [List.mem_cons, ih, List.mem_cons (l := b :: l)]

/-- A sorted list whose repetitions are left out is strictly ascending. -/
theorem pairwise_eraseReps_cons [DecidableEq α] [PartialOrder α]
    (h : (a :: l).Pairwise (· ≤ ·)) : (a :: l).eraseReps.Pairwise (· < ·) := by
  induction l generalizing a with
  | nil => exact List.pairwise_singleton _ _
  | cons b l ih =>
    obtain ⟨ha, hbl⟩ := List.pairwise_cons.mp h
    rw [eraseReps_cons_cons]
    split
    · rename_i heq
      exact ih (heq ▸ hbl)
    · rename_i hne
      refine List.pairwise_cons.mpr ⟨fun x hx => ?_, ih hbl⟩
      have hab : a < b := lt_of_le_of_ne (ha b List.mem_cons_self) hne
      rcases List.mem_cons.mp (mem_eraseReps_cons.mp hx) with rfl | hx
      · exact hab
      · exact hab.trans_le ((List.pairwise_cons.mp hbl).1 x hx)

/-- If no entry with a property follows one without it, the entries with the property come first. -/
theorem eq_filter_append (s : α → Bool) (h : l.Pairwise fun a b => s b = true → s a = true) :
    l = l.filter s ++ l.filter (!s ·) := by
  induction l with
  | nil => rfl
  | cons a l ih =>
    obtain ⟨ha, hl⟩ := List.pairwise_cons.mp h
    cases hs : s a with
    | true =>
      rw [List.filter_cons_of_pos hs, List.filter_cons_of_neg (by simp [hs]), List.cons_append,
        ← ih hl]
    | false =>
      have hnone : ∀ b ∈ l, s b = false := by
        intro b hb
        cases hsb : s b with
        | false => rfl
        | true => exact absurd (ha b hb hsb) (by simp [hs])
      rw [List.filter_cons_of_neg (by simp [hs]), List.filter_cons_of_pos (by simp [hs]),
        List.filter_eq_nil_iff.mpr fun b hb => by simp [hnone b hb],
        List.filter_eq_self.mpr fun b hb => by simp [hnone b hb], List.nil_append]

/-- The entries with a property stand together if whatever lies between two of them has it too. -/
theorem exists_eq_append_filter_append {r : α → α → Prop} (s : α → Bool) (hl : l.Pairwise r)
    (hs : ∀ a ∈ l, ∀ b ∈ l, ∀ c ∈ l, r a b → r b c → s a = true → s c = true → s b = true) :
    ∃ before after, l = before ++ l.filter s ++ after := by
  induction l with
  | nil => exact ⟨[], [], rfl⟩
  | cons a l ih =>
    obtain ⟨ha, hl⟩ := List.pairwise_cons.mp hl
    have hmem : ∀ {b}, b ∈ l → b ∈ a :: l := List.mem_cons_of_mem a
    cases hsa : s a with
    | true =>
      have hfirst : l.Pairwise fun b c => s c = true → s b = true :=
        hl.imp_of_mem fun hb hc hbc hsc =>
          hs a List.mem_cons_self _ (hmem hb) _ (hmem hc) (ha _ hb) hbc hsa hsc
      refine ⟨[], l.filter (!s ·), ?_⟩
      rw [List.filter_cons_of_pos hsa, List.nil_append, List.cons_append,
        ← eq_filter_append s hfirst]
    | false =>
      obtain ⟨before, after, heq⟩ := ih hl fun b hb c hc d hd =>
        hs b (hmem hb) c (hmem hc) d (hmem hd)
      refine ⟨a :: before, after, ?_⟩
      rw [List.filter_cons_of_neg (by simp [hsa]), List.cons_append, List.cons_append, ← heq]

/-- What lies between two lists with a common prefix has the prefix too. -/
theorem isPrefix_of_le_of_le [LinearOrder α] {names xs ys zs : List α} (hxs : names <+: xs)
    (hzs : names <+: zs) (hxy : xs ≤ ys) (hyz : ys ≤ zs) : names <+: ys := by
  induction names generalizing xs ys zs with
  | nil => exact List.nil_prefix
  | cons n names ih =>
    obtain ⟨xs, rfl⟩ := hxs
    obtain ⟨zs, rfl⟩ := hzs
    rw [List.cons_append] at hxy hyz
    cases ys with
    | nil => exact absurd (List.nil_lt_cons _ _) hxy.not_gt
    | cons y ys =>
      have hlower := hxy.not_gt
      have hupper := hyz.not_gt
      rw [List.cons_lt_cons_iff, not_or, not_and] at hlower hupper
      obtain rfl : n = y := le_antisymm (not_lt.mp hlower.1) (not_lt.mp hupper.1)
      refine List.cons_prefix_cons.mpr ⟨rfl, ?_⟩
      exact ih (List.prefix_append _ _) (List.prefix_append _ _) (not_lt.mp (hlower.2 rfl))
        (not_lt.mp (hupper.2 rfl))

end Sorted

/-! ## Sorted keys -/

namespace DispatchKey

variable {keys : List DispatchKey} {k : DispatchKey}

theorem mem_sorted : k ∈ sorted keys ↔ k ∈ keys := by
  have hmerge : k ∈ keys.mergeSort (fun a b => decide (a.text ≤ b.text)) ↔ k ∈ keys :=
    List.mem_mergeSort
  rw [← hmerge, sorted]
  cases keys.mergeSort fun a b => decide (a.text ≤ b.text) with
  | nil => rfl
  | cons a l => exact mem_eraseReps_cons

/-- Sorted keys are strictly ascending. -/
theorem pairwise_sorted (keys : List DispatchKey) : (sorted keys).Pairwise (· < ·) := by
  have hmerge : (keys.mergeSort fun a b => decide (a.text ≤ b.text)).Pairwise
      fun a b => decide (a.text ≤ b.text) = true := by
    refine List.pairwise_mergeSort (fun a b c hab hbc => ?_) (fun a b => ?_) keys
    · exact decide_eq_true (le_trans (of_decide_eq_true hab) (of_decide_eq_true hbc))
    · simpa using le_total a.text b.text
  have hsorted : (keys.mergeSort fun a b => decide (a.text ≤ b.text)).Pairwise (· ≤ ·) :=
    hmerge.imp fun hab => of_decide_eq_true hab
  unfold sorted
  generalize keys.mergeSort (fun a b => decide (a.text ≤ b.text)) = l at hsorted
  cases l with
  | nil => exact List.Pairwise.nil
  | cons a l => exact pairwise_eraseReps_cons hsorted

end DispatchKey

namespace Pattern

variable {p q : Pattern} {ps : List Pattern}

theorem WellFormed.isName_of_mem_segments (hp : p.WellFormed) : ∀ s ∈ p.segments, IsName s :=
  List.forall_mem_cons.mpr ⟨hp.name, hp.path⟩

theorem key_lt_key_iff (hp : p.WellFormed) (hq : q.WellFormed) :
    p.key < q.key ↔ p.segments < q.segments :=
  DispatchKey.ofPath_lt_ofPath_iff hp.isName_of_mem_segments hq.isName_of_mem_segments

theorem key_eq_key_iff (hp : p.WellFormed) (hq : q.WellFormed) :
    p.key = q.key ↔ p.segments = q.segments := by
  constructor
  · exact DispatchKey.ofPath_injective hp.isName_of_mem_segments hq.isName_of_mem_segments
  · intro heq
    obtain ⟨hname, hpath⟩ := List.cons.inj heq
    rw [key, key, hname, hpath]

theorem key_le_key_iff (hp : p.WellFormed) (hq : q.WellFormed) :
    p.key ≤ q.key ↔ p.segments ≤ q.segments := by
  rw [le_iff_lt_or_eq, le_iff_lt_or_eq, key_lt_key_iff hp hq, key_eq_key_iff hp hq]

/-- Whether one of the patterns has the key and is on or below the way of the given names. -/
def isBelow (ps : List Pattern) (names : List String) (k : DispatchKey) : Bool :=
  decide (∃ p ∈ ps, p.key = k ∧ names <+: p.segments)

theorem isBelow_key_iff (hps : ∀ p ∈ ps, p.WellFormed) (hp : p ∈ ps) {names : List String} :
    isBelow ps names p.key = true ↔ names <+: p.segments := by
  refine decide_eq_true_iff.trans ⟨?_, fun hprefix => ⟨p, hp, rfl, hprefix⟩⟩
  rintro ⟨q, hq, hkey, hprefix⟩
  rwa [(key_eq_key_iff (hps q hq) (hps p hp)).mp hkey] at hprefix

/-- In the sorted keys of patterns those of the nodes on or below a way stand together. -/
theorem exists_block (hps : ∀ p ∈ ps, p.WellFormed) (names : List String) :
    ∃ before block after, DispatchKey.sorted (ps.map key) = before ++ block ++ after ∧
      ∀ p ∈ ps, p.key ∈ block ↔ names <+: p.segments := by
  have hkey : ∀ {k}, k ∈ DispatchKey.sorted (ps.map key) → ∃ p ∈ ps, p.key = k := fun hk =>
    List.mem_map.mp (DispatchKey.mem_sorted.mp hk)
  obtain ⟨before, after, heq⟩ := exists_eq_append_filter_append (isBelow ps names)
    (DispatchKey.pairwise_sorted (ps.map key)) <| by
      intro a ha b hb c hc hab hbc hsa hsc
      obtain ⟨p, hp, rfl⟩ := hkey ha
      obtain ⟨q, hq, rfl⟩ := hkey hb
      obtain ⟨r, hr, rfl⟩ := hkey hc
      rw [isBelow_key_iff hps hp] at hsa
      rw [isBelow_key_iff hps hr] at hsc
      exact (isBelow_key_iff hps hq).mpr (isPrefix_of_le_of_le hsa hsc
        ((key_le_key_iff (hps p hp) (hps q hq)).mp hab.le)
        ((key_le_key_iff (hps q hq) (hps r hr)).mp hbc.le))
  refine ⟨before, _, after, heq, fun p hp => ?_⟩
  have hmem : p.key ∈ DispatchKey.sorted (ps.map key) :=
    DispatchKey.mem_sorted.mpr (List.mem_map_of_mem hp)
  rw [List.mem_filter, and_iff_right hmem, isBelow_key_iff hps hp]

/-- The key of a pattern is the first one in the block of the nodes on or below its way. -/
theorem exists_block_below (hps : ∀ p ∈ ps, p.WellFormed) (hp : p ∈ ps) :
    ∃ before below after, DispatchKey.sorted (ps.map key) = before ++ p.key :: below ++ after ∧
      ∀ q ∈ ps, q.key ∈ below ↔ p.segments <+: q.segments ∧ q.segments ≠ p.segments := by
  obtain ⟨before, block, after, heq, hblock⟩ := exists_block hps p.segments
  have hpairwise : block.Pairwise (· < ·) := by
    have hall := DispatchKey.pairwise_sorted (ps.map key)
    rw [heq] at hall
    exact (List.pairwise_append.mp (List.pairwise_append.mp hall).1).2.1
  have hown : p.key ∈ block := (hblock p hp).mpr List.prefix_rfl
  cases block with
  | nil => cases hown
  | cons k below =>
    obtain ⟨hk, -⟩ := List.pairwise_cons.mp hpairwise
    have hsorted : k ∈ DispatchKey.sorted (ps.map key) := by simp [heq]
    obtain ⟨q, hq, rfl⟩ := List.mem_map.mp (DispatchKey.mem_sorted.mp hsorted)
    have hprefix : p.segments <+: q.segments := (hblock q hq).mp List.mem_cons_self
    have hle : p.key ≤ q.key := by
      rw [key_le_key_iff (hps p hp) (hps q hq)]
      exact not_lt.mp hprefix.le
    have hfirst : p.key = q.key := by
      rcases List.mem_cons.mp hown with hkey | hmem
      · exact hkey
      · exact absurd (hk _ hmem) hle.not_gt
    rw [← hfirst] at heq hk hblock
    refine ⟨before, below, after, heq, fun r hr => ?_⟩
    rw [← hblock r hr, ne_eq, ← key_eq_key_iff (hps r hr) (hps p hp), List.mem_cons]
    constructor
    · exact fun hmem => ⟨Or.inr hmem, (hk _ hmem).ne'⟩
    · exact fun ⟨hmem, hne⟩ => hmem.resolve_left hne

/-- The keys of patterns are ordered like the names on their ways, compared one after the other, so
two patterns have the same key if they have the same name and path, whatever their options are. In
the sorted keys, each once, those of the nodes on or below any way stand together; and directly
after the key of a command come those of its own sub-commands, with no other key in between. -/
theorem key_order :
    (∀ line line' p q, parse line = .ok p → parse line' = .ok q →
      (p.key ≤ q.key ↔ p.name :: p.path ≤ q.name :: q.path) ∧
      (p.key = q.key ↔ p.name = q.name ∧ p.path = q.path)) ∧
    ∀ ps : List Pattern, (∀ p ∈ ps, ∃ line, parse line = .ok p) →
      (∀ k, k ∈ DispatchKey.sorted (ps.map key) ↔ ∃ p ∈ ps, p.key = k) ∧
      (DispatchKey.sorted (ps.map key)).Pairwise (· < ·) ∧
      (∀ names, ∃ before block after,
        DispatchKey.sorted (ps.map key) = before ++ block ++ after ∧
        ∀ p ∈ ps, p.key ∈ block ↔ names <+: p.segments) ∧
      ∀ p ∈ ps, ∃ before below after,
        DispatchKey.sorted (ps.map key) = before ++ p.key :: below ++ after ∧
        ∀ q ∈ ps, q.key ∈ below ↔ p.segments <+: q.segments ∧ q.segments ≠ p.segments := by
  refine ⟨fun line line' p q hp hq => ?_, fun ps hps => ?_⟩
  · have hp := (parse_eq_ok_iff.mp hp).2
    have hq := (parse_eq_ok_iff.mp hq).2
    exact ⟨key_le_key_iff hp hq, (key_eq_key_iff hp hq).trans List.cons_eq_cons⟩
  · have hwell : ∀ p ∈ ps, p.WellFormed := by
      intro p hp
      obtain ⟨line, hline⟩ := hps p hp
      exact (parse_eq_ok_iff.mp hline).2
    refine ⟨fun k => DispatchKey.mem_sorted.trans List.mem_map,
      DispatchKey.pairwise_sorted _, exists_block hwell, fun p hp => exists_block_below hwell hp⟩

/-- A name that goes on with a hyphen comes after all that is below the shorter name. -/
theorem key_order_hyphen :
    (⟨"a", ["b"], []⟩ : Pattern).key ≤ (⟨"a-b", [], []⟩ : Pattern).key ∧
    ∃ before below after,
      DispatchKey.sorted ([⟨"a-b", [], []⟩, ⟨"a", ["b"], []⟩, ⟨"a", [], []⟩].map key) =
        before ++ key ⟨"a", [], []⟩ :: below ++ after ∧
      key ⟨"a", ["b"], []⟩ ∈ below ∧ key ⟨"a-b", [], []⟩ ∉ below := by
  have hhyphen : parse "/a-b" = .ok ⟨"a-b", [], []⟩ := by decide
  have hsub : parse "/a b" = .ok ⟨"a", ["b"], []⟩ := by decide
  have hcommand : parse "/a" = .ok ⟨"a", [], []⟩ := by decide
  refine ⟨(key_order.1 _ _ _ _ hsub hhyphen).1.mpr (by decide), ?_⟩
  obtain ⟨-, -, -, hblock⟩ := key_order.2 [⟨"a-b", [], []⟩, ⟨"a", ["b"], []⟩, ⟨"a", [], []⟩] (by
    simp only [List.forall_mem_cons, List.not_mem_nil, false_imp_iff, implies_true, and_true]
    exact ⟨⟨_, hhyphen⟩, ⟨_, hsub⟩, ⟨_, hcommand⟩⟩)
  obtain ⟨before, below, after, heq, hbelow⟩ := hblock ⟨"a", [], []⟩ (by simp)
  refine ⟨before, below, after, heq, (hbelow _ (by simp)).mpr (by decide), fun hmem => ?_⟩
  exact absurd ((hbelow _ (by simp)).mp hmem) (by decide)

end Pattern

end CommandRouter
