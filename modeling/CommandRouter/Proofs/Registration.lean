import CommandRouter.Proofs.LeafTree

/-!
# Registering patterns one after another

A *history* is a registry together with the patterns that it has accepted. Offering a pattern either
adds it to both or changes neither. In every history the tree is that of the leaves of the accepted
patterns, and from this it follows when a pattern is accepted: exactly if it is not too deep and its
segments keep apart from those of all patterns accepted before.
-/

namespace CommandRouter

namespace CommandRegistry

/-- A registry with the patterns that it has accepted, the first one first. -/
structure History where
  /-- The registry. -/
  registry : CommandRegistry := {}
  /-- The accepted patterns. -/
  accepted : List Pattern := []

namespace History

/-- Offers a pattern, which is accepted if it can be registered. -/
def offer (h : History) (p : Pattern) : History :=
  match h.registry.register p with
  | .ok r => ⟨r, h.accepted ++ [p]⟩
  | .error _ => h

/-- The history of an empty registry to which patterns have been offered in turn. -/
def of (ps : List Pattern) : History := ps.foldl offer {}

/-- The tree is that of the accepted patterns, and their leaves are tidy. -/
structure Sound (h : History) : Prop where
  tree : h.registry.commands = Leaf.commandsOf (h.accepted.map Pattern.leaf)
  tidy : Leaf.Tidy 3 (h.accepted.map Pattern.leaf)

variable {h : History} {p : Pattern} {ps : List Pattern}

theorem names_ne_nil (qs : List Pattern) : ∀ l ∈ qs.map Pattern.leaf, l.names ≠ [] := by
  intro l hl
  obtain ⟨q, -, rfl⟩ := List.mem_map.mp hl
  exact List.cons_ne_nil _ _

theorem fits_iff {qs : List Pattern} {names : List String} :
    Leaf.Fits names (qs.map Pattern.leaf) ↔ ∀ q ∈ qs, Leaf.Apart q.segments names := by
  simp [Leaf.Fits, Pattern.leaf]

/-! ## What a registration does -/

/-- What a refusal says about a pattern and the patterns accepted before it. -/
inductive Verdict (qs : List Pattern) (p : Pattern) : Option Error → Prop where
  | accepted (hdepth : p.path.length ≤ 2) (hapart : ∀ q ∈ qs, Leaf.Apart q.segments p.segments) :
      Verdict qs p none
  | tooDeep (hdepth : 2 < p.path.length) : Verdict qs p (some (.conflict p.key .tooDeep))
  | duplicate (hdepth : p.path.length ≤ 2)
      (hapart : ¬∀ q ∈ qs, Leaf.Apart q.segments p.segments)
      (hold : p.path = [] ∨ ∃ q ∈ qs, q.segments = p.segments) :
      Verdict qs p (some (.duplicate p.key))
  | conflict (clash : Clash) (hdepth : p.path.length ≤ 2)
      (hapart : ¬∀ q ∈ qs, Leaf.Apart q.segments p.segments) (hpath : p.path ≠ [])
      (hnew : ∀ q ∈ qs, q.segments ≠ p.segments) :
      Verdict qs p (some (.conflict p.key clash))

/-- A pattern is judged by its segments and those of the accepted patterns. -/
theorem Sound.verdict (hh : h.Sound) (p : Pattern) :
    Verdict h.accepted p (h.registry.refusal p) := by
  by_cases hdepth : p.path.length ≤ 2
  · have hfits : Leaf.Fits p.segments (h.accepted.map Pattern.leaf) ↔ _ :=
      Leaf.fits_cons (names_ne_nil h.accepted)
    have hapart : Leaf.Fits p.segments (h.accepted.map Pattern.leaf) ↔ _ := fits_iff
    rw [refusal, if_neg (by simpa [Pattern.maxDepth] using hdepth), get?, hh.tree,
      Leaf.find?_commandOf]
    by_cases hname : p.name ∈ Leaf.heads (h.accepted.map Pattern.leaf)
    · rw [if_pos hname, Option.bind_some]
      have hjudged : Leaf.Judged p.key p.path _ (refusal? p.key (Leaf.commandOf p.name _) p.path) :=
        Leaf.judged_refusal? hh.tidy.under (Leaf.under_ne_nil hname) hdepth
      generalize refusal? p.key _ p.path = e at hjudged
      cases hjudged with
      | fits h => exact .accepted hdepth (hapart.mp (hfits.mpr h))
      | duplicate h hold =>
        refine .duplicate hdepth (fun h' => h (hfits.mp (hapart.mpr h'))) ?_
        refine hold.imp_right ?_
        rintro ⟨l, hl, hnames⟩
        obtain ⟨q, hq, hleaf⟩ := List.mem_map.mp (Leaf.mem_under.mp hl)
        refine ⟨q, hq, ?_⟩
        have hsegments := congrArg Leaf.names hleaf
        rwa [hnames] at hsegments
      | conflict clash h hpath hnew =>
        refine .conflict clash hdepth (fun h' => h (hfits.mp (hapart.mpr h'))) hpath ?_
        intro q hq hsegments
        have hmem := List.mem_map_of_mem (f := Pattern.leaf) hq
        rw [Pattern.leaf, hsegments] at hmem
        exact hnew ⟨p.path, _⟩ (Leaf.mem_under.mpr hmem) rfl
    · rw [if_neg hname]
      refine .accepted hdepth (hapart.mp (hfits.mpr ?_))
      rw [Leaf.under_eq_nil hname]
      simp [Leaf.Fits]
  · rw [refusal, if_pos (by simpa [Pattern.maxDepth] using hdepth)]
    exact .tooDeep (by omega)

/-- Offering a pattern with value options keeps a history sound. -/
theorem Sound.offer (hh : h.Sound) (hp : ∀ o ∈ p.options, o.kind.isNesting = false) :
    (h.offer p).Sound := by
  have hverdict := hh.verdict p
  unfold History.offer register
  cases hrefusal : h.registry.refusal p with
  | some e => exact hh
  | none =>
    rw [hrefusal] at hverdict
    cases hverdict with
    | accepted hdepth hapart =>
      have hfits := fits_iff.mpr hapart
      refine ⟨?_, ?_⟩
      · show (h.registry.insert p).commands = Leaf.commandsOf ((h.accepted ++ [p]).map Pattern.leaf)
        rw [List.map_append]
        exact Leaf.insert_commandsOf hh.tree (names_ne_nil _) hfits hdepth
      · show Leaf.Tidy 3 ((h.accepted ++ [p]).map Pattern.leaf)
        rw [List.map_append]
        refine hh.tidy.append_singleton hfits ?_ ?_
        · show (p.name :: p.path).length ≤ 3
          rw [List.length_cons]
          omega
        · intro o ho
          obtain ⟨spec, hspec, rfl⟩ := List.mem_map.mp ho
          exact hp spec hspec

/-- Every history of patterns with value options is sound. -/
theorem sound_of (hps : ∀ p ∈ ps, ∀ o ∈ p.options, o.kind.isNesting = false) :
    (of ps).Sound := by
  induction ps using List.reverseRecOn with
  | nil => exact ⟨rfl, List.Pairwise.nil, by simp [of], by simp [of]⟩
  | append_singleton ps p ih =>
    have hinit := ih fun q hq => hps q (List.mem_append_left [p] hq)
    rw [of, List.foldl_append]
    exact hinit.offer (hps p (by simp))

/-! ## Which patterns are accepted -/

/-- A pattern is accepted exactly if it is not too deep and its segments keep apart from those of
all patterns accepted before. A pattern that is not too deep is refused as a duplicate if its
segments are those of an accepted pattern or it has no path, and else as a conflict; one that is too
deep is always refused as a conflict. -/
theorem register_prefix_free {p : Pattern} {ps : List Pattern}
    (hps : ∀ q ∈ ps, ∀ o ∈ q.options, o.kind.isNesting = false) :
    ((∃ r, (of ps).registry.register p = .ok r) ↔ p.path.length ≤ 2 ∧
      ∀ q ∈ (of ps).accepted, ¬q.segments <+: p.segments ∧ ¬p.segments <+: q.segments) ∧
    (∀ e, p.path.length ≤ 2 → (of ps).registry.register p = .error e →
      (((∃ q ∈ (of ps).accepted, q.segments = p.segments) ∨ p.path = []) →
        e = .duplicate p.key) ∧
      (¬((∃ q ∈ (of ps).accepted, q.segments = p.segments) ∨ p.path = []) →
        ∃ clash, e = .conflict p.key clash)) ∧
    (2 < p.path.length → (of ps).registry.register p = .error (.conflict p.key .tooDeep)) := by
  have hverdict := (sound_of hps).verdict p
  unfold register
  generalize (of ps).registry.refusal p = refusal at hverdict
  cases hverdict with
  | accepted hdepth hapart =>
    refine ⟨⟨fun _ => ⟨hdepth, hapart⟩, fun _ => ⟨_, rfl⟩⟩, ?_, fun hdeep => ?_⟩
    · rintro e - ⟨⟩
    · omega
  | tooDeep hdeep =>
    refine ⟨⟨?_, fun h => ?_⟩, fun e hdepth => ?_, fun _ => rfl⟩
    · rintro ⟨r, ⟨⟩⟩
    · omega
    · omega
  | duplicate hdepth hapart hold =>
    refine ⟨⟨?_, fun h => absurd h.2 hapart⟩, ?_, fun hdeep => ?_⟩
    · rintro ⟨r, ⟨⟩⟩
    · rintro e - ⟨⟩
      exact ⟨fun _ => rfl, fun hnot => absurd hold.symm hnot⟩
    · omega
  | conflict clash hdepth hapart hpath hnew =>
    refine ⟨⟨?_, fun h => absurd h.2 hapart⟩, ?_, fun hdeep => ?_⟩
    · rintro ⟨r, ⟨⟩⟩
    · rintro e - ⟨⟩
      refine ⟨?_, fun _ => ⟨clash, rfl⟩⟩
      rintro (⟨q, hq, hsegments⟩ | hnil)
      · exact absurd hsegments (hnew q hq)
      · exact absurd hnil hpath
    · omega

/-- A refused pattern does not stand in the way of a sibling of an accepted one. -/
theorem register_sibling :
    ∃ r, (of [⟨"a", ["g", "s"], [⟨"x", .string, true, []⟩]⟩, ⟨"a", ["g"], []⟩]).registry.register
      ⟨"a", ["g", "t"], []⟩ = .ok r := by
  exact (register_prefix_free (by decide)).1.mpr (by decide)

end History

end CommandRegistry

end CommandRouter
