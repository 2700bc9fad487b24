import CommandRouter.Proofs.PatternGrammar
import CommandRouter.Proofs.Spacing

/-!
# Word by word

A pattern is read from left to right, and each word extends what the words before it gave. So what
is read from the first words of a line stays when more words follow, and a fault in the first words
is the fault of the whole line: no word mends or hides what is wrong before it.
-/

namespace CommandRouter

namespace Pattern

/-- The second pattern has the name of the first, and continues its path and its options. -/
structure Continues (p q : Pattern) : Prop where
  name : q.name = p.name
  path : p.path <+: q.path
  options : p.options <+: q.options

variable {p q r : Pattern} {words more : List (List Char)} {fault : Fault}

theorem Continues.refl (p : Pattern) : p.Continues p := ⟨rfl, List.prefix_rfl, List.prefix_rfl⟩

theorem Continues.trans (h : p.Continues q) (h' : q.Continues r) : p.Continues r :=
  ⟨h'.name.trans h.name, h.path.trans h'.path, h.options.trans h'.options⟩

/-- One more word leaves what has been read and adds to the path or to the options. -/
theorem continues_of_extend {word : List Char} (hword : ∀ ch ∈ word, Text.isBlank ch = false)
    (h : extend p word = .ok q) : p.Continues q := by
  rcases (extend_eq_ok_iff hword).mp h with ⟨o, -, -, -, rfl⟩ | ⟨s, -, -, -, -, rfl⟩
  · exact ⟨rfl, List.prefix_rfl, List.prefix_append _ _⟩
  · exact ⟨rfl, List.prefix_append _ _, List.prefix_rfl⟩

/-- More words leave what has been read. -/
theorem continues_of_foldlM_extend (hmore : ∀ w ∈ more, ∀ ch ∈ w, Text.isBlank ch = false)
    (h : more.foldlM extend p = .ok q) : p.Continues q := by
  induction more generalizing p with
  | nil =>
    obtain rfl : p = q := pure_eq_ok_iff.mp h
    exact .refl p
  | cons word more ih =>
    obtain ⟨hword, hmore⟩ := List.forall_mem_cons.mp hmore
    rw [List.foldlM_cons] at h
    obtain ⟨r, hstep, hrest⟩ := bind_eq_ok_iff.mp h
    exact (continues_of_extend hword hstep).trans (ih hmore hrest)

/-- The words are read one after another: first those in front, then the others. -/
theorem ofWords_append (hne : words ≠ []) (more : List (List Char)) :
    ofWords (words ++ more) = ofWords words >>= fun p => more.foldlM extend p := by
  obtain ⟨first, rest, rfl⟩ := List.exists_cons_of_ne_nil hne
  cases hstart : start first <;>
    simp [ofWords, hstart, List.foldlM_append, bind, Except.bind]

/-- A fault in the first words is the fault of all. -/
theorem ofWords_append_of_error (hne : words ≠ []) (h : ofWords words = .error fault)
    (more : List (List Char)) : ofWords (words ++ more) = .error fault := by
  rw [ofWords_append hne, h]
  rfl

/-- What is read from the first words stays. -/
theorem continues_of_ofWords (hmore : ∀ w ∈ more, ∀ ch ∈ w, Text.isBlank ch = false)
    (hne : words ≠ []) (hp : ofWords words = .ok p) (hq : ofWords (words ++ more) = .ok q) :
    p.Continues q := by
  rw [ofWords_append hne, hp] at hq
  exact continues_of_foldlM_extend hmore hq

/-! ## Lines -/

/-- A line with given words is read from them. -/
theorem parse_lineOf (hne : words ≠ [])
    (h : ∀ w ∈ words, w ≠ [] ∧ ∀ ch ∈ w, Text.isBlank ch = false) :
    parse (lineOf words) =
      (ofWords words).mapError fun fault => ⟨collapse (lineOf words), fault⟩ := by
  have hwords := words_lineOf h
  rw [parse_of_words (by rwa [hwords]), hwords]

/-- The leftmost faulty word decides. If the first words of a line are refused, the line is refused
for the same reason, and the error differs only in the line that it shows. If both are read, the
line gives what its first words give, with more of the path and more options. -/
theorem parse_of_first_words {ws : List (List Char)} {k : Nat}
    (hws : ∀ w ∈ ws, w ≠ [] ∧ ∀ ch ∈ w, Text.isBlank ch = false) (hpos : 1 ≤ k)
    (hk : k ≤ ws.length) :
    (∀ e, parse (lineOf (ws.take k)) = .error e →
      parse (lineOf ws) = .error { e with line := collapse (lineOf ws) }) ∧
    ∀ p q, parse (lineOf (ws.take k)) = .ok p → parse (lineOf ws) = .ok q →
      q.name = p.name ∧ p.path <+: q.path ∧ p.options <+: q.options := by
  have htake : ws.take k ≠ [] := by
    rw [← List.length_pos_iff, List.length_take]
    omega
  have hne : ws ≠ [] := by
    rintro rfl
    exact htake List.take_nil
  have hcat : ws.take k ++ ws.drop k = ws := List.take_append_drop k ws
  rw [parse_lineOf htake fun w hw => hws w (List.mem_of_mem_take hw), parse_lineOf hne hws]
  refine ⟨fun e he => ?_, fun p q hp hq => ?_⟩
  · obtain ⟨fault, hread, rfl⟩ := mapError_eq_error_iff.mp he
    have hfault := ofWords_append_of_error htake hread (ws.drop k)
    rw [hcat] at hfault
    exact mapError_eq_error_iff.mpr ⟨fault, hfault, rfl⟩
  · rw [mapError_eq_ok_iff] at hp hq
    rw [← hcat] at hq
    have hmore : ∀ w ∈ ws.drop k, ∀ ch ∈ w, Text.isBlank ch = false :=
      fun w hw => (hws w (List.mem_of_mem_drop hw)).2
    have h := continues_of_ofWords hmore htake hp hq
    exact ⟨h.name, h.path, h.options⟩

/-- The second word of four is at fault, and so is that of any line that it begins. -/
theorem parse_of_first_words_at_fault :
    parse (lineOf ["/a".toList, "x:strin".toList, "x:string".toList, "b".toList]) =
      .error ⟨"/a x:strin x:string b", .unknownType "x" "strin"⟩ := by
  have hws : ∀ w ∈ ["/a".toList, "x:strin".toList, "x:string".toList, "b".toList],
      w ≠ [] ∧ ∀ ch ∈ w, Text.isBlank ch = false := by decide
  have hfirst : parse (lineOf ["/a".toList, "x:strin".toList]) =
      .error ⟨"/a x:strin", .unknownType "x" "strin"⟩ := by decide
  exact (parse_of_first_words (k := 2) hws (by decide) (by decide)).1 _ hfirst

end Pattern

end CommandRouter
