/-!
# Cutting a text

`cutAt d` splits a text at the first occurrence of `d`, which belongs to neither part; a text
without `d` has no cut. `dropLast?` and `dropStart?` take a given end or a given beginning off.
`takeBytes` and `dropBytes` cut at a place that is counted in bytes of UTF-8; a character that lies
across that place belongs to neither part.
-/

namespace CommandRouter.Text

/-- The parts before and after the first occurrence of a delimiter. -/
def cutAt (d : Char) : List Char → Option (List Char × List Char)
  | [] => none
  | c :: cs =>
    if c = d then some ([], cs)
    else (cutAt d cs).map fun (left, right) => (c :: left, right)

/-- The text without its last character, if that is the given one. -/
def dropLast? (d : Char) (cs : List Char) : Option (List Char) :=
  if cs.getLast? = some d then some cs.dropLast else none

/-- The text without the given beginning, if it has it. -/
def dropStart? : List Char → List Char → Option (List Char)
  | [], cs => some cs
  | _ :: _, [] => none
  | d :: ds, c :: cs => if c = d then dropStart? ds cs else none

/-- The characters that lie within the first `n` bytes of a text. -/
def takeBytes : Nat → List Char → List Char
  | _, [] => []
  | n, c :: cs => if c.utf8Size ≤ n then c :: takeBytes (n - c.utf8Size) cs else []

/-- The characters that lie behind the first `n` bytes of a text. -/
def dropBytes : Nat → List Char → List Char
  | 0, cs => cs
  | _, [] => []
  | n + 1, c :: cs => dropBytes (n + 1 - c.utf8Size) cs

/-! ## Laws -/

/-- A cut loses nothing but the delimiter, and its left part is free of the delimiter. -/
theorem cutAt_eq_some_iff {d : Char} {cs left right : List Char} :
    cutAt d cs = some (left, right) ↔ cs = left ++ d :: right ∧ d ∉ left := by
  induction cs generalizing left with
  | nil => simp [cutAt]
  | cons c cs ih =>
    by_cases h : c = d
    · subst h
      cases left with
      | nil => simp [cutAt, eq_comm]
      | cons x xs => simp [cutAt]; intro hx; simp [hx]
    · cases left with
      | nil => simp [cutAt, h]
      | cons x xs =>
        simp only [cutAt, h, ↓reduceIte, Option.map_eq_some_iff, Prod.exists, Prod.mk.injEq,
          List.cons.injEq, List.cons_append, List.mem_cons, not_or]
        constructor
        · rintro ⟨l, r, hlr, ⟨rfl, rfl⟩, rfl⟩
          obtain ⟨rfl, hd⟩ := ih.1 hlr
          exact ⟨⟨rfl, rfl⟩, fun e => h e.symm, hd⟩
        · rintro ⟨⟨rfl, hcs⟩, _, hd⟩
          exact ⟨xs, right, ih.2 ⟨hcs, hd⟩, ⟨rfl, rfl⟩, rfl⟩

/-- There is no cut exactly when the delimiter does not occur. -/
theorem cutAt_eq_none_iff {d : Char} {cs : List Char} : cutAt d cs = none ↔ d ∉ cs := by
  induction cs with
  | nil => simp [cutAt]
  | cons c cs ih =>
    by_cases h : c = d
    · simp [cutAt, h]
    · simp [cutAt, h, ih, Ne.symm h]

/-- In a text of single bytes, cutting behind bytes is cutting behind characters. -/
theorem takeBytes_eq_take {cs : List Char} (h : ∀ c ∈ cs, c.utf8Size = 1) (n : Nat) :
    takeBytes n cs = cs.take n := by
  induction cs generalizing n with
  | nil => simp [takeBytes]
  | cons c cs ih =>
    have hc : c.utf8Size = 1 := h c List.mem_cons_self
    have hcs : ∀ d ∈ cs, d.utf8Size = 1 := fun d hd => h d (List.mem_cons_of_mem c hd)
    cases n with
    | zero => simp [takeBytes, hc]
    | succ n => simp [takeBytes, hc, ih hcs]

/-- In a text of single bytes, what lies behind bytes is what lies behind characters. -/
theorem dropBytes_eq_drop {cs : List Char} (h : ∀ c ∈ cs, c.utf8Size = 1) (n : Nat) :
    dropBytes n cs = cs.drop n := by
  induction cs generalizing n with
  | nil => cases n <;> simp [dropBytes]
  | cons c cs ih =>
    have hc : c.utf8Size = 1 := h c List.mem_cons_self
    have hcs : ∀ d ∈ cs, d.utf8Size = 1 := fun d hd => h d (List.mem_cons_of_mem c hd)
    cases n with
    | zero => simp [dropBytes]
    | succ n => simp [dropBytes, hc, ih hcs]

end CommandRouter.Text
