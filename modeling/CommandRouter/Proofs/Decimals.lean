import CommandRouter.Text.Decimal

/-!
# Integers read back

An integer in decimal is read back as itself, and a 64-bit integer that is read fits its word.
-/

namespace CommandRouter.Decimal

/-- An integer is written with digits and perhaps a minus sign. -/
theorem mem_render {n : Int} {c : Char} (h : c ∈ render n) : c = '-' ∨ c.isDigit = true := by
  cases n with
  | ofNat n => exact Or.inr (isDigit_of_mem_digits h)
  | negSucc n =>
    rcases List.mem_cons.mp h with rfl | h
    · exact Or.inl rfl
    · exact Or.inr (isDigit_of_mem_digits h)

/-- Digits are no sign, so a text of digits is read as a natural number. -/
theorem integer?_digits (n : Nat) : integer? (digits n) = some (n : Int) := by
  have hread : natural? (digits n) = some n := natural?_digits n
  cases hcs : digits n with
  | nil => simp [hcs, natural?] at hread
  | cons c cs =>
    have hmem : c ∈ digits n := by
      rw [hcs]
      exact List.mem_cons_self
    have hc : c.isDigit = true := isDigit_of_mem_digits hmem
    have hplus : c ≠ '+' := by rintro rfl; exact absurd hc (by decide)
    have hminus : c ≠ '-' := by rintro rfl; exact absurd hc (by decide)
    unfold integer?
    split
    · rename_i heq; exact absurd (List.cons.inj heq).1 hplus
    · rename_i heq; exact absurd (List.cons.inj heq).1 hminus
    · rw [← hcs, hread]; rfl

theorem text_natCast (n : Nat) : text n = toString n := rfl

/-- An integer in decimal reads back as itself. -/
theorem integer?_render (n : Int) : integer? (render n) = some n := by
  cases n with
  | ofNat n => exact integer?_digits n
  | negSucc n =>
    show (natural? (digits (n + 1))).map (fun m => -Int.ofNat m) = _
    rw [natural?_digits]
    rfl

/-- An integer that fits a signed word is read back from its decimal form. -/
theorem signed?_render {n : Int} (h : fitsSigned n = true) : signed? (render n) = some n := by
  simp [signed?, integer?_render, h]

/-- What is read as a signed word fits one. -/
theorem fitsSigned_of_signed? {cs : List Char} {n : Int} (h : signed? cs = some n) :
    fitsSigned n = true := by
  simp only [signed?, Option.filter_eq_some_iff] at h
  exact h.2

/-- The integers that fit are those of a 64-bit word. -/
theorem fitsSigned_toInt (n : Int64) : fitsSigned n.toInt = true := by
  have hlow := Int64.le_toInt n
  have hhigh := Int64.toInt_lt n
  simp only [fitsSigned, Bool.and_eq_true, decide_eq_true_eq]
  omega

/-- A 64-bit word keeps an integer that fits. -/
theorem toInt_ofInt {n : Int} (h : fitsSigned n = true) : (Int64.ofInt n).toInt = n := by
  simp only [fitsSigned, Bool.and_eq_true, decide_eq_true_eq] at h
  exact Int64.toInt_ofInt_of_le (by omega) (by omega)

end CommandRouter.Decimal
