import CommandRouter.Proofs.Decimals
import Mathlib.Data.Nat.Digits.Defs

/-!
# Numerals

Which integer a numeral stands for, said without the reader: the digits are those of the number to
the base ten, the last one first, and one sign may stand in front. The reader takes a text to an
integer exactly if the text is a numeral for it.
-/

namespace CommandRouter.Decimal

/-- The text is one or more of the digits `0` to `9`. -/
def AreDigits (cs : List Char) : Prop := cs ≠ [] ∧ ∀ c ∈ cs, '0' ≤ c ∧ c ≤ '9'

/-- The number with the given digits to the base ten, of which the last counts ones. -/
def digitsValue (cs : List Char) : Nat :=
  Nat.ofDigits 10 (cs.reverse.map fun c => c.toNat - '0'.toNat)

/-- The text is a numeral for the integer: digits, with or without a sign. -/
inductive Denotes : List Char → Int → Prop where
  | plain {ds : List Char} (h : AreDigits ds) : Denotes ds (digitsValue ds)
  | plus {ds : List Char} (h : AreDigits ds) : Denotes ('+' :: ds) (digitsValue ds)
  | minus {ds : List Char} (h : AreDigits ds) : Denotes ('-' :: ds) (-(digitsValue ds : Int))

/-- The text is a numeral for an integer of 64 bits. -/
def DenotesWord (cs : List Char) (n : Int) : Prop :=
  Denotes cs n ∧ -9223372036854775808 ≤ n ∧ n ≤ 9223372036854775807

theorem isDigit_iff {c : Char} : c.isDigit = true ↔ '0' ≤ c ∧ c ≤ '9' := by
  have h : c.isDigit = (decide ('0' ≤ c) && decide (c ≤ '9')) := rfl
  rw [h, Bool.and_eq_true, decide_eq_true_eq, decide_eq_true_eq]

theorem areDigits_iff {cs : List Char} :
    AreDigits cs ↔ (!cs.isEmpty && cs.all Char.isDigit) = true := by
  simp only [AreDigits, ← isDigit_iff, Bool.and_eq_true, Bool.not_eq_true', List.all_eq_true, ne_eq,
    List.isEmpty_eq_false_iff]

/-- A digit in front counts as many tens as there are digits behind it. -/
theorem digitsValue_cons (c : Char) (cs : List Char) :
    digitsValue (c :: cs) = 10 ^ cs.length * (c.toNat - '0'.toNat) + digitsValue cs := by
  unfold digitsValue
  rw [List.reverse_cons, List.map_append, Nat.ofDigits_append, List.length_map,
    List.length_reverse, List.map_singleton, Nat.ofDigits_singleton]
  exact Nat.add_comm _ _

/-- Reading the digits from the left makes up their value. -/
theorem ofDigitChars_eq (cs : List Char) (acc : Nat) :
    Nat.ofDigitChars 10 cs acc = 10 ^ cs.length * acc + digitsValue cs := by
  induction cs generalizing acc with
  | nil => simp [digitsValue]
  | cons c cs ih =>
    have hstep : Nat.ofDigitChars 10 (c :: cs) acc =
        Nat.ofDigitChars 10 cs (10 * acc + (c.toNat - '0'.toNat)) := by
      simp [Nat.ofDigitChars_cons]
    rw [hstep, ih, digitsValue_cons, List.length_cons, pow_succ, mul_add, mul_assoc, add_assoc]

theorem natural?_eq_some_iff {cs : List Char} {n : Nat} :
    natural? cs = some n ↔ AreDigits cs ∧ digitsValue cs = n := by
  have hvalue : Nat.ofDigitChars 10 cs 0 = digitsValue cs := by
    rw [ofDigitChars_eq, mul_zero, zero_add]
  unfold natural?
  rw [areDigits_iff, hvalue]
  split <;> simp_all

/-- Digits are no sign. -/
theorem AreDigits.ne_sign {c : Char} {cs : List Char} (h : AreDigits (c :: cs)) :
    c ≠ '+' ∧ c ≠ '-' := by
  obtain ⟨hlow, -⟩ := h.2 c List.mem_cons_self
  exact ⟨by rintro rfl; exact absurd hlow (by decide), by rintro rfl; exact absurd hlow (by decide)⟩

theorem integer?_of_areDigits {cs : List Char} (h : AreDigits cs) :
    integer? cs = some (digitsValue cs : Int) := by
  have hread : natural? cs = some (digitsValue cs) := natural?_eq_some_iff.mpr ⟨h, rfl⟩
  unfold integer?
  split
  · exact absurd rfl h.ne_sign.1
  · exact absurd rfl h.ne_sign.2
  · rw [hread]
    rfl

/-- The reader takes exactly the numerals, each to its integer. -/
theorem integer?_eq_some_iff {cs : List Char} {n : Int} :
    integer? cs = some n ↔ Denotes cs n := by
  constructor
  · intro h
    unfold integer? at h
    split at h <;>
      (obtain ⟨m, hm, rfl⟩ := Option.map_eq_some_iff.mp h
       obtain ⟨hds, rfl⟩ := natural?_eq_some_iff.mp hm)
    · exact .plus hds
    · exact .minus hds
    · exact .plain hds
  · rintro (h | h | h)
    · exact integer?_of_areDigits h
    all_goals
      have hread := natural?_eq_some_iff.mpr ⟨h, rfl⟩
      simp [integer?, hread]

theorem signed?_eq_some_iff {cs : List Char} {n : Int} :
    signed? cs = some n ↔ DenotesWord cs n := by
  simp only [signed?, Option.filter_eq_some_iff, integer?_eq_some_iff, fitsSigned,
    Bool.and_eq_true, decide_eq_true_eq, DenotesWord]

/-- A numeral for a negative integer begins with its sign. -/
theorem Denotes.of_neg {cs : List Char} {n : Int} (h : Denotes cs n) (hn : n < 0) :
    ∃ ds, AreDigits ds ∧ cs = '-' :: ds := by
  cases h with
  | plain hds => omega
  | plus hds => omega
  | minus hds => exact ⟨_, hds, rfl⟩

theorem AreDigits.isDigit {cs : List Char} (h : AreDigits cs) : ∀ c ∈ cs, c.isDigit = true :=
  fun c hc => isDigit_iff.mpr (h.2 c hc)

end CommandRouter.Decimal
