import CommandRouter.Interaction.Basic
import CommandRouter.Proofs.FiniteNumbers
import Mathlib.Algebra.Order.Field.Power
import Mathlib.Data.Rat.Cast.Order
import Mathlib.Order.Monotone.Basic
import Mathlib.Tactic.Linarith
import Mathlib.Tactic.NormNum
import Mathlib.Tactic.Ring

/-!
# Integers are exact

An option has an integer if the number that it holds is one, exactly, and fits 64 bits with a sign.
On the way to it a number may be rounded to a double, and the upper bound of the range is itself
rounded, to the integer above it. Neither can be seen in the result: an integer that is rounded is
too large before and after, and the rounded bound is left out.
-/

namespace CommandRouter

/-! ## Exact values -/

/-- The exact value of a double, read off from its bits: a sign, eleven bits of exponent and
fifty-two of fraction. Infinities, and bits that stand for no number, have none. -/
def Double.value? (x : Double) : Option ℚ :=
  let sign : ℚ := if x.bits.toNat.testBit 63 then -1 else 1
  let exponent : ℕ := x.bits.toNat / 2 ^ 52 % 2 ^ 11
  let fraction : ℕ := x.bits.toNat % 2 ^ 52
  if exponent = 2047 then none
  else if exponent = 0 then some (sign * (fraction * 2 ^ (-1074 : ℤ)))
  else some (sign * ((2 ^ 52 + fraction : ℕ) * 2 ^ ((exponent : ℤ) - 1075)))

/-- The exact value of a number. -/
def Number.value? : Number → Option ℚ
  | integer n => some n
  | double x => x.value?

namespace Double

variable {x y : Double} {m n : ℕ}

/-! ## Order

Magnitudes are ordered like the values that they stand for. -/

/-- The value that a finite magnitude stands for. -/
def valueOf (m : ℕ) : ℚ := significandOf m * 2 ^ exponentOf m

theorem valueOf_zero : valueOf 0 = 0 := by
  have hzero : significandOf 0 = 0 := rfl
  rw [valueOf, hzero, Nat.cast_zero, zero_mul]

/-- The magnitude next to another one stands for a larger value: either the significand is one
larger, or it was the largest one and the exponent is one larger. -/
theorem valueOf_lt_succ (m : ℕ) : valueOf m < valueOf (m + 1) := by
  have hpow : (0 : ℚ) < 2 ^ exponentOf m := zpow_pos (by norm_num) _
  have hstep : significandOf (m + 1) = significandOf m + 1 ∧ exponentOf (m + 1) = exponentOf m ∨
      significandOf m + 1 = 2 * significandOf (m + 1) ∧ exponentOf (m + 1) = exponentOf m + 1 := by
    have htwo : twoTo 52 = 2 ^ 52 := rfl
    simp only [significandOf, exponentOf, htwo]
    split <;> split <;> omega
  rcases hstep with ⟨hsig, hexp⟩ | ⟨hsig, hexp⟩
  · rw [valueOf, valueOf, hsig, hexp]
    exact mul_lt_mul_of_pos_right (Nat.cast_lt.mpr (Nat.lt_succ_self _)) hpow
  · have hcast : (significandOf m : ℚ) + 1 = 2 * significandOf (m + 1) := by exact_mod_cast hsig
    rw [valueOf, valueOf, hexp, zpow_add_one₀ (by norm_num)]
    calc (significandOf m : ℚ) * 2 ^ exponentOf m
        < (2 * significandOf (m + 1)) * 2 ^ exponentOf m :=
          mul_lt_mul_of_pos_right (by linarith) hpow
      _ = significandOf (m + 1) * (2 ^ exponentOf m * 2) := by ring

/-- The value at a place among all doubles. -/
def valueAt : ℤ → ℚ
  | .ofNat m => valueOf m
  | .negSucc m => -valueOf (m + 1)

theorem valueAt_neg_natCast (m : ℕ) : valueAt (-m) = -valueOf m := by
  cases m with
  | zero => exact valueOf_zero.trans (neg_zero.symm.trans (congrArg _ valueOf_zero.symm))
  | succ m => rfl

/-- Values are ordered like their places. -/
theorem valueAt_lt_valueAt_iff {k l : ℤ} : valueAt k < valueAt l ↔ k < l := by
  have hstep : ∀ k, valueAt k < valueAt (k + 1) := by
    intro k
    cases k with
    | ofNat m => exact valueOf_lt_succ m
    | negSucc m =>
      have hnext : Int.negSucc m + 1 = -(m : ℤ) := by omega
      rw [hnext, valueAt_neg_natCast]
      exact neg_lt_neg (valueOf_lt_succ m)
  exact (strictMono_int_of_lt_succ hstep).lt_iff_lt

theorem valueAt_le_valueAt_iff {k l : ℤ} : valueAt k ≤ valueAt l ↔ k ≤ l := by
  rw [← not_lt, valueAt_lt_valueAt_iff, not_lt]

/-- The value that a finite double stands for. -/
def value (x : Double) : ℚ := valueAt x.rank

theorem value_eq (x : Double) :
    x.value = if x.isNegative then -valueOf x.magnitude else valueOf x.magnitude := by
  rw [value, rank]
  split
  · exact valueAt_neg_natCast _
  · rfl

theorem not_isNaN (h : x.isFinite) : x.isNaN = false := by
  have hlt : x.magnitude < 2047 * twoTo 52 := of_decide_eq_true h
  exact decide_eq_false (by omega)

theorem le_iff (hx : x.isFinite) (hy : y.isFinite) : le x y ↔ x.value ≤ y.value := by
  rw [le, not_isNaN hx, not_isNaN hy, value, value, valueAt_le_valueAt_iff]
  simp

theorem lt_iff (hx : x.isFinite) (hy : y.isFinite) : lt x y ↔ x.value < y.value := by
  rw [lt, not_isNaN hx, not_isNaN hy, value, value, valueAt_lt_valueAt_iff]
  simp

/-- The value is the one that the bits tell. -/
theorem value?_eq (x : Double) : x.value? = if x.isFinite then some x.value else none := by
  have hexponent : x.bits.toNat / 2 ^ 52 % 2 ^ 11 = x.magnitude / twoTo 52 := by
    show x.bits.toNat / 2 ^ 52 % 2 ^ 11 = x.bits.toNat % 2 ^ 63 / 2 ^ 52
    omega
  have hfraction : x.bits.toNat % 2 ^ 52 = x.magnitude % twoTo 52 := by
    show x.bits.toNat % 2 ^ 52 = x.bits.toNat % 2 ^ 63 % 2 ^ 52
    omega
  have hword := x.bits.toNat_lt
  have hsign : x.bits.toNat.testBit 63 = x.isNegative := by
    rw [Nat.testBit_eq_decide_div_mod_eq, isNegative, decide_eq_decide]
    show x.bits.toNat / 2 ^ 63 % 2 = 1 ↔ 2 ^ 63 ≤ x.bits.toNat
    omega
  have hfinite : x.isFinite = true ↔ ¬ x.magnitude / twoTo 52 = 2047 := by
    rw [isFinite, isFiniteMagnitude, decide_eq_true_eq]
    show x.bits.toNat % 2 ^ 63 < 2047 * 2 ^ 52 ↔ ¬ x.bits.toNat % 2 ^ 63 / 2 ^ 52 = 2047
    omega
  rw [value?, value_eq, hexponent, hfraction, hsign]
  simp only [hfinite, valueOf, significandOf, exponentOf]
  have hsmall : x.magnitude / twoTo 52 = 0 → x.magnitude % twoTo 52 = x.magnitude := fun h =>
    Nat.mod_eq_of_lt ((Nat.div_eq_zero_iff_lt (twoTo_pos 52)).mp h)
  split
  · rfl
  · split
    · rename_i hzero
      rw [hsmall hzero]
      cases x.isNegative <;> simp
    · cases x.isNegative <;> simp [twoTo, add_comm]

/-! ## Whole numbers -/

/-- A finite value is a quotient by a power of two, and one of the two powers is one. -/
theorem valueOf_eq (m : ℕ) : valueOf m =
    (significandOf m * twoTo (exponentOf m).toNat : ℕ) / (twoTo (-exponentOf m).toNat : ℕ) := by
  have hexp : exponentOf m = (exponentOf m).toNat - (-exponentOf m).toNat := by omega
  rw [valueOf, hexp, zpow_sub₀ (by norm_num), zpow_natCast, zpow_natCast, ← hexp]
  simp only [twoTo, Nat.pow_eq, Nat.cast_mul, Nat.cast_pow, Nat.cast_ofNat]
  ring

/-- The value is whole if the significand has the power of two that it is divided by; the integer
is then the quotient. -/
theorem valueOf_eq_natCast_iff : valueOf m = n ↔
    significandOf m % twoTo (-exponentOf m).toNat = 0 ∧
      significandOf m * twoTo (exponentOf m).toNat / twoTo (-exponentOf m).toNat = n := by
  have hpos := twoTo_pos (-exponentOf m).toNat
  have hdvd : twoTo (-exponentOf m).toNat ∣ significandOf m * twoTo (exponentOf m).toNat ↔
      significandOf m % twoTo (-exponentOf m).toNat = 0 := by
    rcases Int.le_total 0 (exponentOf m) with hexp | hexp
    · have hone : (-exponentOf m).toNat = 0 := by omega
      simp [hone, twoTo, Nat.mod_one]
    · have hone : (exponentOf m).toNat = 0 := by omega
      simp [hone, twoTo, Nat.dvd_iff_mod_eq_zero]
  have hden : ((twoTo (-exponentOf m).toNat : ℕ) : ℚ) ≠ 0 := Nat.cast_ne_zero.mpr hpos.ne'
  rw [valueOf_eq, div_eq_iff hden, ← Nat.cast_mul, Nat.cast_inj, ← hdvd]
  constructor
  · intro heq
    rw [heq]
    exact ⟨Nat.dvd_mul_left _ _, Nat.mul_div_cancel _ hpos⟩
  · rintro ⟨hdiv, heq⟩
    exact (Nat.div_eq_iff_eq_mul_left hpos hdiv).mp heq

theorem valueOf_nonneg (m : ℕ) : 0 ≤ valueOf m :=
  mul_nonneg (Nat.cast_nonneg _) (zpow_nonneg (by norm_num) _)

/-- A finite double has an integer as its value if it has no fraction, and it is that integer. -/
theorem value_eq_intCast_iff (hfinite : x.isFinite) (n : ℤ) :
    x.value = n ↔ x.isWhole ∧ x.truncate = n := by
  have hnat : ∀ k : ℕ, valueOf x.magnitude = k ↔
      x.isWhole ∧ x.significand * twoTo x.exponent.toNat / twoTo (-x.exponent).toNat = k := by
    intro k
    rw [isWhole, hfinite, Bool.true_and, beq_iff_eq]
    exact valueOf_eq_natCast_iff
  -- A value is positive or zero before it gets its sign, so only an integer that is can be reached.
  have hint : ∀ k : ℤ, valueOf x.magnitude = k ↔ x.isWhole ∧
      ((x.significand * twoTo x.exponent.toNat / twoTo (-x.exponent).toNat : ℕ) : ℤ) = k := by
    intro k
    cases k with
    | ofNat k =>
      rw [Int.ofNat_eq_natCast, Int.cast_natCast, hnat, Int.natCast_inj]
    | negSucc k =>
      have hnonneg := valueOf_nonneg x.magnitude
      have hneg : ((Int.negSucc k : ℤ) : ℚ) < 0 := by exact_mod_cast Int.negSucc_lt_zero k
      constructor
      · intro heq
        linarith
      · rintro ⟨-, heq⟩
        exact absurd (heq ▸ Int.natCast_nonneg _) (Int.negSucc_lt_zero k).not_ge
  rw [value_eq, truncate]
  split
  · rw [neg_eq_iff_eq_neg, ← Int.cast_neg, hint, ← neg_eq_iff_eq_neg]
  · exact hint n

/-! ## Bounds -/

/-- The bounds of the signed words are rounded to powers of two, of which only the lower one fits
such a word. -/
theorem value_bounds : (ofInteger (-9223372036854775808)).isFinite ∧
    (ofInteger (-9223372036854775808)).value = (-9223372036854775808 : ℤ) ∧
    (ofInteger 9223372036854775807).isFinite ∧
    (ofInteger 9223372036854775807).value = (9223372036854775808 : ℤ) := by
  have hlower : (ofInteger (-9223372036854775808)).isFinite := by decide +kernel
  have hupper : (ofInteger 9223372036854775807).isFinite := by decide +kernel
  refine ⟨hlower, (value_eq_intCast_iff hlower _).mpr ?_, hupper,
    (value_eq_intCast_iff hupper _).mpr ?_⟩
  all_goals decide +kernel

theorem inSignedRange_iff (hfinite : x.isFinite) : x.inSignedRange ↔
    (-9223372036854775808 : ℤ) ≤ x.value ∧ x.value < (9223372036854775808 : ℤ) := by
  obtain ⟨hlower, hlower', hupper, hupper'⟩ := value_bounds
  rw [inSignedRange, Bool.and_eq_true, le_iff hlower hfinite, lt_iff hfinite hupper, hlower',
    hupper']

/-- A number that fits a signed word is not brought into the range. -/
theorem toSigned_eq (hfinite : x.isFinite) (h : -9223372036854775808 ≤ x.truncate)
    (h' : x.truncate < 9223372036854775808) : x.toSigned = x.truncate := by
  rw [toSigned, if_neg (by simp [not_isNaN hfinite])]
  omega

/-- An integer of 64 bits is rounded to a finite double. -/
theorem isFinite_ofInteger {k : ℤ} (h : k.natAbs < twoTo 64) : (ofInteger k).isFinite :=
  isFinite_ofMagnitude _ (isFiniteMagnitude_of_le (nearest_integer_le h) (by decide))

theorem le_roundQuotient (num den : ℕ) : num / den ≤ roundQuotient num den := by
  simp only [roundQuotient]
  split
  · exact Nat.le_refl _
  · split <;> omega

/-- An integer that takes all of 64 bits is rounded to `2 ^ 63` or more. -/
theorem le_nearest_integer (h : twoTo 63 ≤ n) (h' : n < twoTo 64) :
    1086 * twoTo 52 ≤ nearest n 1 0 := by
  have hnonzero : n ≠ 0 := Nat.ne_of_gt (Nat.lt_of_lt_of_le (twoTo_pos 63) h)
  have hlog : n.log2 = 63 := (Nat.log2_eq_iff hnonzero).mpr ⟨h, h'⟩
  have hnearest : nearest n 1 0 = 1085 * twoTo 52 + roundQuotient n (twoTo 11) := by
    have hone : Nat.log2 1 = 0 := rfl
    have hunit : twoTo 0 = 1 := rfl
    have hlarge : ¬ n < twoTo 52 * twoTo 11 := Nat.not_lt.mpr h
    simp [nearest, hnonzero, hlog, hone, hunit, scaleQuotient, hlarge]
  have hquotient : twoTo 52 ≤ n / twoTo 11 := (Nat.le_div_iff_mul_le (twoTo_pos 11)).mpr h
  have hround := le_roundQuotient n (twoTo 11)
  omega

/-- The integers of 64 bits that fit no signed word are rounded to finite doubles that are too large
as well. -/
theorem isFinite_ofInteger_and_le {k : ℤ} (h : 9223372036854775808 ≤ k)
    (h' : k < 18446744073709551616) :
    (ofInteger k).isFinite ∧ (9223372036854775808 : ℤ) ≤ (ofInteger k).value := by
  have hlower : twoTo 63 ≤ k.natAbs := by
    show 9223372036854775808 ≤ k.natAbs
    omega
  have hupper : k.natAbs < twoTo 64 := by
    show k.natAbs < 18446744073709551616
    omega
  have hle := nearest_integer_le hupper
  have hbound : 1089 * twoTo 52 < twoTo 63 := by decide
  have hsign : decide (k < 0) = false := decide_eq_false (by omega)
  refine ⟨isFinite_ofInteger hupper, ?_⟩
  have hrank : (ofInteger k).rank = nearest k.natAbs 1 0 := by
    rw [rank, ofInteger, hsign, isNegative_ofMagnitude _ (by omega),
      magnitude_ofMagnitude _ (by omega)]
    rfl
  have hrank' : (ofInteger 9223372036854775807).rank = (1086 * twoTo 52 : ℕ) := by decide +kernel
  obtain ⟨-, -, -, hvalue⟩ := value_bounds
  rw [← hvalue, value, value, valueAt_le_valueAt_iff, hrank, hrank']
  exact Int.ofNat_le.mpr (le_nearest_integer hlower hupper)

/-- A double is taken for an integer if that is its value and fits a signed word. -/
theorem toSigned_iff {n : ℤ} : (x.isWhole && x.inSignedRange) = true ∧ x.toSigned = n ↔
    x.value? = some (n : ℚ) ∧ -9223372036854775808 ≤ n ∧ n ≤ 9223372036854775807 := by
  by_cases hfinite : x.isFinite
  · have hvalue : x.value? = some (n : ℚ) ↔ x.isWhole ∧ x.truncate = n := by
      rw [value?_eq, if_pos hfinite, Option.some_inj, value_eq_intCast_iff hfinite]
    rw [hvalue, Bool.and_eq_true, inSignedRange_iff hfinite]
    constructor
    · rintro ⟨⟨hwhole, hlower, hupper⟩, rfl⟩
      rw [(value_eq_intCast_iff hfinite x.truncate).mpr ⟨hwhole, rfl⟩] at hlower hupper
      have hlower := Int.cast_le.mp hlower
      have hupper := Int.cast_lt.mp hupper
      rw [toSigned_eq hfinite hlower hupper]
      exact ⟨⟨hwhole, rfl⟩, hlower, Int.le_of_lt_add_one hupper⟩
    · rintro ⟨⟨hwhole, htruncate⟩, hlower, hupper⟩
      rw [(value_eq_intCast_iff hfinite n).mpr ⟨hwhole, htruncate⟩, Int.cast_le, Int.cast_lt]
      have hupper := Int.lt_add_one_of_le hupper
      rw [toSigned_eq hfinite (htruncate ▸ hlower) (htruncate ▸ hupper)]
      exact ⟨⟨hwhole, hlower, hupper⟩, htruncate⟩
  · have hwhole : x.isWhole = false := by
      rw [isWhole, Bool.eq_false_iff.mpr hfinite, Bool.false_and]
    rw [value?_eq, if_neg hfinite, hwhole]
    simp

end Double

/-! ## Options -/

/-- An integer that fits no signed word is none as a double either: what it is rounded to is out of
the range. -/
theorem Number.filter_double?_of_not_fitsSigned {n : ℤ} (h : Decimal.fitsSigned n = false) :
    (double? (.integer n)).filter (fun x => x.isWhole && x.inSignedRange) = none := by
  have hrange : ¬ (-9223372036854775808 ≤ n ∧ n ≤ 9223372036854775807) := by
    simpa [Decimal.fitsSigned] using h
  rw [double?, h, Bool.false_or]
  by_cases hunsigned : Decimal.fitsUnsigned n
  · have hbounds : 0 ≤ n ∧ n ≤ 18446744073709551615 := by
      simpa [Decimal.fitsUnsigned] using hunsigned
    obtain ⟨hfinite, hlarge⟩ := Double.isFinite_ofInteger_and_le (k := n) (by omega) (by omega)
    have hout : (Double.ofInteger n).inSignedRange = false :=
      Bool.eq_false_iff.mpr fun hin => ((Double.inSignedRange_iff hfinite).mp hin).2.not_ge hlarge
    rw [if_pos hunsigned, Option.filter_some, hout, Bool.and_false, if_neg Bool.false_ne_true]
  · rw [if_neg hunsigned, Option.filter_none]

namespace DataOption

variable {o : DataOption} {n : ℤ}

/-- An option with a number has the integer that the number is, if that fits a signed word. -/
theorem int?_of_number {v : Number} (h : o.value = some (.number v)) : o.int? = some n ↔
    v.value? = some (n : ℚ) ∧ -9223372036854775808 ≤ n ∧ n ≤ 9223372036854775807 := by
  simp only [int?, h]
  cases v with
  | integer k =>
    have hvalue : (Number.integer k).value? = some (n : ℚ) ↔ k = n := by
      rw [Number.value?, Option.some_inj, Int.cast_inj]
    rw [hvalue]
    cases hsigned : Decimal.fitsSigned k with
    | true =>
      have hrange : -9223372036854775808 ≤ k ∧ k ≤ 9223372036854775807 := by
        simpa [Decimal.fitsSigned] using hsigned
      rw [Number.signed?, Option.filter_some_pos hsigned, Option.some_or, Option.some_inj]
      constructor
      · rintro rfl
        exact ⟨rfl, hrange⟩
      · exact And.left
    | false =>
      have hrange : ¬ (-9223372036854775808 ≤ k ∧ k ≤ 9223372036854775807) := by
        simpa [Decimal.fitsSigned] using hsigned
      rw [Number.signed?, Option.filter_some, hsigned, if_neg Bool.false_ne_true, Option.none_or,
        Number.filter_double?_of_not_fitsSigned hsigned, Option.map_none]
      constructor
      · intro hn
        cases hn
      · rintro ⟨rfl, hfits⟩
        exact absurd hfits hrange
  | double x =>
    rw [Number.value?, ← Double.toSigned_iff]
    simp [Number.signed?, Number.double?, Option.map_eq_some_iff, Option.filter_eq_some_iff]

theorem int?_eq_none (h : ∀ v, o.value ≠ some (.number v)) : o.int? = none := by
  unfold int?
  split
  · rename_i v hv
    exact absurd hv (h v)
  · rfl

theorem int?_eq_some_iff : o.int? = some n ↔ ∃ v, o.value = some (.number v) ∧
    v.value? = some (n : ℚ) ∧ -9223372036854775808 ≤ n ∧ n ≤ 9223372036854775807 := by
  constructor
  · intro hn
    by_cases hv : ∃ v, o.value = some (.number v)
    · obtain ⟨v, hv⟩ := hv
      exact ⟨v, hv, (int?_of_number hv).mp hn⟩
    · rw [int?_eq_none (not_exists.mp hv)] at hn
      cases hn
  · rintro ⟨v, hv, hn⟩
    exact (int?_of_number hv).mpr hn

/-- A number that is no integer, or one that is too large, is none. -/
theorem int?_eq_none_of_number {v : Number} (h : o.value = some (.number v))
    (hv : ∀ n : ℤ, v.value? = some (n : ℚ) → 9223372036854775807 < n) : o.int? = none := by
  refine Option.eq_none_iff_forall_ne_some.mpr fun n hn => ?_
  obtain ⟨hvalue, -, hle⟩ := (int?_of_number h).mp hn
  exact (hv n hvalue).not_ge hle

/-- An option has an integer if it holds a number of exactly this value and the integer fits a
signed word. So it has none if it holds one of the integers that only fit an unsigned word, although these
are rounded to doubles; if it holds `2 ^ 63` as a double, or a double that is no integer; or if it
holds no number. -/
theorem int?_exact (o : DataOption) :
    (∀ n : ℤ, o.int? = some n ↔ ∃ v, o.value = some (.number v) ∧ v.value? = some (n : ℚ) ∧
      -2 ^ 63 ≤ n ∧ n ≤ 2 ^ 63 - 1) ∧
    (∀ n : ℤ, o.value = some (.number (.integer n)) → 2 ^ 63 ≤ n → n ≤ 2 ^ 64 - 1 →
      (∃ x q, (Number.integer n).double? = some x ∧ x.value? = some q ∧ 2 ^ 63 ≤ q) ∧
        o.int? = none) ∧
    (∀ x : Double, o.value = some (.number (.double x)) → x.value? = some (2 ^ 63) →
      o.int? = none) ∧
    (∀ x : Double, o.value = some (.number (.double x)) → (∀ n : ℤ, x.value? ≠ some (n : ℚ)) →
      o.int? = none) ∧
    ((∀ v, o.value ≠ some (.number v)) → o.int? = none) := by
  refine ⟨fun n => int?_eq_some_iff, fun n hv hlower hupper => ⟨?_, ?_⟩, fun x hv hx => ?_,
    fun x hv hx => int?_eq_none_of_number hv fun m hm => absurd hm (hx m), int?_eq_none⟩
  · obtain ⟨hfinite, hle⟩ := Double.isFinite_ofInteger_and_le (k := n) hlower (by omega)
    have hfits : Decimal.fitsUnsigned n = true := by
      simp only [Decimal.fitsUnsigned, Bool.and_eq_true, decide_eq_true_eq]
      omega
    refine ⟨.ofInteger n, (Double.ofInteger n).value, ?_, ?_, by exact_mod_cast hle⟩
    · rw [Number.double?, hfits, Bool.or_true, if_pos rfl]
    · rw [Double.value?_eq, if_pos hfinite]
  · refine int?_eq_none_of_number hv fun m hm => ?_
    rw [Number.value?, Option.some_inj, Int.cast_inj] at hm
    omega
  · refine int?_eq_none_of_number hv fun m hm => ?_
    rw [Number.value?, hx, Option.some_inj] at hm
    have hm : (2 ^ 63 : ℤ) = m := by exact_mod_cast hm
    omega

/-- The largest integer, the one after it in both forms, one half, the negative zero and a text. -/
theorem int?_exact_bounds :
    (ofValue "n" .integer (.number (.integer (2 ^ 63 - 1)))).int? = some (2 ^ 63 - 1) ∧
    (ofValue "n" .integer (.number (.integer (2 ^ 63)))).int? = none ∧
    (ofValue "n" .integer (.number (.double ⟨0x43E0000000000000⟩))).int? = none ∧
    (ofValue "n" .integer (.number (.double ⟨0x3FE0000000000000⟩))).int? = none ∧
    (ofValue "n" .integer (.number (.double ⟨0x8000000000000000⟩))).int? = some 0 ∧
    (ofValue "n" .integer (.string "1")).int? = none := by
  have htop : Double.value? ⟨0x43E0000000000000⟩ = some (2 ^ 63) := by decide +kernel
  have hhalf : Double.value? ⟨0x3FE0000000000000⟩ = some (1 / 2) := by decide +kernel
  have hzero : Double.value? ⟨0x8000000000000000⟩ = some (0 : ℤ) := by decide +kernel
  refine ⟨?_, ?_, ?_, ?_, ?_, ?_⟩
  · exact ((int?_exact _).1 _).mpr ⟨_, rfl, rfl, by decide, by decide⟩
  · exact ((int?_exact _).2.1 _ rfl (by decide) (by decide)).2
  · exact (int?_exact _).2.2.1 _ rfl htop
  · refine (int?_exact _).2.2.2.1 _ rfl fun n hn => ?_
    rw [hhalf, Option.some_inj, div_eq_iff two_ne_zero] at hn
    have hn : 1 = n * 2 := by exact_mod_cast hn
    omega
  · exact ((int?_exact _).1 _).mpr ⟨_, rfl, hzero, by decide, by decide⟩
  · exact (int?_exact _).2.2.2.2 nofun

end DataOption

end CommandRouter
