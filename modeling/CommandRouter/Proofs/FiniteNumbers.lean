import CommandRouter.Json.Reader

/-!
# Finite numbers

Every number that is read from a text is finite. The significand of a number that is read is one of
64 bits, so it is far from the bounds of all doubles; what is multiplied is checked afterwards, and
what is divided by a power of ten gets little larger by rounding.
-/

namespace CommandRouter

namespace Double

variable {num den a b m k : Nat} {scale e : Int}

/-! ## Magnitudes -/

theorem twoTo_pos (k : Nat) : 0 < twoTo k := Nat.two_pow_pos k

theorem roundQuotient_le (num den : Nat) : roundQuotient num den ≤ num / den + 1 := by
  simp only [roundQuotient]
  split
  · omega
  · split <;> omega

/-- A quotient that is scaled by not too small a power of two is rounded to at most `2 ^ 54`. -/
theorem roundQuotient_scaleQuotient_le (hden : den ≠ 0)
    (h : (num.log2 : Int) - den.log2 + scale ≤ 53) :
    roundQuotient (scaleQuotient num den scale).1 (scaleQuotient num den scale).2 ≤
      4 * twoTo 52 := by
  have hlt : num * twoTo scale.toNat < 4 * twoTo 52 * (den * twoTo (-scale).toNat) := by
    calc num * twoTo scale.toNat
        < twoTo (num.log2 + 1) * twoTo scale.toNat :=
          Nat.mul_lt_mul_of_pos_right Nat.lt_log2_self (twoTo_pos _)
      _ = twoTo (num.log2 + 1 + scale.toNat) := (Nat.pow_add 2 _ _).symm
      _ ≤ twoTo (54 + den.log2 + (-scale).toNat) :=
          Nat.pow_le_pow_right (by decide) (by omega)
      _ = 4 * twoTo 52 * (twoTo den.log2 * twoTo (-scale).toNat) := by
          rw [show (4 : Nat) * twoTo 52 = twoTo 54 from rfl, ← Nat.mul_assoc]
          simp only [twoTo, Nat.pow_eq, Nat.pow_add]
      _ ≤ 4 * twoTo 52 * (den * twoTo (-scale).toNat) :=
          Nat.mul_le_mul_left _ (Nat.mul_le_mul_right _ (Nat.log2_self_le hden))
  have hpos : 0 < den * twoTo (-scale).toNat :=
    Nat.mul_pos (Nat.pos_of_ne_zero hden) (twoTo_pos _)
  have hquotient := (Nat.div_lt_iff_lt_mul hpos).mpr hlt
  exact Nat.le_trans (roundQuotient_le _ _) hquotient

/-- The magnitude nearest to a quotient, up to a factor of sixteen. -/
theorem exists_nearest_eq (hnum : num ≠ 0) (hden : den ≠ 0) (scale : Int) :
    ∃ (e : Int) (r : Nat), nearest num den scale = (e + 1074).toNat * twoTo 52 + r ∧
      r ≤ 4 * twoTo 52 ∧ (num.log2 : Int) - den.log2 + scale - 53 ≤ e ∧
      (e ≤ -1074 ∨ e ≤ (num.log2 : Int) - den.log2 + scale - 52) := by
  rw [nearest, if_neg hnum]
  refine ⟨_, _, rfl, roundQuotient_scaleQuotient_le hden ?_, ?_, ?_⟩
  all_goals split <;> omega

theorem significandOf_lt (m : Nat) : significandOf m < twoTo 53 := by
  have hmod := Nat.mod_lt m (twoTo_pos 52)
  have hdouble : twoTo 53 = 2 * twoTo 52 := rfl
  unfold significandOf
  split
  · rename_i hsmall
    have hlt := (Nat.div_eq_zero_iff_lt (twoTo_pos 52)).mp hsmall
    omega
  · omega

theorem log2_significandOf_le (m : Nat) : (significandOf m).log2 ≤ 52 := by
  by_cases hzero : significandOf m = 0
  · rw [hzero]
    decide
  · exact Nat.le_of_lt_succ ((Nat.log2_lt hzero).mpr (significandOf_lt m))

theorem exponentOf_le (h : m ≤ k * twoTo 52) (hk : 1 ≤ k) : exponentOf m ≤ k - 1075 := by
  have hdiv := Nat.div_le_of_le_mul (Nat.mul_comm k _ ▸ h)
  unfold exponentOf
  split <;> omega

theorem le_exponentOf (h : k * twoTo 52 ≤ m) (hk : 1 ≤ k) :
    (k : Int) - 1075 ≤ exponentOf m ∧ significandOf m ≠ 0 := by
  have hdiv := (Nat.le_div_iff_mul_le (twoTo_pos 52)).mpr h
  have hlarge : m / twoTo 52 ≠ 0 := by omega
  have hpos := twoTo_pos 52
  rw [exponentOf, significandOf, if_neg hlarge, if_neg hlarge]
  omega

/-! ## Decimal numbers -/

/-- An integer of 64 bits is rounded to a magnitude far below the bound. -/
theorem nearest_integer_le {n : Nat} (h : n < twoTo 64) : nearest n 1 0 ≤ 1089 * twoTo 52 := by
  by_cases hzero : n = 0
  · simp [hzero, nearest]
  · obtain ⟨e, r, heq, hr, -, he⟩ := exists_nearest_eq hzero Nat.one_ne_zero 0
    have hlog : n.log2 < 64 := (Nat.log2_lt hzero).mpr h
    have hone : Nat.log2 1 = 0 := rfl
    have hexponent : (e + 1074).toNat ≤ 1085 := by omega
    calc nearest n 1 0 = (e + 1074).toNat * twoTo 52 + r := heq
      _ ≤ 1085 * twoTo 52 + 4 * twoTo 52 :=
          Nat.add_le_add (Nat.mul_le_mul_right _ hexponent) hr
      _ = 1089 * twoTo 52 := (Nat.add_mul _ _ _).symm

/-- Powers of ten are rounded to magnitudes of about one at least. -/
theorem le_tenTo (k : Nat) : 1021 * twoTo 52 ≤ tenTo k := by
  have hzero : Nat.pow 10 k ≠ 0 := Nat.ne_of_gt (Nat.pow_pos (by decide))
  obtain ⟨e, r, heq, -, he, -⟩ := exists_nearest_eq hzero Nat.one_ne_zero 0
  have hone : Nat.log2 1 = 0 := rfl
  rw [tenTo, heq]
  have hexponent : 1021 ≤ (e + 1074).toNat := by omega
  have := Nat.mul_le_mul_right (twoTo 52) hexponent
  omega

/-- A quotient by a power of ten is hardly larger than what was divided. -/
theorem dividedBy_le (ha : a ≤ k * twoTo 52) (hk : 1 ≤ k) (hb : 1021 * twoTo 52 ≤ b) :
    dividedBy a b ≤ (k + 57) * twoTo 52 := by
  unfold dividedBy
  by_cases hzero : significandOf a = 0
  · simp [hzero, nearest]
  · have hexp := exponentOf_le ha hk
    obtain ⟨hexp', hnonzero⟩ := le_exponentOf hb (by decide)
    obtain ⟨e, r, heq, hr, -, he⟩ := exists_nearest_eq hzero hnonzero (exponentOf a - exponentOf b)
    have hlog := log2_significandOf_le a
    have hexponent : (e + 1074).toNat ≤ k + 53 := by omega
    calc nearest _ _ _ = (e + 1074).toNat * twoTo 52 + r := heq
      _ ≤ (k + 53) * twoTo 52 + 4 * twoTo 52 :=
          Nat.add_le_add (Nat.mul_le_mul_right _ hexponent) hr
      _ = (k + 57) * twoTo 52 := (Nat.add_mul _ _ _).symm

theorem isFiniteMagnitude_of_le (h : m ≤ k * twoTo 52) (hk : k < 2047) :
    isFiniteMagnitude m = true := by
  have hpos := twoTo_pos 52
  have := Nat.mul_lt_mul_of_pos_right hk hpos
  rw [isFiniteMagnitude, decide_eq_true_eq]
  omega

/-- What is read from a significand of 64 bits and any power of ten is finite. -/
theorem isFiniteMagnitude_of_scaleByTen {n : Nat} (hn : n < twoTo 64)
    (h : scaleByTen n e = some m) : isFiniteMagnitude m = true := by
  have hinteger := nearest_integer_le hn
  have hquotient : ∀ k, dividedBy (nearest n 1 0) (tenTo k) ≤ 1146 * twoTo 52 := fun k =>
    dividedBy_le hinteger (by decide) (le_tenTo k)
  simp only [scaleByTen] at h
  split at h
  · split at h
    · cases h
      rfl
    · cases h
  · split at h
    · exact (Option.filter_eq_some_iff.mp h).2
    · split at h
      · cases h
        exact isFiniteMagnitude_of_le (hquotient _) (by decide)
      · split at h
        · cases h
          exact isFiniteMagnitude_of_le (dividedBy_le (hquotient _) (by decide) (le_tenTo _))
            (by decide)
        · cases h
          rfl

theorem toNat_bits_ofMagnitude (negative : Bool) (h : m < twoTo 63) :
    (ofMagnitude negative m).bits.toNat = if negative then m + twoTo 63 else m := by
  have hwidth : 2 ^ 64 = twoTo 63 + twoTo 63 := by decide
  rw [ofMagnitude, UInt64.toNat_ofNat', hwidth]
  refine Nat.mod_eq_of_lt ?_
  split <;> omega

/-- A magnitude can be read off from the double that is made of it. -/
theorem magnitude_ofMagnitude (negative : Bool) (h : m < twoTo 63) :
    (ofMagnitude negative m).magnitude = m := by
  rw [magnitude, toNat_bits_ofMagnitude negative h]
  cases negative with
  | false => exact Nat.mod_eq_of_lt h
  | true => exact (Nat.add_mod_right _ _).trans (Nat.mod_eq_of_lt h)

/-- So can the sign. -/
theorem isNegative_ofMagnitude (negative : Bool) (h : m < twoTo 63) :
    (ofMagnitude negative m).isNegative = negative := by
  rw [isNegative, toNat_bits_ofMagnitude negative h]
  cases negative with
  | false => exact decide_eq_false (Nat.not_le.mpr h)
  | true => exact decide_eq_true (Nat.le_add_left _ _)

theorem isFinite_ofMagnitude (negative : Bool) (h : isFiniteMagnitude m = true) :
    (ofMagnitude negative m).isFinite = true := by
  have hlt : m < 2047 * twoTo 52 := of_decide_eq_true h
  have hbound : 2047 * twoTo 52 < twoTo 63 := by decide
  rw [isFinite, magnitude_ofMagnitude negative (by omega), h]

theorem isFinite_of_ofDecimal? {negative : Bool} {n : Nat} {x : Double} (hn : n < twoTo 64)
    (h : ofDecimal? negative n e = some x) : x.isFinite = true := by
  obtain ⟨m, hm, rfl⟩ := Option.map_eq_some_iff.mp h
  exact isFinite_ofMagnitude negative (isFiniteMagnitude_of_scaleByTen hn hm)

end Double

/-! ## Documents -/

/-- The number is no infinity and no other double that is not finite. -/
def Number.Finite : Number → Prop
  | integer _ => True
  | double x => x.isFinite = true

/-- All numbers in the document are finite. -/
inductive Document.Finite : Document → Prop where
  | null : Finite null
  | bool (b : Bool) : Finite (bool b)
  | number {n : Number} (h : n.Finite) : Finite (number n)
  | string (s : String) : Finite (string s)
  | array {items : List Document} (h : ∀ doc ∈ items, Finite doc) : Finite (array items)
  | object {members : List (Option String × Document)} (h : ∀ m ∈ members, Finite m.2) :
      Finite (object members)
  | unusable : Finite unusable

namespace Document

theorem extendSignificand_lt {ds : List Char} {n : Nat} (h : n < Double.twoTo 64) :
    (extendSignificand n ds).1 < Double.twoTo 64 := by
  induction ds generalizing n with
  | nil => exact h
  | cons d ds ih =>
    simp only [extendSignificand]
    split
    · rename_i hle
      exact ih (Nat.lt_succ_of_le hle)
    · exact h

/-- A number that is written has a finite value if it has any. -/
theorem NumberText.finite_of_value? {t : NumberText} {n : Number} (h : t.value? = some n) :
    n.Finite := by
  have hwhole : (extendSignificand 0 t.whole).1 < Double.twoTo 64 :=
    extendSignificand_lt (Double.twoTo_pos 64)
  simp only [value?] at h
  split at h
  · split at h
    · cases h
      trivial
    · split at h
      · cases h
        trivial
      · obtain ⟨x, hx, rfl⟩ := Option.map_eq_some_iff.mp h
        exact Double.isFinite_of_ofDecimal? hwhole hx
  · obtain ⟨x, hx, rfl⟩ := Option.map_eq_some_iff.mp h
    exact Double.isFinite_of_ofDecimal? (extendSignificand_lt hwhole) hx

mutual

/-- The value at the beginning of a text has finite numbers only: the induction is on the number of
steps that reading may take. -/
theorem finite_of_readValue {n : Nat} {cs rest : List Char} {doc : Document}
    (h : readValue n cs = some (doc, rest)) : doc.Finite := by
  cases n with
  | zero => cases h
  | succ n =>
    unfold readValue at h
    split at h
    · split at h
      · cases h
        exact .object nofun
      · obtain ⟨⟨members, rest'⟩, hread, heq⟩ := Option.map_eq_some_iff.mp h
        cases heq
        exact .object (finite_of_readMembers hread)
    · split at h
      · cases h
        exact .array nofun
      · obtain ⟨⟨items, rest'⟩, hread, heq⟩ := Option.map_eq_some_iff.mp h
        cases heq
        exact .array (finite_of_readItems hread)
    · obtain ⟨⟨ps, rest'⟩, -, heq⟩ := Option.map_eq_some_iff.mp h
      cases hs : joinPieces ps with
      | none =>
        simp only [hs, Option.map_none, Option.getD_none] at heq
        cases heq
        exact .unusable
      | some s =>
        simp only [hs, Option.map_some, Option.getD_some] at heq
        cases heq
        exact .string _
    · cases h
      exact .null
    · cases h
      exact .bool true
    · cases h
      exact .bool false
    · obtain ⟨⟨t, rest'⟩, -, heq⟩ := Option.map_eq_some_iff.mp h
      cases hv : t.value? with
      | none =>
        simp only [hv, Option.map_none, Option.getD_none] at heq
        cases heq
        exact .unusable
      | some m =>
        simp only [hv, Option.map_some, Option.getD_some] at heq
        cases heq
        exact .number (t.finite_of_value? hv)

theorem finite_of_readItems {n : Nat} {cs rest : List Char} {items : List Document}
    (h : readItems n cs = some (items, rest)) : ∀ doc ∈ items, doc.Finite := by
  cases n with
  | zero => cases h
  | succ n =>
    unfold readItems at h
    obtain ⟨⟨item, rest'⟩, hitem, h⟩ := Option.bind_eq_some_iff.mp h
    have hfirst := finite_of_readValue hitem
    simp only at h
    split at h
    · obtain ⟨⟨items', rest''⟩, hitems, heq⟩ := Option.bind_eq_some_iff.mp h
      cases heq
      exact List.forall_mem_cons.mpr ⟨hfirst, finite_of_readItems hitems⟩
    · cases h
      exact List.forall_mem_singleton.mpr hfirst
    · cases h

theorem finite_of_readMembers {n : Nat} {cs rest : List Char}
    {members : List (Option String × Document)} (h : readMembers n cs = some (members, rest)) :
    ∀ m ∈ members, m.2.Finite := by
  cases n with
  | zero => cases h
  | succ n =>
    unfold readMembers at h
    split at h
    · obtain ⟨⟨ps, rest'⟩, -, h⟩ := Option.bind_eq_some_iff.mp h
      simp only at h
      split at h
      · obtain ⟨⟨value, rest''⟩, hvalue, h⟩ := Option.bind_eq_some_iff.mp h
        have hfirst := finite_of_readValue hvalue
        simp only at h
        split at h
        · obtain ⟨⟨members', rest'''⟩, hmembers, heq⟩ := Option.bind_eq_some_iff.mp h
          cases heq
          exact List.forall_mem_cons.mpr ⟨hfirst, finite_of_readMembers hmembers⟩
        · cases h
          exact List.forall_mem_singleton.mpr hfirst
        · cases h
      · cases h
    · cases h

end

/-- All numbers in a document that is read from a text are finite. -/
theorem finite_of_read {text : String} {doc : Document} (h : read text = some doc) :
    doc.Finite := by
  simp only [read] at h
  split at h
  · rename_i root rest hread
    split at h
    · cases h
      exact finite_of_readValue hread
    · cases h
  · cases h

end Document

end CommandRouter
