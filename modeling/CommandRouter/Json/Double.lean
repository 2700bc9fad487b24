/-!
# Double-precision numbers

A double is kept as its 64 bits. A finite one has the value `± significand · 2 ^ exponent`, with a
significand below `2 ^ 53` and an exponent of at least `-1074`; everything here is said of these two
integers, in exact arithmetic.

The *magnitude* of a double is its bits without the sign. Magnitudes are ordered like the values
they stand for, and the magnitude next to `m` is `m + 1`; so rounding a quotient to the nearest
double is rounding a scaled quotient to the nearest integer.
-/

namespace CommandRouter

/-- A double-precision number, given by its bits. -/
structure Double where
  /-- The bits: a sign, eleven of exponent and fifty-two of fraction. -/
  bits : UInt64
  deriving DecidableEq

namespace Double

/-- A power of two. -/
def twoTo (k : Nat) : Nat := Nat.pow 2 k

/-! ## Magnitudes -/

/-- The significand of a magnitude. -/
def significandOf (m : Nat) : Nat :=
  if m / twoTo 52 = 0 then m else m % twoTo 52 + twoTo 52

/-- The exponent of a magnitude. -/
def exponentOf (m : Nat) : Int :=
  if m / twoTo 52 = 0 then -1074 else (m / twoTo 52 : Nat) - 1075

/-- Whether a magnitude stands for a finite number. -/
def isFiniteMagnitude (m : Nat) : Bool := decide (m < 2047 * twoTo 52)

/-- The integer nearest to a quotient; of two that are equally near, the even one. -/
def roundQuotient (num den : Nat) : Nat :=
  let q := num / den
  let r := num % den
  if 2 * r < den then q else if den < 2 * r then q + 1 else q + q % 2

/-- The numerator and denominator of `num / den * 2 ^ scale`. -/
def scaleQuotient (num den : Nat) (scale : Int) : Nat × Nat :=
  (num * twoTo scale.toNat, den * twoTo (-scale).toNat)

/-- The magnitude nearest to `num / den * 2 ^ scale`. -/
def nearest (num den : Nat) (scale : Int) : Nat :=
  if num = 0 then 0
  else
    let guess : Int := (num.log2 : Int) - den.log2 + scale - 52
    let (n, d) := scaleQuotient num den (scale - guess)
    let exponent : Int := max (-1074) (if n < twoTo 52 * d then guess - 1 else guess)
    let (n, d) := scaleQuotient num den (scale - exponent)
    (exponent + 1074).toNat * twoTo 52 + roundQuotient n d

/-- The product of two magnitudes. -/
def times (a b : Nat) : Nat :=
  nearest (significandOf a * significandOf b) 1 (exponentOf a + exponentOf b)

/-- The quotient of two magnitudes. -/
def dividedBy (a b : Nat) : Nat :=
  nearest (significandOf a) (significandOf b) (exponentOf a - exponentOf b)

/-- The magnitude nearest to a power of ten. -/
def tenTo (k : Nat) : Nat := nearest (Nat.pow 10 k) 1 0

/-- The magnitude read from `significand · 10 ^ exponent`: the significand is rounded, then
multiplied or divided by rounded powers of ten up to `10 ^ 308`. There is none if it is not
finite. -/
def scaleByTen (significand : Nat) (exponent : Int) : Option Nat :=
  let m := nearest significand 1 0
  if 308 < exponent then if m = 0 then some 0 else none
  else if 0 ≤ exponent then some (times m (tenTo exponent.toNat)) |>.filter isFiniteMagnitude
  else if -308 ≤ exponent then some (dividedBy m (tenTo (-exponent).toNat))
  else if -616 ≤ exponent then
    some (dividedBy (dividedBy m (tenTo 308)) (tenTo (-exponent - 308).toNat))
  else some 0

/-! ## Doubles -/

/-- The double of a magnitude and a sign. -/
def ofMagnitude (negative : Bool) (m : Nat) : Double :=
  ⟨.ofNat (if negative then m + twoTo 63 else m)⟩

/-- The double read from a sign, a decimal significand and a power of ten. -/
def ofDecimal? (negative : Bool) (significand : Nat) (exponent : Int) : Option Double :=
  (scaleByTen significand exponent).map (ofMagnitude negative)

/-- Whether the sign bit is set. -/
def isNegative (x : Double) : Bool := decide (twoTo 63 ≤ x.bits.toNat)

/-- The bits without the sign. -/
def magnitude (x : Double) : Nat := x.bits.toNat % twoTo 63

/-- Whether the number is finite. -/
def isFinite (x : Double) : Bool := isFiniteMagnitude x.magnitude

/-- The significand, without the sign. -/
def significand (x : Double) : Nat := significandOf x.magnitude

/-- The exponent. -/
def exponent (x : Double) : Int := exponentOf x.magnitude

/-! ## Order -/

/-- Whether the bits stand for no number. -/
def isNaN (x : Double) : Bool := decide (2047 * twoTo 52 < x.magnitude)

/-- The place of a number among all doubles; the two zeros have the same one. -/
def rank (x : Double) : Int := if x.isNegative then -x.magnitude else x.magnitude

/-- Whether both are numbers and the first is at most the second. -/
def le (x y : Double) : Bool := !x.isNaN && !y.isNaN && decide (x.rank ≤ y.rank)

/-- Whether both are numbers and the first is less than the second. -/
def lt (x y : Double) : Bool := !x.isNaN && !y.isNaN && decide (x.rank < y.rank)

/-! ## Integers -/

/-- The double nearest to an integer. -/
def ofInteger (n : Int) : Double := ofMagnitude (decide (n < 0)) (nearest n.natAbs 1 0)

/-- Whether the number is finite and has no fraction. -/
def isWhole (x : Double) : Bool := x.isFinite && x.significand % twoTo (-x.exponent).toNat == 0

/-- Whether the number lies between the doubles nearest to the bounds of the signed 64-bit words.
The upper bound is rounded up, to an integer that fits no such word, and is left out. -/
def inSignedRange (x : Double) : Bool :=
  le (ofInteger (-9223372036854775808)) x && lt x (ofInteger 9223372036854775807)

/-- The number without its fraction. -/
def truncate (x : Double) : Int :=
  let n : Int := (x.significand * twoTo x.exponent.toNat / twoTo (-x.exponent).toNat : Nat)
  if x.isNegative then -n else n

/-- The number without its fraction, as the nearest integer that fits a signed 64-bit word; zero if
it is no number. -/
def toSigned (x : Double) : Int :=
  if x.isNaN then 0 else max (-9223372036854775808) (min 9223372036854775807 x.truncate)

/-! ## Notation -/

/-- The bits as sixteen hexadecimal digits. -/
def hex (x : Double) : String :=
  let ds := Nat.toDigits 16 x.bits.toNat
  .ofList (List.replicate (16 - ds.length) '0' ++ ds)

/-- The value in full, in positional decimal notation. -/
def decimal (x : Double) : List Char :=
  let places := (-x.exponent).toNat
  let scaled := x.significand * twoTo x.exponent.toNat * Nat.pow 5 places
  let ds := Nat.toDigits 10 scaled
  let ds := List.replicate (places + 1 - ds.length) '0' ++ ds
  let (whole, fraction) := ds.splitAt (ds.length - places)
  (if x.isNegative then ['-'] else []) ++ whole ++
    '.' :: (if fraction.isEmpty then ['0'] else fraction)

end Double

end CommandRouter
