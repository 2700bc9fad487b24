import CommandRouter.Text.Scan

/-!
# Numbers in decimal

Integers are written without leading zeros and without a plus sign. They are read with an optional
sign and any number of leading zeros, from the digits `0` to `9` only; a reader for a machine range
refuses what lies outside of it. Of other numbers only the form is known.
-/

namespace CommandRouter.Decimal

/-- Whether an integer fits a signed 64-bit word. -/
def fitsSigned (n : Int) : Bool :=
  decide (-9223372036854775808 ≤ n) && decide (n ≤ 9223372036854775807)

/-- Whether an integer fits an unsigned 64-bit word. -/
def fitsUnsigned (n : Int) : Bool := decide (0 ≤ n) && decide (n ≤ 18446744073709551615)

/-- The digits of a natural number. -/
def digits (n : Nat) : List Char := Nat.toDigits 10 n

/-- An integer in decimal. -/
def render : Int → List Char
  | .ofNat n => digits n
  | .negSucc n => '-' :: digits (n + 1)

/-- An integer in decimal, as a string. -/
def text (n : Int) : String := String.ofList (render n)

/-- Reads a natural number from one or more digits. -/
def natural? (cs : List Char) : Option Nat :=
  if !cs.isEmpty && cs.all Char.isDigit then some (Nat.ofDigitChars 10 cs 0) else none

/-- Reads an integer from an optional sign and one or more digits. -/
def integer? : List Char → Option Int
  | '+' :: cs => (natural? cs).map Int.ofNat
  | '-' :: cs => (natural? cs).map fun n => -Int.ofNat n
  | cs => (natural? cs).map Int.ofNat

/-- Reads an integer that fits a signed 64-bit word. -/
def signed? (cs : List Char) : Option Int := (integer? cs).filter fitsSigned

/-- Reads an integer that fits an unsigned 64-bit word; it takes no minus sign, not even on zero. -/
def unsigned? : List Char → Option Int
  | '-' :: _ => none
  | cs => (integer? cs).filter fitsUnsigned

/-- Whether a text reads as a decimal number: digits with a point in, before or behind them, and an
exponent if need be. -/
def isReal (cs : List Char) : Bool :=
  (Text.Scan.all? (do
    Text.Scan.skipOptional (Text.Scan.charWhere fun c => c == '+' || c == '-')
    let whole ← Text.Scan.takeWhile Char.isDigit
    Text.Scan.skipOptional (Text.Scan.char '.')
    let fraction ← Text.Scan.takeWhile Char.isDigit
    if whole.isEmpty && fraction.isEmpty then failure
    Text.Scan.skipOptional (do
      let _ ← Text.Scan.charWhere fun c => c == 'e' || c == 'E'
      Text.Scan.skipOptional (Text.Scan.charWhere fun c => c == '+' || c == '-')
      let _ ← Text.Scan.takeSome Char.isDigit)) cs).isSome

/-! ## Laws -/

/-- Digits read back as the number that they write. -/
theorem natural?_digits (n : Nat) : natural? (digits n) = some n := by
  have hall : (Nat.toDigits 10 n).all Char.isDigit = true := by
    rw [List.all_eq_true]
    exact fun c hc => Nat.isDigit_of_mem_toDigits (by decide) (by decide) hc
  have hne : (Nat.toDigits 10 n).isEmpty = false := by
    simp [Nat.toDigits_ne_nil]
  simp [natural?, digits, hall, hne]

/-- A number is written with digits alone. -/
theorem isDigit_of_mem_digits {n : Nat} {c : Char} (h : c ∈ digits n) : c.isDigit = true :=
  Nat.isDigit_of_mem_toDigits (by decide) (by decide) h

end CommandRouter.Decimal
