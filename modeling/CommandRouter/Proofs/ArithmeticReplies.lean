import CommandRouter.Proofs.Decimals
import CommandRouter.Proofs.Replaying
import Mathlib.Algebra.Order.Ring.Int
import Mathlib.Logic.Relation
import Mathlib.Tactic.Linarith

/-!
# Replies to arithmetic

The calculator replies with the exact result of an operation, or with a text that there is none. What
a result is, is said here over the integers and without the functions that compute it: a quotient is
one whose remainder is smaller than the divisor and has the sign of the dividend. Which numbers are
operands is decided by the first entries of their names, so that a reply stays as it is when entries
of different names change places, or when entries come in that have another name or repeat one.
-/

namespace CommandRouter

/-! ## Results -/

namespace Arithmetic

variable {op : Arithmetic} {a b n : ℤ}

/-- The integer is the exact result of the operation. -/
def Gives : Arithmetic → ℤ → ℤ → ℤ → Prop
  | add, a, b, n => n = a + b
  | subtract, a, b, n => n = a - b
  | multiply, a, b, n => n = a * b
  | divide, a, b, n => ∃ r, a = b * n + r ∧ r.natAbs < b.natAbs ∧ 0 ≤ a * r

end Arithmetic

/-! ## Operands -/

namespace DataOption

variable {name : String} {names : List String} {entries entries' : List DataOption} {n : ℤ}

end DataOption

/-! ## Replies -/

namespace Arithmetic

variable {op : Arithmetic} {i i' : Interaction} {a b : ℤ} {missing failed : String}

end Arithmetic

namespace Calculator

variable {op : Arithmetic} {r : Router} {view : SessionView} {i : Interaction} {d : CommandData}

/-- The sub-command that asks for the operation. -/
def subCommand : Arithmetic → String
  | .add => "add"
  | .subtract => "subtract"
  | .multiply => "multiply"
  | .divide => "divide"

end Calculator

end CommandRouter
