/-!
Decimal digits: the digit a character stands for, the number that digits spell, and a number
written with a fixed count of digits.
-/

set_option autoImplicit false

namespace MotorTariff.Digits

def value? (c : Char) : Option Nat :=
  if c.isDigit then some (c.toNat - 48) else none

/-- The number that a text of digits spells; there is at least one digit. -/
def natural? (chars : List Char) : Option Nat :=
  if chars = [] then none
  else chars.foldlM (fun number c => (value? c).map (number * 10 + ·)) 0

def plusNatural? : List Char → Option Nat
  | '+' :: digits => natural? digits
  | digits => natural? digits

/-- The last `count` digits of a number, leading zeros included. -/
def fixed : Nat → Nat → List Char
  | 0, _ => []
  | count + 1, n => fixed count (n / 10) ++ [Nat.digitChar (n % 10)]

@[simp] theorem length_fixed (count n : Nat) : (fixed count n).length = count := by
  induction count generalizing n with
  | zero => rfl
  | succ count induction => simp [fixed, induction]

end MotorTariff.Digits
