import MotorTariff.Rounding

/-!
Signed decimals with a bounded mantissa. A decimal keeps the number of its fraction digits, so
equal amounts may be written differently; comparison looks at the amount alone. An exact result
that does not fit loses as few fraction digits as possible, by one rounding.
-/

set_option autoImplicit false

namespace MotorTariff

-- Powers are the core library's own, also where other libraries define some.
attribute [local instance (high)] instPowNat

/-- The amount `mantissa / 10 ^ scale`, with a sign that a zero may carry too. -/
structure Decimal where
  negative : Bool
  mantissa : Nat
  scale : Nat
  mantissa_lt : mantissa < 2 ^ (96 : Nat)
  scale_le : scale ≤ 28
  deriving DecidableEq

namespace Decimal

/-- The amount `mantissa / 10 ^ scale` with its sign; a scale past 28 counts as 28. -/
def literal (negative : Bool) (mantissa : BitVec 96) (scale : Nat) : Decimal :=
  { negative
    mantissa := mantissa.toNat
    scale := min scale 28
    mantissa_lt := mantissa.isLt
    scale_le := Nat.min_le_right scale 28 }

def whole (n : BitVec 96) : Decimal := literal false n 0

def zero : Decimal := whole 0

def one : Decimal := whole 1

instance : Inhabited Decimal := ⟨zero⟩

/-- A decimal from its parts, if they fit. A zero gets no sign. -/
def ofParts? (negative : Bool) (mantissa scale : Nat) : Option Decimal :=
  if fits : mantissa < 2 ^ (96 : Nat) ∧ scale ≤ 28 then
    some
      { negative := negative && mantissa != 0
        mantissa
        scale
        mantissa_lt := fits.1
        scale_le := fits.2 }
  else none

def isZero (amount : Decimal) : Bool := amount.mantissa == 0

def isPositive (amount : Decimal) : Bool := !amount.negative && !amount.isZero

def isNegative (amount : Decimal) : Bool := amount.negative && !amount.isZero

def signed (amount : Decimal) : Int :=
  if amount.negative then -(amount.mantissa : Int) else amount.mantissa

/-- The signed mantissa that the amount has with `scale` fraction digits, no fewer than its own. -/
def signedAt (amount : Decimal) (scale : Nat) : Int :=
  amount.signed * 10 ^ (scale - amount.scale)

/-- Tries the result scales from the given one downwards and takes the first that fits. -/
def fitFrom (negative : Bool) (mantissa scale : Nat) : Nat → Option Decimal
  | 0 => ofParts? negative (roundDiv .toEven mantissa (10 ^ scale)) 0
  | kept + 1 =>
      match ofParts? negative (roundDiv .toEven mantissa (10 ^ (scale - (kept + 1)))) (kept + 1) with
      | some amount => some amount
      | none => fitFrom negative mantissa scale kept

/-- The decimal nearest to `mantissa / 10 ^ scale` with as many of its fraction digits as fit. -/
def fit (negative : Bool) (mantissa scale : Nat) : Option Decimal :=
  fitFrom negative mantissa scale (min scale 28)

def fitSigned (signed : Int) (scale : Nat) : Option Decimal :=
  fit (decide (signed < 0)) signed.natAbs scale

def neg (amount : Decimal) : Decimal := { amount with negative := !amount.negative }

/-- Adding a zero gives the other operand as it is written. -/
def add? (left right : Decimal) : Option Decimal :=
  if left.isZero then some right
  else if right.isZero then some left
  else
    let scale := max left.scale right.scale
    fitSigned (left.signedAt scale + right.signedAt scale) scale

def sub? (left right : Decimal) : Option Decimal :=
  if left.isZero then some (if right.isZero then right else right.neg)
  else if right.isZero then some left
  else
    let scale := max left.scale right.scale
    fitSigned (left.signedAt scale - right.signedAt scale) scale

def withSign (negative : Bool) (amount : Decimal) : Decimal := { amount with negative }

def shortBound : Nat := 2 ^ (32 : Nat)

/--
A product with a zero is the plain zero. A product of short mantissas that rounds to zero has no
sign, and is the plain zero if it has more than 47 fraction digits; every other product keeps the
sign of its factors, also when it rounds to zero.
-/
def mul? (left right : Decimal) : Option Decimal :=
  if left.isZero || right.isZero then some zero
  else
    let negative := left.negative != right.negative
    let product := fit negative (left.mantissa * right.mantissa) (left.scale + right.scale)
    if left.mantissa < shortBound ∧ right.mantissa < shortBound then
      if 47 < left.scale + right.scale then some zero else product
    else product.map (withSign negative)

/-- Rounds to at most `places` fraction digits. A zero keeps its sign, a zero result gets none. -/
def round (tie : Tie) (places : Nat) (amount : Decimal) : Decimal :=
  if within : amount.scale ≤ places then amount
  else
    let rounded := roundDiv tie amount.mantissa (10 ^ (amount.scale - places))
    { negative := amount.negative && (amount.isZero || rounded != 0)
      mantissa := rounded
      scale := places
      mantissa_lt := Nat.lt_of_le_of_lt
        (Rounding.roundDiv_le tie amount.mantissa (Nat.pow_pos (by decide))) amount.mantissa_lt
      scale_le := Nat.le_trans (Nat.le_of_not_le within) amount.scale_le }

def compare (left right : Decimal) : Ordering :=
  let scale := max left.scale right.scale
  Ord.compare (left.signedAt scale) (right.signedAt scale)

def sameAmount (left right : Decimal) : Bool := left.compare right == .eq

def toRat (amount : Decimal) : Rat := mkRat amount.signed (10 ^ amount.scale)

theorem round_of_scale_le (tie : Tie) {places : Nat} {amount : Decimal}
    (within : amount.scale ≤ places) : amount.round tie places = amount := by
  simp [round, within]

theorem scale_round_le (tie : Tie) (places : Nat) (amount : Decimal) :
    (amount.round tie places).scale ≤ places := by
  by_cases within : amount.scale ≤ places
  · rw [round_of_scale_le tie within]
    exact within
  · simp [round, within]

@[simp] theorem neg_neg (amount : Decimal) : amount.neg.neg = amount := by
  simp [neg]

end Decimal

end MotorTariff
