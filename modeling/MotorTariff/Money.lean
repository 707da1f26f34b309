import MotorTariff.Decimal.Text
import MotorTariff.Outcome

/-!
Amounts of money. An amount is kept to four fraction digits and shown to two. Arithmetic that
does not fit says which operation overflowed.
-/

set_option autoImplicit false

namespace MotorTariff

inductive Overflow where
  | moneyAddition
  | moneySubtraction
  | decimalAddition
  | decimalSubtraction
  | decimalMultiplication
  deriving DecidableEq, Repr

namespace Overflow

def message : Overflow → String
  | moneyAddition => "Overflow in Money::add: Overflow"
  | moneySubtraction => "Overflow in Money::sub: Overflow"
  | decimalAddition => "Addition overflowed"
  | decimalSubtraction => "Subtraction overflowed"
  | decimalMultiplication => "Multiplication overflowed"

/-- A result that has to fit; `cause` is reported when it does not. -/
def require {Value : Type} (cause : Overflow) : Option Value → Except Overflow Value
  | some value => .ok value
  | none => .error cause

end Overflow

structure Money where
  amount : Decimal
  deriving DecidableEq

namespace Money

/-- Fraction digits that an amount keeps. -/
def keptPlaces : Nat := 4

/-- Fraction digits that an amount shows. -/
def shownPlaces : Nat := 2

/-- Rounds to the kept places, half to even. -/
def ofDecimal (amount : Decimal) : Money := ⟨amount.round .toEven keptPlaces⟩

def whole (n : BitVec 96) : Money := ofDecimal (.whole n)

def zero : Money := ⟨.zero⟩

instance : Inhabited Money := ⟨zero⟩

def isZero (money : Money) : Bool := money.amount.isZero

def isPositive (money : Money) : Bool := money.amount.isPositive

def isNegative (money : Money) : Bool := money.amount.isNegative

/-- Rounds to the shown places, half away from zero. -/
def roundToCents (money : Money) : Money := ⟨money.amount.round .awayFromZero shownPlaces⟩

def add? (left right : Money) : Option Money := (left.amount.add? right.amount).map ofDecimal

def sub? (left right : Money) : Option Money := (left.amount.sub? right.amount).map ofDecimal

def add (left right : Money) : Except Overflow Money :=
  Overflow.require .moneyAddition (left.add? right)

def sub (left right : Money) : Except Overflow Money :=
  Overflow.require .moneySubtraction (left.sub? right)

def neg (money : Money) : Money := ofDecimal money.amount.neg

def multiply (money : Money) (factor : Decimal) : Except Overflow Money :=
  (Overflow.require .decimalMultiplication (money.amount.mul? factor)).map ofDecimal

def sum (amounts : List Money) : Except Overflow Money := amounts.foldlM add zero

def compare (left right : Money) : Ordering := left.amount.compare right.amount

/-- Whether two amounts are equal, however they are written. -/
def sameAmount (left right : Money) : Bool := left.amount.sameAmount right.amount

/-- A dollar sign and the amount in dollars and cents; a minus sign follows the dollar sign. -/
def display (money : Money) : String :=
  String.ofList ('$' :: money.roundToCents.amount.charsWithPlaces shownPlaces)

theorem scale_ofDecimal_le (amount : Decimal) : (ofDecimal amount).amount.scale ≤ keptPlaces :=
  Decimal.scale_round_le ..

theorem ofDecimal_of_scale_le {amount : Decimal} (within : amount.scale ≤ keptPlaces) :
    ofDecimal amount = ⟨amount⟩ := by
  rw [ofDecimal, Decimal.round_of_scale_le _ within]

end Money

end MotorTariff
