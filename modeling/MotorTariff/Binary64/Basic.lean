import MotorTariff.Rounding

/-!
Binary floating point with 53 significant bits and a smallest unit of `2 ^ -1074`. Every value
is a whole number of those units, so each operation is an exact computation on natural numbers
followed by one rounding, half to even. Magnitudes from `2 ^ 1024` on stand for infinity.
-/

set_option autoImplicit false

namespace MotorTariff

-- Powers are the core library's own, also where other libraries define some.
attribute [local instance (high)] instPowNat

structure Binary64 where
  negative : Bool
  units : Nat
  deriving DecidableEq, Repr

namespace Binary64

def unitsPerOne : Nat := 2 ^ (1074 : Nat)

/-- The magnitude nearest to `numerator / denominator` units: whole units as long as 53 bits
hold them, then multiples of the power of two that leaves 53 bits. -/
def roundUnits (numerator denominator : Nat) : Nat :=
  let exponent := (numerator / denominator).log2 - 52
  roundDiv .toEven numerator (denominator * 2 ^ exponent) * 2 ^ exponent

def isZero (x : Binary64) : Bool := x.units == 0

def isInfinite (x : Binary64) : Bool := decide (2 ^ (1024 : Nat) * unitsPerOne ≤ x.units)

def neg (x : Binary64) : Binary64 := { x with negative := !x.negative }

def withSign (negative : Bool) (x : Binary64) : Binary64 := { x with negative }

def ofNat (n : Nat) : Binary64 := ⟨false, roundUnits (n * unitsPerOne) 1⟩

def addMagnitudes (x y : Binary64) : Binary64 := ⟨false, roundUnits (x.units + y.units) 1⟩

def mul (x y : Binary64) : Binary64 :=
  ⟨x.negative != y.negative, roundUnits (x.units * y.units) unitsPerOne⟩

def div (x y : Binary64) : Binary64 :=
  ⟨x.negative != y.negative, roundUnits (x.units * unitsPerOne) y.units⟩

def roundToInteger (x : Binary64) : Binary64 :=
  { x with units := roundUnits (roundDiv .awayFromZero x.units unitsPerOne * unitsPerOne) 1 }

/-- The power with a natural exponent, by squaring; `fuel` bounds the bits of the exponent. -/
def powerFrom (result base : Binary64) (exponent : Nat) : Nat → Binary64
  | 0 => result
  | fuel + 1 =>
      let result := if exponent % 2 = 1 then result.mul base else result
      if exponent / 2 = 0 then result
      else powerFrom result (base.mul base) (exponent / 2) fuel

def power (base : Binary64) (exponent : Nat) : Binary64 :=
  powerFrom (ofNat 1) base exponent (exponent + 1)

end Binary64

end MotorTariff
