import MotorTariff.Binary64.Basic

/-!
The shortest decimal digits that read back to the same double. Decimal grids are tried from one
significant digit on; the first that meets the interval of numbers rounding to the value wins,
and of its two neighbours of the value the nearer one is taken.
-/

set_option autoImplicit false

namespace MotorTariff.Binary64

-- Powers are the core library's own, also where other libraries define some.
attribute [local instance (high)] instPowNat

/-- The number `digits * 10 ^ exponent`. -/
structure Shortest where
  digits : Nat
  exponent : Int
  deriving DecidableEq, Repr

/-- The numbers that round to a positive value, in quarters of a unit. -/
structure Interval where
  lower : Nat
  value : Nat
  upper : Nat
  closed : Bool

/-- Halfway to the neighbouring doubles; below a power of two the neighbour is nearer. -/
def interval (units : Nat) : Interval :=
  let exponent := units.log2 - 52
  let gap := 2 ^ exponent
  let significand := units / gap
  let gapBelow := if significand = 2 ^ (52 : Nat) ∧ 0 < exponent then gap / 2 else gap
  { lower := 4 * units - 2 * gapBelow
    value := 4 * units
    upper := 4 * units + 2 * gap
    closed := significand % 2 = 0 }

namespace Interval

/-- The point `digits * 10 ^ exponent` and a number of quarters, over one denominator. -/
def scaled (digits : Nat) (exponent : Int) (quarters : Nat) : Nat × Nat :=
  (digits * 10 ^ exponent.toNat * (4 * unitsPerOne), quarters * 10 ^ (-exponent).toNat)

def contains (range : Interval) (digits : Nat) (exponent : Int) : Bool :=
  let (point, lower) := scaled digits exponent range.lower
  let (_, upper) := scaled digits exponent range.upper
  if range.closed then decide (lower ≤ point ∧ point ≤ upper)
  else decide (lower < point ∧ point < upper)

end Interval

/-- Which neighbour an exact tie between two shortest candidates takes. -/
inductive Preference where
  | evenDigit
  | larger
  deriving DecidableEq, Repr

def gridChoice (prefer : Preference) (range : Interval) (exponent : Int) : Option Nat :=
  let (step, value) := Interval.scaled 1 exponent range.value
  let below := value / step
  let above := below + 1
  match range.contains below exponent && below != 0, range.contains above exponent with
  | false, false => none
  | true, false => some below
  | false, true => some above
  | true, true =>
      let twice := 2 * (value % step)
      if twice < step then some below
      else if step < twice then some above
      else match prefer with
        | .evenDigit => some (below + below % 2)
        | .larger => some above

def leadingExponent (units : Nat) (candidate : Int) : Nat → Int
  | 0 => candidate
  | fuel + 1 =>
      let (power, value) := Interval.scaled 1 (candidate + 1) (4 * units)
      if power ≤ value then leadingExponent units (candidate + 1) fuel else candidate

/-- A power of ten at most the value and within two digits of it. -/
def leadingGuess (units : Nat) : Int :=
  ((units.log2 : Int) - 1074) * 30103 / 100000 - 1

def shortestFrom (prefer : Preference) (range : Interval) (leading : Int) (digits : Nat) :
    Nat → Shortest
  | 0 => ⟨0, 0⟩
  | fuel + 1 =>
      let exponent := leading - digits
      match gridChoice prefer range exponent with
      | some point => ⟨point, exponent⟩
      | none => shortestFrom prefer range leading (digits + 1) fuel

def Shortest.trim (found : Shortest) : Nat → Shortest
  | 0 => found
  | fuel + 1 =>
      if found.digits % 10 = 0 ∧ found.digits ≠ 0 then
        Shortest.trim ⟨found.digits / 10, found.exponent + 1⟩ fuel
      else found

/-- The shortest digits of a positive finite magnitude; zero has the digit zero. -/
def shortest (prefer : Preference) (x : Binary64) : Shortest :=
  if x.isZero then ⟨0, 0⟩
  else
    let leading := leadingExponent x.units (leadingGuess x.units) 4
    (shortestFrom prefer (interval x.units) leading 0 17).trim 17

end MotorTariff.Binary64
