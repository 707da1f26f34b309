import MotorTariff.Binary64.Shortest
import MotorTariff.Decimal.Text

/-!
Doubles as text, and the double that stands for a decimal. In documents a double is written in
positional notation for decimal exponents from -5 to 15, with at least one fraction digit, and
in scientific notation otherwise. The plain form has no exponent at all.
-/

set_option autoImplicit false

namespace MotorTariff

-- Powers are the core library's own, also where other libraries define some.
attribute [local instance (high)] instPowNat

namespace Binary64

def minus (x : Binary64) : List Char := if x.negative then ['-'] else []

def positional (digits : List Char) (exponent : Int) : List Char :=
  if 0 ≤ exponent then digits ++ List.replicate exponent.toNat '0'
  else
    let places := (-exponent).toNat
    if places < digits.length then
      digits.take (digits.length - places) ++ '.' :: digits.drop (digits.length - places)
    else '0' :: '.' :: (List.replicate (places - digits.length) '0' ++ digits)

/-- The form that documents use. -/
def chars (x : Binary64) : List Char :=
  let found := x.shortest .evenDigit
  let digits := Nat.toDigits 10 found.digits
  let leading := found.exponent + digits.length - 1
  minus x ++
    if -5 ≤ leading ∧ leading ≤ 15 then
      positional digits found.exponent ++ (if 0 ≤ found.exponent then ['.', '0'] else [])
    else
      positional digits (1 - (digits.length : Int)) ++
        'e' :: (if leading < 0 then '-' else '+') :: Nat.toDigits 10 leading.natAbs

def text (x : Binary64) : String := String.ofList x.chars

/-- The form without an exponent and without a fraction that is zero. -/
def plainChars (x : Binary64) : List Char :=
  let found := x.shortest .larger
  minus x ++ positional (Nat.toDigits 10 found.digits) found.exponent

end Binary64

/--
The double that stands for a decimal. A whole number is rounded once. Otherwise the integer and
the fraction are rounded apart and added, and the sum is rounded again to the decimal's scale,
which removes what the addition let in. A fraction of zero leaves the integer with its sign.
-/
def Decimal.toBinary64 (amount : Decimal) : Binary64 :=
  if amount.scale = 0 then
    (Binary64.ofNat amount.mantissa).withSign (amount.negative && !amount.isZero)
  else
    let precision := 10 ^ amount.scale
    let integer := Binary64.ofNat (amount.mantissa / precision)
    let fraction := (Binary64.ofNat (amount.mantissa % precision)).div (Binary64.ofNat precision)
    if fraction.isZero then integer.withSign amount.negative
    else
      let places := (Binary64.ofNat 10).power amount.scale
      let rounded := ((integer.addMagnitudes fraction).mul places).roundToInteger.div places
      rounded.withSign amount.negative

end MotorTariff
