import MotorTariff.Decimal.Basic
import MotorTariff.Text.Digits

/-!
Decimals as text. A decimal is written with exactly as many fraction digits as its scale, and
read back with that scale. Reading also accepts a point at either end, digit separators and a
power of ten after the number; fraction digits that cannot be kept are rounded away by the first
of them, and again by a power of ten that needs more fraction digits than there can be.
-/

set_option autoImplicit false

namespace MotorTariff.Decimal

-- Powers are the core library's own, also where other libraries define some.
attribute [local instance (high)] instPowNat

/-- An optional minus sign, at least one integer digit, and exactly `scale` fraction digits. -/
def layout (negative : Bool) (mantissa scale : Nat) : List Char :=
  (if negative then ['-'] else []) ++ Nat.toDigits 10 (mantissa / 10 ^ scale) ++
    (if scale = 0 then [] else '.' :: Digits.fixed scale (mantissa % 10 ^ scale))

def chars (amount : Decimal) : List Char :=
  layout amount.negative amount.mantissa amount.scale

def text (amount : Decimal) : String := String.ofList amount.chars

def charsWithPlaces (amount : Decimal) (places : Nat) : List Char :=
  layout amount.negative (amount.mantissa * 10 ^ (places - amount.scale)) places

namespace Reading

def isSeparator (c : Char) : Bool := c == '_'

/--
A mantissa is brief while it still fits a 64-bit word with room for a further digit, judged by
the digits before its last one.
-/
def brief (mantissa : Nat) : Bool := mantissa / 10 < (2 ^ (64 : Nat) - 1) / 10 - 255

/--
The digit that decides how a number is rounded whose further fraction digits cannot be kept:
the first of those digits, or zero if a separator comes first and the mantissa is brief.
Nothing but digits and separators may stand there.
-/
def deciding? (mantissa : Nat) (further : List Char) : Option Nat := do
  let digits ← (further.filter (!isSeparator ·)).mapM Digits.value?
  if brief mantissa && further.head?.any isSeparator then some 0 else some (digits.headD 0)

/--
Settles a number whose further fraction digits cannot be kept. A carry out of the mantissa gives
up one more fraction digit.
-/
def settle (mantissa places : Nat) (further : List Char) : Option (Nat × Nat) := do
  if (← deciding? mantissa further) < 5 then some (mantissa, places)
  else if mantissa + 1 < 2 ^ (96 : Nat) then some (mantissa + 1, places)
  else match places with
    | 0 => none
    | places + 1 => some ((mantissa + 1 + 4) / 10, places)

/--
Reads the digits of a number without its sign: `point` holds the fraction digits so far, once
the point has been read. The result is the mantissa and the scale.
-/
def unsigned (started : Bool) (mantissa : Nat) (point : Option Nat) :
    List Char → Option (Nat × Nat)
  | [] => if started then some (mantissa, point.getD 0) else none
  | next :: rest =>
      if point = some 28 then settle mantissa 28 (next :: rest)
      else if let some digit := Digits.value? next then
        let extended := mantissa * 10 + digit
        if extended < 2 ^ (96 : Nat) then unsigned true extended (point.map (· + 1)) rest
        else match point with
          | none => none
          | some places => settle mantissa places (next :: rest)
      else if next = '.' ∧ point = none then unsigned started mantissa (some 0) rest
      else if isSeparator next ∧ started then unsigned started mantissa point rest
      else none

/-- Splits an optional sign off; the first part says whether the sign is a minus. -/
def sign : List Char → Bool × List Char
  | '-' :: rest => (true, rest)
  | '+' :: rest => (false, rest)
  | chars => (false, chars)

def plain (chars : List Char) : Option Decimal := do
  let (negative, digits) := sign chars
  let (mantissa, scale) ← unsigned false 0 none digits
  ofParts? negative mantissa scale

/--
Moves the point to the left. Fraction digits beyond the most that there can be are rounded away,
a half away from zero, and the sign stays; the result then has that most.
-/
def shiftLeft (amount : Decimal) (exponent : Nat) : Option Decimal :=
  if 28 < exponent then none
  else if amount.scale + exponent ≤ 28 then
    ofParts? amount.negative amount.mantissa (amount.scale + exponent)
  else
    let rounded := amount.round .awayFromZero (28 - exponent)
    some { rounded with negative := amount.negative, scale := 28, scale_le := by decide }

def shiftRight (amount : Decimal) (exponent : Nat) : Option Decimal :=
  if 28 < exponent then none
  else ofParts? amount.negative (amount.mantissa * 10 ^ (exponent - amount.scale))
    (amount.scale - exponent)

def isExponentMark (c : Char) : Bool := c == 'e' || c == 'E'

def scientific (chars : List Char) : Option Decimal := do
  let amount ← plain (chars.takeWhile (!isExponentMark ·))
  match chars.dropWhile (!isExponentMark ·) with
  | [] => none
  | _ :: '-' :: exponent => shiftLeft amount (← Digits.plusNatural? exponent)
  | _ :: exponent => shiftRight amount (← Digits.plusNatural? exponent)

end Reading

def ofChars? (chars : List Char) : Option Decimal :=
  (Reading.plain chars).or (Reading.scientific chars)

def ofText? (text : String) : Option Decimal := ofChars? text.toList

end MotorTariff.Decimal
