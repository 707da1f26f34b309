import MotorTariff.Json.Blank

/-!
Numbers. Digits are kept exactly while they stay below `2 ^ 64`; a number with more digits, a
fraction or an exponent is a double, made from the digits kept and a power of ten.
-/

set_option autoImplicit false

namespace MotorTariff.Json

-- Powers are the core library's own, also where other libraries define some.
attribute [local instance (high)] instPowNat

inductive Numeral where
  | integer (value : Int)
  | float (value : Binary64)

namespace Number

def digit? (b : UInt8) : Option Nat :=
  if 0x30 ≤ b.toNat ∧ b.toNat ≤ 0x39 then some (b.toNat - 0x30) else none

def startsWithDigit : Bytes → Bool
  | [] => false
  | b :: _ => (digit? b).isSome

def isExponentMark (b : UInt8) : Bool := b == Mark.letter 'e' || b == Mark.letter 'E'

/-- Digits that extend a value below the limit: the value, how many there were, and the rest. -/
def takeDigits (limit value count : Nat) : Bytes → Nat × Nat × Bytes
  | [] => (value, count, [])
  | b :: rest =>
      match digit? b with
      | some digit =>
          if value * 10 + digit < limit then
            takeDigits limit (value * 10 + digit) (count + 1) rest
          else (value, count, b :: rest)
      | none => (value, count, b :: rest)

def dropDigits (count : Nat) : Bytes → Nat × Bytes
  | [] => (count, [])
  | b :: rest => if (digit? b).isSome then dropDigits (count + 1) rest else (count, b :: rest)

def significandLimit : Nat := 2 ^ (64 : Nat)

def exponentLimit : Nat := 2 ^ (31 : Nat)

def powerOfTen (exponent : Nat) : Binary64 := .ofNat (10 ^ exponent)

/-- A magnitude times a power of ten; nothing if it is too large. Far below one, the magnitude
is divided by steps of `10 ^ 308` until the exponent is in reach or nothing is left. -/
def scaleByTen (magnitude : Binary64) (exponent : Int) : Nat → Option Binary64
  | 0 => some magnitude
  | fuel + 1 =>
      if exponent.natAbs ≤ 308 then
        if 0 ≤ exponent then
          let product := magnitude.mul (powerOfTen exponent.natAbs)
          if product.isInfinite then none else some product
        else some (magnitude.div (powerOfTen exponent.natAbs))
      else if magnitude.isZero then some magnitude
      else if 0 ≤ exponent then none
      else scaleByTen (magnitude.div (powerOfTen 308)) (exponent + 308) fuel

def float (negative : Bool) (significand : Nat) (exponent : Int) (rest : Bytes) :
    Except Fault (Numeral × Bytes) :=
  match scaleByTen (.ofNat significand) exponent 4 with
  | some value => .ok (.float (value.withSign negative), rest)
  | none => .error (.atNext .numberOutOfRange rest)

/-- Whole numbers above `2 ^ 63` below zero, and the negative zero, are doubles. -/
def integer (negative : Bool) (value : Nat) : Numeral :=
  if negative then
    if 1 ≤ value ∧ value ≤ 2 ^ (63 : Nat) then .integer (-(value : Int))
    else .float ((Binary64.ofNat value).withSign true)
  else .integer value

def afterExponentMark (negative : Bool) (significand : Nat) (exponent : Int) (bytes : Bytes) :
    Except Fault (Numeral × Bytes) :=
  let (below, bytes) :=
    match bytes with
    | b :: rest =>
        if b = Mark.plus then (false, rest) else if b = Mark.minus then (true, rest)
        else (false, bytes)
    | [] => (false, [])
  match bytes with
  | [] => .error (.before .endOfValue [])
  | b :: rest =>
      match digit? b with
      | none => .error (.before .invalidNumber rest)
      | some first =>
          match takeDigits exponentLimit first 0 rest with
          | (value, _, rest) =>
              if startsWithDigit rest then
                if significand != 0 && !below then
                  .error (.before .numberOutOfRange rest.tail)
                else .ok (.float ⟨negative, 0⟩, (dropDigits 0 rest).2)
              else
                float negative significand (if below then exponent - value else exponent + value)
                  rest

def afterFraction (negative : Bool) (significand : Nat) (exponent : Int) (bytes : Bytes) :
    Except Fault (Numeral × Bytes) :=
  match bytes with
  | b :: rest =>
      if isExponentMark b then afterExponentMark negative significand exponent rest
      else float negative significand exponent bytes
  | [] => float negative significand exponent []

def afterPoint (negative : Bool) (significand : Nat) (exponent : Int) (bytes : Bytes) :
    Except Fault (Numeral × Bytes) :=
  match takeDigits significandLimit significand 0 bytes with
  | (significand, count, rest) =>
      if startsWithDigit rest then
        afterFraction negative significand (exponent - count) (dropDigits 0 rest).2
      else if count = 0 then
        match rest with
        | [] => .error (.before .endOfValue [])
        | b :: rest => .error (.atNext .invalidNumber (b :: rest))
      else afterFraction negative significand (exponent - count) rest

def afterInteger (negative : Bool) (significand dropped : Nat) (bytes : Bytes) :
    Except Fault (Numeral × Bytes) :=
  let whole := if dropped = 0 then .ok (integer negative significand, bytes)
    else float negative significand dropped bytes
  match bytes with
  | b :: rest =>
      if b = Mark.point then afterPoint negative significand dropped rest
      else if isExponentMark b then afterExponentMark negative significand dropped rest
      else whole
  | [] => whole

def read (negative : Bool) : Reader Numeral
  | [] => .error (.before .endOfValue [])
  | b :: rest =>
      match digit? b with
      | none => .error (.before .invalidNumber rest)
      | some 0 =>
          if startsWithDigit rest then .error (.atNext .invalidNumber rest)
          else afterInteger negative 0 0 rest
      | some first =>
          match takeDigits significandLimit first 0 rest with
          | (significand, _, rest) =>
              match dropDigits 0 rest with
              | (dropped, rest) => afterInteger negative significand dropped rest

def skipExponent (bytes : Bytes) : Except Fault Bytes :=
  let bytes :=
    match bytes with
    | b :: rest => if b = Mark.plus ∨ b = Mark.minus then rest else bytes
    | [] => []
  match bytes with
  | [] => .error (.before .invalidNumber [])
  | b :: rest =>
      if (digit? b).isSome then .ok (dropDigits 0 rest).2
      else .error (.before .invalidNumber rest)

def skipFraction (bytes : Bytes) : Except Fault Bytes :=
  match dropDigits 0 bytes with
  | (0, rest) => .error (.atNext .invalidNumber rest)
  | (_, b :: rest) => if isExponentMark b then skipExponent rest else .ok (b :: rest)
  | (_, []) => .ok []

def skip : Bytes → Except Fault Bytes
  | [] => .error (.before .invalidNumber [])
  | b :: rest =>
      match digit? b with
      | none => .error (.before .invalidNumber rest)
      | some first =>
          if first = 0 ∧ startsWithDigit rest then .error (.atNext .invalidNumber rest)
          else match (dropDigits 0 rest).2 with
            | mark :: rest =>
                if mark = Mark.point then skipFraction rest
                else if isExponentMark mark then skipExponent rest
                else .ok (mark :: rest)
            | [] => .ok []

end Number

end MotorTariff.Json
