/-!
Text as bytes. Decoding stops at the first sequence that is no character and reports where it
begins; surrogates, overlong forms and numbers above the last code point are no characters.
-/

set_option autoImplicit false

namespace MotorTariff

abbrev Bytes := List UInt8

namespace Utf8

def tail (n : Nat) : UInt8 := UInt8.ofNat (0x80 + n % 64)

def encodeNat (n : Nat) : Bytes :=
  if n < 0x80 then [UInt8.ofNat n]
  else if n < 0x800 then [UInt8.ofNat (0xc0 + n / 64), tail n]
  else if n < 0x10000 then [UInt8.ofNat (0xe0 + n / 4096), tail (n / 64), tail n]
  else [UInt8.ofNat (0xf0 + n / 262144), tail (n / 4096), tail (n / 64), tail n]

def encode (chars : List Char) : Bytes := chars.flatMap fun c => encodeNat c.toNat

def encodeText (text : String) : Bytes := encode text.toList

def tail? (b : UInt8) : Option Nat :=
  if 0x80 ≤ b.toNat ∧ b.toNat < 0xc0 then some (b.toNat - 0x80) else none

def ofTwo? (a b : UInt8) : Option Char := do
  let low ← tail? b
  if 0xc2 ≤ a.toNat ∧ a.toNat < 0xe0 then
    return Char.ofNat ((a.toNat - 0xc0) * 64 + low)
  else none

def ofThree? (a b c : UInt8) : Option Char := do
  let middle ← tail? b
  let low ← tail? c
  let n := (a.toNat - 0xe0) * 4096 + middle * 64 + low
  if 0xe0 ≤ a.toNat ∧ a.toNat < 0xf0 ∧ 0x800 ≤ n ∧ ¬ (0xd800 ≤ n ∧ n < 0xe000) then
    return Char.ofNat n
  else none

def ofFour? (a b c d : UInt8) : Option Char := do
  let upper ← tail? b
  let middle ← tail? c
  let low ← tail? d
  let n := (a.toNat - 0xf0) * 262144 + upper * 4096 + middle * 64 + low
  if 0xf0 ≤ a.toNat ∧ a.toNat < 0xf5 ∧ 0x10000 ≤ n ∧ n < 0x110000 then
    return Char.ofNat n
  else none

/-- Decodes from the given offset on, with the characters so far in reverse. -/
def decodeFrom (offset : Nat) (decoded : List Char) : Bytes → Except Nat (List Char)
  | [] => .ok decoded.reverse
  | a :: rest =>
      if a.toNat < 0x80 then decodeFrom (offset + 1) (Char.ofNat a.toNat :: decoded) rest
      else match rest with
        | [] => .error offset
        | b :: rest =>
            match ofTwo? a b with
            | some char => decodeFrom (offset + 2) (char :: decoded) rest
            | none =>
                match rest with
                | [] => .error offset
                | c :: rest =>
                    match ofThree? a b c with
                    | some char => decodeFrom (offset + 3) (char :: decoded) rest
                    | none =>
                        match rest with
                        | [] => .error offset
                        | d :: rest =>
                            match ofFour? a b c d with
                            | some char => decodeFrom (offset + 4) (char :: decoded) rest
                            | none => .error offset

/-- The characters, or the offset of the first sequence that is none. -/
def decode (bytes : Bytes) : Except Nat (List Char) := decodeFrom 0 [] bytes

end Utf8

end MotorTariff
