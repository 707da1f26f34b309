import MotorTariff.Json.Blank

/-!
Texts between quotes, read one byte at a time by a small machine. Escapes are resolved, four hex
digits may be half of a surrogate pair, and the bytes that result have to be characters.
-/

set_option autoImplicit false

namespace MotorTariff.Json.Text

inductive Mode where
  | plain
  | escape
  | hex (lead : Option Nat) (digits : List UInt8)
  | pairBackslash (lead : Nat)
  | pairLetter (lead : Nat)
  deriving DecidableEq

def hexValue? (b : UInt8) : Option Nat :=
  let n := b.toNat
  if 0x30 ≤ n ∧ n ≤ 0x39 then some (n - 0x30)
  else if 0x41 ≤ n ∧ n ≤ 0x46 then some (n - 0x37)
  else if 0x61 ≤ n ∧ n ≤ 0x66 then some (n - 0x57)
  else none

def hexNumber? (digits : List UInt8) : Option Nat :=
  digits.foldlM (fun value b => (hexValue? b).map (value * 16 + ·)) 0

def isLead (n : Nat) : Bool := decide (0xd800 ≤ n ∧ n < 0xdc00)

def isTrail (n : Nat) : Bool := decide (0xdc00 ≤ n ∧ n < 0xe000)

def escaped? (b : UInt8) : Option UInt8 :=
  if b = Mark.quote ∨ b = Mark.backslash ∨ b = Mark.letter '/' then some b
  else if b = Mark.letter 'b' then some 0x08
  else if b = Mark.letter 'f' then some 0x0c
  else if b = Mark.letter 'n' then some 0x0a
  else if b = Mark.letter 'r' then some 0x0d
  else if b = Mark.letter 't' then some 0x09
  else none

/-- What four hex digits add, alone or as the second half of a pair. -/
def unit (lead : Option Nat) (n : Nat) : Except Cause (Mode × Bytes) :=
  match lead with
  | none =>
      if isTrail n then .error .loneSurrogate
      else if isLead n then .ok (.pairBackslash n, [])
      else .ok (.plain, Utf8.encodeNat n)
  | some lead =>
      if isTrail n then
        .ok (.plain, Utf8.encodeNat (0x10000 + (lead - 0xd800) * 0x400 + (n - 0xdc00)))
      else .error .loneSurrogate

/-- One byte, other than the closing quote: the next mode and the bytes that it adds. -/
def step (mode : Mode) (b : UInt8) : Except Cause (Mode × Bytes) :=
  match mode with
  | .plain =>
      if b = Mark.backslash then .ok (.escape, [])
      else if b.toNat < 0x20 then .error .controlCharacter
      else .ok (.plain, [b])
  | .escape =>
      if b = Mark.letter 'u' then .ok (.hex none [], [])
      else match escaped? b with
        | some byte => .ok (.plain, [byte])
        | none => .error .invalidEscape
  | .hex lead digits =>
      let digits := digits ++ [b]
      if digits.length < 4 then .ok (.hex lead digits, [])
      else match hexNumber? digits with
        | some n => unit lead n
        | none => .error .invalidEscape
  | .pairBackslash lead =>
      if b = Mark.backslash then .ok (.pairLetter lead, []) else .error .unfinishedSurrogatePair
  | .pairLetter lead =>
      if b = Mark.letter 'u' then .ok (.hex (some lead) [], [])
      else .error .unfinishedSurrogatePair

/-- The bytes of a text whose opening quote has been taken, with those so far in reverse. -/
def bytesFrom (mode : Mode) (decoded : Bytes) : Reader Bytes
  | [] => .error (.before .endOfText [])
  | b :: rest =>
      if mode = .plain ∧ b = Mark.quote then .ok (decoded.reverse, rest)
      else match step mode b with
        | .error cause => .error (.before cause rest)
        | .ok (next, added) => bytesFrom next (added.reverse ++ decoded) rest

def afterQuote (bytes : Bytes) : Except Fault (String × Bytes) := do
  let (decoded, rest) ← bytesFrom .plain [] bytes
  match Utf8.decode decoded with
  | .ok chars => .ok (String.ofList chars, rest)
  | .error offset =>
      .error
        { cause := .notUnicode
          unseen := rest.length
          columnsBack := decoded.length - offset }

/-- Passes over a text whose opening quote has been taken; four hex digits may be anything. -/
def skipFrom (mode : Mode) : Bytes → Except Fault Bytes
  | [] => .error (.before .endOfText [])
  | b :: rest =>
      if mode = .plain ∧ b = Mark.quote then .ok rest
      else match mode with
        | .hex lead digits =>
            let digits := digits ++ [b]
            if digits.length < 4 then skipFrom (.hex lead digits) rest
            else match hexNumber? digits with
              | some _ => skipFrom .plain rest
              | none => .error (.before .invalidEscape rest)
        | _ =>
            match step mode b with
            | .error cause => .error (.before cause rest)
            | .ok (next, _) => skipFrom next rest

def skip (bytes : Bytes) : Except Fault Bytes := skipFrom .plain bytes

end MotorTariff.Json.Text
