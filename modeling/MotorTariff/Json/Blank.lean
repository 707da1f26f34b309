import MotorTariff.Json.Fault

/-!
The smallest pieces of a document: blanks, single marks and the three words.
-/

set_option autoImplicit false

namespace MotorTariff.Json

namespace Mark

def quote : UInt8 := 0x22
def comma : UInt8 := 0x2c
def minus : UInt8 := 0x2d
def plus : UInt8 := 0x2b
def point : UInt8 := 0x2e
def colon : UInt8 := 0x3a
def backslash : UInt8 := 0x5c
def bracketOpen : UInt8 := 0x5b
def bracketClose : UInt8 := 0x5d
def braceOpen : UInt8 := 0x7b
def braceClose : UInt8 := 0x7d

def letter (c : Char) : UInt8 := UInt8.ofNat c.toNat

end Mark

def isBlank (b : UInt8) : Bool := b == 0x20 || b == 0x09 || b == 0x0a || b == 0x0d

def skipBlanks : Bytes → Bytes
  | [] => []
  | b :: rest => if isBlank b then skipBlanks rest else b :: rest

/-- The letters of a word whose first letter has been taken. -/
def restOfWord : List Char → Bytes → Except Fault Bytes
  | [], bytes => .ok bytes
  | _ :: _, [] => .error (.before .endOfValue [])
  | c :: letters, b :: rest =>
      if b = Mark.letter c then restOfWord letters rest else .error (.before .brokenWord rest)

def takeColon (bytes : Bytes) : Except Fault Bytes :=
  match skipBlanks bytes with
  | [] => .error (.before .endOfObject [])
  | b :: rest => if b = Mark.colon then .ok rest else .error (.atNext .noColon (b :: rest))

def closeObject (bytes : Bytes) : Except Fault Bytes :=
  match skipBlanks bytes with
  | [] => .error (.before .endOfObject [])
  | b :: rest =>
      if b = Mark.braceClose then .ok rest
      else if b = Mark.comma then .error (.atNext .trailingComma (b :: rest))
      else .error (.atNext .trailingCharacters (b :: rest))

def closeList (bytes : Bytes) : Except Fault Bytes :=
  match skipBlanks bytes with
  | [] => .error (.before .endOfList [])
  | b :: rest =>
      if b = Mark.bracketClose then .ok rest
      else if b = Mark.comma then
        match skipBlanks rest with
        | [] => .error (.before .trailingCharacters [])
        | next :: after =>
            .error (.atNext
              (if next = Mark.bracketClose then .trailingComma else .trailingCharacters)
              (next :: after))
      else .error (.atNext .trailingCharacters (b :: rest))

def readDocument {Value : Type} (reader : Reader Value) (document : Bytes) :
    Except Fault Value := do
  let (value, rest) ← reader document
  match skipBlanks rest with
  | [] => .ok value
  | b :: rest => .error (.atNext .trailingCharacters (b :: rest))

end MotorTariff.Json
