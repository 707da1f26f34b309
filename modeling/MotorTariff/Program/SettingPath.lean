import MotorTariff.Text.Digits

/-!
Paths into settings. A path is the name of a setting, followed by steps into it: a point and the
name of a member, or brackets around the index of an element.
-/

set_option autoImplicit false

namespace MotorTariff

-- Powers are the core library's own, also where other libraries define some.
attribute [local instance (high)] instPowNat

inductive SettingStep where
  | member (name : String)
  | element
  deriving DecidableEq, Repr

structure SettingPath where
  setting : String
  steps : List SettingStep
  deriving DecidableEq, Repr

namespace SettingPath

def isNamePart (c : Char) : Bool := c.isAlphanum || c == '_' || c == '-' || c == ' '

def name? (chars : List Char) : Option (String × List Char) :=
  match chars.takeWhile isNamePart with
  | [] => none
  | name => some (String.ofList name, chars.dropWhile isNamePart)

def isBlank (c : Char) : Bool := c == ' ' || c == '\t'

def skipBlanks (chars : List Char) : List Char := chars.dropWhile isBlank

/-- The most elements that an index may count, in either direction. -/
def indexBound : Nat := 2 ^ (63 : Nat)

/-- What follows an index, which may have a minus sign and blanks around it, and its bracket. -/
def afterIndex? (chars : List Char) : Option (List Char) := do
  let chars := skipBlanks chars
  let (negative, digits) := match chars with
    | '-' :: digits => (true, digits)
    | digits => (false, digits)
  let index ← Digits.natural? (digits.takeWhile Char.isDigit)
  if index < indexBound ∨ (negative ∧ index = indexBound) then
    match skipBlanks (digits.dropWhile Char.isDigit) with
    | ']' :: rest => some rest
    | _ => none
  else none

/-- The steps that a text consists of; every step takes a character, so `fuel` is its length. -/
def steps? : Nat → List Char → Option (List SettingStep)
  | _, [] => some []
  | fuel + 1, '.' :: chars => do
      let (name, rest) ← name? chars
      return .member name :: (← steps? fuel rest)
  | fuel + 1, '[' :: chars => do return .element :: (← steps? fuel (← afterIndex? chars))
  | _, _ => none

def ofChars? (chars : List Char) : Option SettingPath := do
  let (setting, rest) ← name? chars
  return ⟨setting, ← steps? rest.length rest⟩

end SettingPath

end MotorTariff
