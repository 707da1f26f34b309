import MotorTariff.Binary64.Text

/-!
JSON values to be written, and their two layouts: compact, and indented by two blanks a level.
Members keep the order in which they are listed.
-/

set_option autoImplicit false

namespace MotorTariff

inductive Json where
  | flag (value : Bool)
  | integer (value : Int)
  | float (value : Binary64)
  | text (value : String)
  | list (items : List Json)
  | object (members : List (String × Json))

namespace Json

def hexDigit (n : Nat) : Char := Nat.digitChar n

def escapeChar (c : Char) : List Char :=
  if c = '"' then ['\\', '"']
  else if c = '\\' then ['\\', '\\']
  else if c = '\x08' then ['\\', 'b']
  else if c = '\x0c' then ['\\', 'f']
  else if c = '\n' then ['\\', 'n']
  else if c = '\r' then ['\\', 'r']
  else if c = '\t' then ['\\', 't']
  else if c.toNat < 0x20 then
    ['\\', 'u', '0', '0', hexDigit (c.toNat / 16), hexDigit (c.toNat % 16)]
  else [c]

def quote (chars : List Char) : List Char := '"' :: (chars.flatMap escapeChar ++ ['"'])

def quoteText (text : String) : List Char := quote text.toList

def integerChars (n : Int) : List Char :=
  (if n < 0 then ['-'] else []) ++ Nat.toDigits 10 n.natAbs

def flagChars (value : Bool) : List Char := (if value then "true" else "false").toList

mutual

def compact : Json → List Char
  | .flag value => flagChars value
  | .integer value => integerChars value
  | .float value => value.chars
  | .text value => quoteText value
  | .list items => '[' :: compactItems true items
  | .object members => '\x7b' :: compactMembers true members

def compactItems : Bool → List Json → List Char
  | _, [] => [']']
  | first, item :: rest => (if first then [] else [',']) ++ compact item ++ compactItems false rest

def compactMembers : Bool → List (String × Json) → List Char
  | _, [] => ['\x7d']
  | first, (name, value) :: rest =>
      (if first then [] else [',']) ++ quoteText name ++ ':' :: compact value ++
        compactMembers false rest

end

def indent (level : Nat) : List Char := '\n' :: List.replicate (2 * level) ' '

mutual

def indented (level : Nat) : Json → List Char
  | .flag value => flagChars value
  | .integer value => integerChars value
  | .float value => value.chars
  | .text value => quoteText value
  | .list items => '[' :: indentedItems level true items
  | .object members => '\x7b' :: indentedMembers level true members

def indentedItems (level : Nat) : Bool → List Json → List Char
  | first, [] => (if first then [] else indent level) ++ [']']
  | first, item :: rest =>
      (if first then [] else [',']) ++ indent (level + 1) ++ indented (level + 1) item ++
        indentedItems level false rest

def indentedMembers (level : Nat) : Bool → List (String × Json) → List Char
  | first, [] => (if first then [] else indent level) ++ ['\x7d']
  | first, (name, value) :: rest =>
      (if first then [] else [',']) ++ indent (level + 1) ++ quoteText name ++ ':' :: ' ' ::
        indented (level + 1) value ++ indentedMembers level false rest

end

def compactText (value : Json) : String := String.ofList value.compact

def indentedText (value : Json) : String := String.ofList (value.indented 0)

end Json

end MotorTariff
