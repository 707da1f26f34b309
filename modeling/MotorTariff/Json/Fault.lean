import MotorTariff.Text.Quoted
import MotorTariff.Text.Utf8
import MotorTariff.Json.Basic

/-!
What can be wrong with a document, and where. A fault remembers how many bytes had not been
looked at when it was found; line and column follow from that and the document.
-/

set_option autoImplicit false

namespace MotorTariff.Json

inductive Found where
  | null
  | flag (value : Bool)
  | integer (value : Int)
  | float (value : Binary64)
  | text (value : String)
  | list
  | object

namespace Found

def describe : Found → String
  | null => "null"
  | flag value => "boolean `" ++ String.ofList (flagChars value) ++ "`"
  | integer value => "integer `" ++ String.ofList (integerChars value) ++ "`"
  | float value => "floating point `" ++ value.text ++ "`"
  | text value => "string " ++ Quoted.quote value
  | list => "sequence"
  | object => "map"

end Found

inductive Cause where
  | endOfValue
  | endOfList
  | endOfObject
  | endOfText
  | keyNotText
  | noCommaOrBrace
  | noCommaOrBracket
  | trailingComma
  | noColon
  | brokenWord
  | noValue
  | invalidNumber
  | numberOutOfRange
  | controlCharacter
  | invalidEscape
  | loneSurrogate
  | unfinishedSurrogatePair
  | notUnicode
  | trailingCharacters
  | missingField (name : String)
  | duplicateField (name : String)
  | invalidLength (length : Nat) (record : String) (fields : Nat)
  | wrongType (found : Found) (expected : String)
  | wrongValue (found : Found) (expected : String)
  | unknownVariant (name : String) (known : List String)

/-- Whether a document ends too early, is no JSON, or is JSON that does not fit. -/
inductive Category where
  | ended
  | malformed
  | unfit
  deriving DecidableEq, Repr

namespace Cause

def backquote (name : String) : String := "`" ++ name ++ "`"

def expectedVariants : List String → String
  | [] => "there are no variants"
  | [only] => "expected " ++ backquote only
  | [first, second] => "expected " ++ backquote first ++ " or " ++ backquote second
  | several => "expected one of " ++ String.intercalate ", " (several.map backquote)

def describe : Cause → String
  | endOfValue => "EOF while parsing a value"
  | endOfList => "EOF while parsing a list"
  | endOfObject => "EOF while parsing an object"
  | endOfText => "EOF while parsing a string"
  | keyNotText => "key must be a string"
  | noCommaOrBrace => "expected `,` or `\x7d`"
  | noCommaOrBracket => "expected `,` or `]`"
  | trailingComma => "trailing comma"
  | noColon => "expected `:`"
  | brokenWord => "expected ident"
  | noValue => "expected value"
  | invalidNumber => "invalid number"
  | numberOutOfRange => "number out of range"
  | controlCharacter => "control character (\\u0000-\\u001F) found while parsing a string"
  | invalidEscape => "invalid escape"
  | loneSurrogate => "lone leading surrogate in hex escape"
  | unfinishedSurrogatePair => "unexpected end of hex escape"
  | notUnicode => "invalid unicode code point"
  | trailingCharacters => "trailing characters"
  | missingField name => "missing field " ++ backquote name
  | duplicateField name => "duplicate field " ++ backquote name
  | invalidLength length record fields =>
      "invalid length " ++ toString length ++ ", expected struct " ++ record ++ " with " ++
        toString fields ++ (if fields = 1 then " element" else " elements")
  | wrongType found expected => "invalid type: " ++ found.describe ++ ", expected " ++ expected
  | wrongValue found expected => "invalid value: " ++ found.describe ++ ", expected " ++ expected
  | unknownVariant name known =>
      "unknown variant " ++ backquote name ++ ", " ++ expectedVariants known

def category : Cause → Category
  | endOfValue | endOfList | endOfObject | endOfText => .ended
  | missingField _ | duplicateField _ | invalidLength .. | wrongType .. | wrongValue ..
  | unknownVariant .. => .unfit
  | _ => .malformed

end Cause

/-- A cause and how many bytes of the document had not been looked at; `columnsBack` moves the
reported column to the left. -/
structure Fault where
  cause : Cause
  unseen : Nat
  columnsBack : Nat := 0

namespace Fault

/-- A fault found on looking at the next byte, if there is one. -/
def atNext (cause : Cause) (bytes : Bytes) : Fault := { cause, unseen := bytes.length - 1 }

/-- A fault found after the bytes before these were taken. -/
def before (cause : Cause) (bytes : Bytes) : Fault := { cause, unseen := bytes.length }

def newline : UInt8 := 0x0a

def position (document : Bytes) (fault : Fault) : Nat × Nat :=
  let seen := document.take (document.length - fault.unseen)
  let column := (seen.reverse.takeWhile (· != newline)).length
  (1 + seen.count newline, column - fault.columnsBack)

def message (document : Bytes) (fault : Fault) : String :=
  let (line, column) := fault.position document
  fault.cause.describe ++ " at line " ++ toString line ++ " column " ++ toString column

end Fault

/-- Reads a value at the front of the bytes and gives back the rest. -/
abbrev Reader (Value : Type) := Bytes → Except Fault (Value × Bytes)

end MotorTariff.Json
