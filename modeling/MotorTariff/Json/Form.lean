import MotorTariff.Json.Number
import MotorTariff.Json.Text
import MotorTariff.Money

/-!
The form that a type has in documents: how a value is written, and how it is read. This module
has the forms of texts, flags, 32-bit integers and amounts, and the report of a value of another
type.
-/

set_option autoImplicit false

namespace MotorTariff.Json

-- Powers are the core library's own, also where other libraries define some.
attribute [local instance (high)] instPowNat

structure Form (Value : Type) where
  write : Value → Json
  read : Reader Value

def Form.map {Value Other : Type} (form : Form Value) (ofValue : Value → Other)
    (toValue : Other → Value) : Form Other where
  write other := form.write (toValue other)
  read bytes := (form.read bytes).map fun (value, rest) => (ofValue value, rest)

/-- Runs a reader for its fault; a value that it reads gives the report. -/
def faultOf {Value : Type} (result : Except Fault Value) (report : Value → Fault) : Fault :=
  match result with
  | .ok value => report value
  | .error fault => fault

def Numeral.found : Numeral → Found
  | .integer value => .integer value
  | .float value => .float value

/-- The fault of a value of another type than expected; lists and objects are not entered. -/
def wrongType (expected : String) (bytes : Bytes) : Fault :=
  let word := fun (letters : List Char) (found : Found) (rest : Bytes) =>
    faultOf (restOfWord letters rest) fun after => .before (.wrongType found expected) after
  let number := fun (negative : Bool) (bytes : Bytes) =>
    faultOf (Number.read negative bytes) fun (numeral, after) =>
      .atNext (.wrongType numeral.found expected) after
  match bytes with
  | [] => .before .endOfValue []
  | b :: rest =>
      if b = Mark.letter 'n' then word ['u', 'l', 'l'] .null rest
      else if b = Mark.letter 't' then word ['r', 'u', 'e'] (.flag true) rest
      else if b = Mark.letter 'f' then word ['a', 'l', 's', 'e'] (.flag false) rest
      else if b = Mark.minus then number true rest
      else if (Number.digit? b).isSome then number false (b :: rest)
      else if b = Mark.quote then
        faultOf (Text.afterQuote rest) fun (content, after) =>
          .before (.wrongType (.text content) expected) after
      else if b = Mark.bracketOpen then .atNext (.wrongType .list expected) (b :: rest)
      else if b = Mark.braceOpen then .atNext (.wrongType .object expected) (b :: rest)
      else .atNext .noValue (b :: rest)

def readText (bytes : Bytes) : Except Fault (String × Bytes) :=
  match skipBlanks bytes with
  | [] => .error (.before .endOfValue [])
  | b :: rest =>
      if b = Mark.quote then Text.afterQuote rest else .error (wrongType "a string" (b :: rest))

def readFlag (bytes : Bytes) : Except Fault (Bool × Bytes) :=
  match skipBlanks bytes with
  | [] => .error (.before .endOfValue [])
  | b :: rest =>
      if b = Mark.letter 't' then (true, ·) <$> restOfWord ['r', 'u', 'e'] rest
      else if b = Mark.letter 'f' then (false, ·) <$> restOfWord ['a', 'l', 's', 'e'] rest
      else .error (wrongType "a boolean" (b :: rest))

namespace Int32Form

def expected : String := "i32"

def narrow (numeral : Numeral) (rest : Bytes) : Except Fault (Int32 × Bytes) :=
  match numeral with
  | .integer value =>
      if -2 ^ (31 : Nat) ≤ value ∧ value < 2 ^ (31 : Nat) then .ok (Int32.ofInt value, rest)
      else .error (.atNext (.wrongValue (.integer value) expected) rest)
  | .float value => .error (.atNext (.wrongType (.float value) expected) rest)

def read (bytes : Bytes) : Except Fault (Int32 × Bytes) :=
  match skipBlanks bytes with
  | [] => .error (.before .endOfValue [])
  | b :: rest =>
      if b = Mark.minus then do
        let (numeral, rest) ← Number.read true rest
        narrow numeral rest
      else if (Number.digit? b).isSome then do
        let (numeral, rest) ← Number.read false (b :: rest)
        narrow numeral rest
      else .error (wrongType expected (b :: rest))

end Int32Form

/-- How reading the inside of a list or an object stopped: at a fault with its place, or for a
cause that gets its place when the list or object has been closed. -/
inductive Stop where
  | settled (fault : Fault)
  | pending (cause : Cause) (bytes : Bytes)

def settle {Value : Type} : Except Fault Value → Except Stop Value
  | .ok value => .ok value
  | .error fault => .error (.settled fault)

def closing {Value : Type} (close : Bytes → Except Fault Bytes) :
    Except Stop (Value × Bytes) → Except Fault (Value × Bytes)
  | .ok (value, bytes) => (value, ·) <$> close bytes
  | .error (.settled fault) => .error fault
  | .error (.pending cause bytes) =>
      match close bytes with
      | .ok rest => .error { cause, unseen := rest.length }
      | .error fault => .error { cause, unseen := fault.unseen }

namespace AmountForm

def expected : String := "a Decimal type representing a fixed-point number"

/-- A whole number is exact; a double is the decimal that its plain digits spell. -/
def ofNumeral (numeral : Numeral) (rest : Bytes) : Except Fault (Decimal × Bytes) :=
  let amount? :=
    match numeral with
    | .integer value => Decimal.fitSigned value 0
    | .float value => Decimal.ofChars? value.plainChars
  match amount? with
  | some amount => .ok (amount, rest)
  | none => .error (.atNext (.wrongValue numeral.found expected) rest)

def ofContent (content : String) (rest : Bytes) : Except Fault (Decimal × Bytes) :=
  match Decimal.ofText? content with
  | some amount => .ok (amount, rest)
  | none => .error (.before (.wrongValue (.text content) expected) rest)

def read (bytes : Bytes) : Except Fault (Decimal × Bytes) :=
  match skipBlanks bytes with
  | [] => .error (.before .endOfValue [])
  | b :: rest =>
      if b = Mark.minus then do
        let (numeral, rest) ← Number.read true rest
        ofNumeral numeral rest
      else if (Number.digit? b).isSome then do
        let (numeral, rest) ← Number.read false (b :: rest)
        ofNumeral numeral rest
      else if b = Mark.quote then do
        let (content, rest) ← Text.afterQuote rest
        ofContent content rest
      else if b = Mark.bracketOpen then
        closing closeList (.error (.pending (.wrongType .list expected) rest))
      else if b = Mark.braceOpen then
        closing closeObject (.error (.pending (.wrongType .object expected) rest))
      else .error (wrongType expected (b :: rest))

end AmountForm

namespace Form

def text : Form String := ⟨.text, readText⟩

def flag : Form Bool := ⟨.flag, readFlag⟩

def int32 : Form Int32 := ⟨fun value => .integer value.toInt, Int32Form.read⟩

def decimal : Form Decimal := ⟨fun amount => .float amount.toBinary64, AmountForm.read⟩

def money : Form Money := decimal.map Money.mk Money.amount

end Form

end MotorTariff.Json
