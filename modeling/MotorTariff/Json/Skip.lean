import MotorTariff.Json.Number
import MotorTariff.Json.Text

/-!
Passing over a value of any shape. The open lists and objects stand on a stack, so nesting has no
limit; each round takes at least one byte.
-/

set_option autoImplicit false

namespace MotorTariff.Json.Skip

/-- A list or an object that has been opened. -/
inductive Nest where
  | list
  | object
  deriving DecidableEq

namespace Nest

def closing : Nest → UInt8
  | list => Mark.bracketClose
  | object => Mark.braceClose

def unclosed : Nest → Cause
  | list => .endOfList
  | object => .endOfObject

def unseparated : Nest → Cause
  | list => .noCommaOrBracket
  | object => .noCommaOrBrace

end Nest

inductive Piece where
  | scalar (rest : Bytes)
  | opened (nest : Nest) (rest : Bytes)

def piece (bytes : Bytes) : Except Fault Piece :=
  match skipBlanks bytes with
  | [] => .error (.before .endOfValue [])
  | b :: rest =>
      if b = Mark.letter 'n' then .scalar <$> restOfWord ['u', 'l', 'l'] rest
      else if b = Mark.letter 't' then .scalar <$> restOfWord ['r', 'u', 'e'] rest
      else if b = Mark.letter 'f' then .scalar <$> restOfWord ['a', 'l', 's', 'e'] rest
      else if b = Mark.minus then .scalar <$> Number.skip rest
      else if (Number.digit? b).isSome then .scalar <$> Number.skip (b :: rest)
      else if b = Mark.quote then .scalar <$> Text.skip rest
      else if b = Mark.bracketOpen then .ok (.opened .list rest)
      else if b = Mark.braceOpen then .ok (.opened .object rest)
      else .error (.atNext .noValue (b :: rest))

/-- After an element: closes what ends here, or takes the comma before the next element. -/
def afterElement : List Nest → Bytes → Except Fault (List Nest × Bytes)
  | [], bytes => .ok ([], bytes)
  | nest :: outer, bytes =>
      match skipBlanks bytes with
      | [] => .error (.before nest.unclosed [])
      | b :: rest =>
          if b = nest.closing then afterElement outer rest
          else if b = Mark.comma then .ok (nest :: outer, rest)
          else .error (.atNext nest.unseparated (b :: rest))

def afterOpening (nest : Nest) (outer : List Nest) (bytes : Bytes) :
    Except Fault (List Nest × Bytes) :=
  match skipBlanks bytes with
  | [] => .error (.before nest.unclosed [])
  | b :: rest =>
      if b = nest.closing then afterElement outer rest else .ok (nest :: outer, b :: rest)

def key (bytes : Bytes) : Except Fault Bytes :=
  match skipBlanks bytes with
  | [] => .error (.before .endOfObject [])
  | b :: rest =>
      if b = Mark.quote then Text.skip rest >>= takeColon
      else .error (.atNext .keyNotText (b :: rest))

/-- Passes over one value and everything still open around it. -/
def values : Nat → List Nest → Bytes → Except Fault Bytes
  | 0, _, bytes => .error (.atNext .endOfValue bytes)
  | fuel + 1, nests, bytes => do
      let (nests, bytes) ←
        match ← piece bytes with
        | .scalar rest => afterElement nests rest
        | .opened nest rest => afterOpening nest nests rest
      match nests with
      | [] => .ok bytes
      | .list :: _ => values fuel nests bytes
      | .object :: _ => values fuel nests (← key bytes)

def value (bytes : Bytes) : Except Fault Bytes := values (bytes.length + 1) [] bytes

end MotorTariff.Json.Skip
