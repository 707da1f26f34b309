import MotorTariff.Json.Record

/-!
Documents of any shape, read into trees. Items and members keep the order in which they stand, and
members of one name are all kept. Nesting has no limit but the length of the document.
-/

set_option autoImplicit false

namespace MotorTariff.Json

inductive Tree where
  | null
  | flag (value : Bool)
  | number (value : Numeral)
  | text (value : String)
  | list (items : List Tree)
  | object (members : List (String × Tree))

namespace Tree

/-- The rest of a list after its opening bracket or an item; each item takes at least one byte. -/
def itemsFrom (item : Reader Tree) : Nat → Bool → Reader (List Tree)
  | 0, _, bytes => .error (.atNext .endOfList bytes)
  | fuel + 1, first, bytes => do
      match ← RecordForm.itemStart first bytes with
      | none => ([], ·) <$> closeList bytes
      | some bytes =>
          let (value, bytes) ← item bytes
          let (later, bytes) ← itemsFrom item fuel false bytes
          return (value :: later, bytes)

def membersFrom (value : Reader Tree) : Nat → Bool → Reader (List (String × Tree))
  | 0, _, bytes => .error (.atNext .endOfObject bytes)
  | fuel + 1, first, bytes => do
      match ← RecordForm.memberStart first bytes with
      | none => ([], ·) <$> closeObject bytes
      | some bytes =>
          let (name, bytes) ← Text.afterQuote bytes
          let (content, bytes) ← takeColon bytes >>= value
          let (later, bytes) ← membersFrom value fuel false bytes
          return ((name, content) :: later, bytes)

/-- Reads a value whose lists and objects are nested less deeply than the given level. -/
def read : Nat → Reader Tree
  | 0, bytes => .error (.atNext .noValue bytes)
  | level + 1, bytes =>
      match skipBlanks bytes with
      | [] => .error (.before .endOfValue [])
      | b :: rest =>
          if b = Mark.letter 'n' then (null, ·) <$> restOfWord ['u', 'l', 'l'] rest
          else if b = Mark.letter 't' then (flag true, ·) <$> restOfWord ['r', 'u', 'e'] rest
          else if b = Mark.letter 'f' then (flag false, ·) <$> restOfWord ['a', 'l', 's', 'e'] rest
          else if b = Mark.minus then
            (Number.read true rest).map fun (numeral, rest) => (number numeral, rest)
          else if (Number.digit? b).isSome then
            (Number.read false (b :: rest)).map fun (numeral, rest) => (number numeral, rest)
          else if b = Mark.quote then
            (Text.afterQuote rest).map fun (content, rest) => (text content, rest)
          else if b = Mark.bracketOpen then
            (itemsFrom (read level) (rest.length + 1) true rest).map fun (items, rest) =>
              (list items, rest)
          else if b = Mark.braceOpen then
            (membersFrom (read level) (rest.length + 1) true rest).map fun (members, rest) =>
              (object members, rest)
          else .error (.atNext .noValue (b :: rest))

def front (document : Bytes) : Except Fault (Tree × Bytes) := read (document.length + 1) document

end Tree

end MotorTariff.Json
