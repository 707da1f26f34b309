import MotorTariff.Json.Form
import MotorTariff.Json.Skip

/-!
Records in documents. A record is an object whose members may come in any order, with unknown
members passed over, or a list of its fields in order. A missing or repeated field is a fault.
-/

set_option autoImplicit false

namespace MotorTariff.Json

/-- A record by its fields: `Key` names them, and each has its own type and form. -/
structure RecordForm (Key Record : Type) where
  title : String
  /-- All keys, in the order of the list form. -/
  keys : List Key
  mem_keys : ∀ key, key ∈ keys
  label : Key → String
  Value : Key → Type
  form : (key : Key) → Form (Value key)
  get : Record → (key : Key) → Value key
  make : ((key : Key) → Value key) → Record

namespace RecordForm

variable {Key Record : Type} [DecidableEq Key] (record : RecordForm Key Record)

def Slots : Type := (key : Key) → Option (record.Value key)

def emptySlots : record.Slots := fun _ => none

def fill (slots : record.Slots) (key : Key) (value : record.Value key) : record.Slots :=
  fun other => if same : key = other then some (same ▸ value) else slots other

def key? (label : String) : Option Key := record.keys.find? fun key => record.label key == label

/-- The record, or the label of its first field that has not been read. -/
def complete (slots : record.Slots) : Except String Record :=
  match missing : record.keys.find? fun key => (slots key).isNone with
  | some key => .error (record.label key)
  | none =>
      .ok (record.make fun key =>
        (slots key).get (by
          have := List.find?_eq_none.1 missing key (record.mem_keys key)
          simpa [Option.isSome_iff_ne_none] using this))

def finish (slots : record.Slots) (bytes : Bytes) : Except Stop (Record × Bytes) :=
  match record.complete slots with
  | .ok value => .ok (value, bytes)
  | .error label => .error (.pending (.missingField label) bytes)

/-- The start of a member up to its key's opening quote; nothing if the object ends here. -/
def memberStart (first : Bool) (bytes : Bytes) : Except Fault (Option Bytes) :=
  match skipBlanks bytes with
  | [] => .error (.before .endOfObject [])
  | b :: rest =>
      if b = Mark.braceClose then .ok none
      else if first then
        if b = Mark.quote then .ok (some rest) else .error (.atNext .keyNotText (b :: rest))
      else if b = Mark.comma then
        match skipBlanks rest with
        | [] => .error (.before .endOfValue [])
        | next :: rest =>
            if next = Mark.quote then .ok (some rest)
            else .error (.atNext
              (if next = Mark.braceClose then .trailingComma else .keyNotText) (next :: rest))
      else .error (.atNext .noCommaOrBrace (b :: rest))

def members : Nat → Bool → record.Slots → Bytes → Except Stop (record.Slots × Bytes)
  | 0, _, _, bytes => .error (.settled (.atNext .endOfObject bytes))
  | fuel + 1, first, slots, bytes => do
      match ← settle (memberStart first bytes) with
      | none => .ok (slots, bytes)
      | some bytes =>
          let (label, bytes) ← settle (Text.afterQuote bytes)
          match record.key? label with
          | none =>
              let bytes ← settle (takeColon bytes >>= Skip.value)
              members fuel false slots bytes
          | some key =>
              if (slots key).isSome then
                .error (.pending (.duplicateField (record.label key)) bytes)
              else
                let (value, bytes) ← settle (takeColon bytes >>= (record.form key).read)
                members fuel false (record.fill slots key value) bytes

def itemStart (first : Bool) (bytes : Bytes) : Except Fault (Option Bytes) :=
  match skipBlanks bytes with
  | [] => .error (.before .endOfList [])
  | b :: rest =>
      if b = Mark.bracketClose then .ok none
      else if first then .ok (some (b :: rest))
      else if b = Mark.comma then
        match skipBlanks rest with
        | [] => .error (.before .endOfValue [])
        | next :: rest =>
            if next = Mark.bracketClose then .error (.atNext .trailingComma (next :: rest))
            else .ok (some (next :: rest))
      else .error (.atNext .noCommaOrBracket (b :: rest))

/-- Reads the items of the given keys in order; `count` have been read before. -/
def items (count : Nat) : List Key → record.Slots → Bytes → Except Stop (record.Slots × Bytes)
  | [], slots, bytes => .ok (slots, bytes)
  | key :: keys, slots, bytes => do
      match ← settle (itemStart (count == 0) bytes) with
      | none =>
          .error (.pending (.invalidLength count record.title record.keys.length) bytes)
      | some bytes =>
          let (value, bytes) ← settle ((record.form key).read bytes)
          items (count + 1) keys (record.fill slots key value) bytes

def read (bytes : Bytes) : Except Fault (Record × Bytes) :=
  match skipBlanks bytes with
  | [] => .error (.before .endOfValue [])
  | b :: rest =>
      if b = Mark.braceOpen then
        closing closeObject do
          let (slots, after) ← record.members (rest.length + 1) true record.emptySlots rest
          record.finish slots after
      else if b = Mark.bracketOpen then
        closing closeList do
          let (slots, after) ← record.items 0 record.keys record.emptySlots rest
          record.finish slots after
      else .error (wrongType ("struct " ++ record.title) (b :: rest))

def write (value : Record) : Json :=
  .object (record.keys.map fun key =>
    (record.label key, (record.form key).write (record.get value key)))

def toForm : Form Record := ⟨record.write, record.read⟩

end RecordForm

end MotorTariff.Json
