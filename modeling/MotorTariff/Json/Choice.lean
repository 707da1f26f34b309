import MotorTariff.Json.Form

/-!
A choice among names: the name as a text, or as the only key of an object whose value is null.
-/

set_option autoImplicit false

namespace MotorTariff.Json

structure Choice (Variant : Type) where
  variants : List Variant
  name : Variant → String

namespace Choice

variable {Variant : Type} (choice : Choice Variant)

def named (name : String) (rest : Bytes) : Except Fault (Variant × Bytes) :=
  match choice.variants.find? fun variant => choice.name variant == name with
  | some variant => .ok (variant, rest)
  | none =>
      .error (.before (.unknownVariant name (choice.variants.map choice.name)) rest)

def readNull (bytes : Bytes) : Except Fault Bytes :=
  match skipBlanks bytes with
  | [] => .error (.before .endOfValue [])
  | b :: rest =>
      if b = Mark.letter 'n' then restOfWord ['u', 'l', 'l'] rest
      else .error (wrongType "unit" (b :: rest))

/-- What follows the opening brace of the object form. -/
def afterBrace (bytes : Bytes) : Except Fault (Variant × Bytes) :=
  match skipBlanks bytes with
  | [] => .error (.before .endOfObject [])
  | b :: rest =>
      if b = Mark.quote then do
        let (name, rest) ← Text.afterQuote rest
        let (variant, rest) ← choice.named name rest
        let rest ← takeColon rest >>= readNull
        match skipBlanks rest with
        | [] => .error (.before .endOfObject [])
        | b :: rest =>
            if b = Mark.braceClose then .ok (variant, rest)
            else .error (.atNext .noValue (b :: rest))
      else .error (.atNext (if b = Mark.braceClose then .noValue else .keyNotText) (b :: rest))

def read (bytes : Bytes) : Except Fault (Variant × Bytes) :=
  match skipBlanks bytes with
  | [] => .error (.before .endOfValue [])
  | b :: rest =>
      if b = Mark.quote then do
        let (name, rest) ← Text.afterQuote rest
        choice.named name rest
      else if b = Mark.braceOpen then choice.afterBrace rest
      else .error (.atNext .noValue (b :: rest))

def toForm : Form Variant := ⟨fun variant => .text (choice.name variant), choice.read⟩

end Choice

end MotorTariff.Json
