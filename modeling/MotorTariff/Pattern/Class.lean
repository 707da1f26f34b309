import MotorTariff.Text.CaseCycle
import MotorTariff.Text.Category
import MotorTariff.Text.Whitespace

/-!
Classes of characters, as patterns name them: ranges, categories and what sets of them make.
-/

set_option autoImplicit false

namespace MotorTariff

inductive CharClass where
  | nothing
  | range (first last : Char)
  | category (kind : Category)
  | decimalDigit
  | wordPart
  | blank
  | not (inner : CharClass)
  | either (left right : CharClass)
  | both (left right : CharClass)
  | without (left right : CharClass)
  | exactlyOne (left right : CharClass)
  /-- A character counts if one that differs from it in case only does. -/
  | anyCase (inner : CharClass)
  /-- The same for the letters of ASCII alone. -/
  | anyAsciiCase (inner : CharClass)

namespace CharClass

def accepts : CharClass → Char → Bool
  | nothing, _ => false
  | range first last, c => decide (first ≤ c ∧ c ≤ last)
  | category kind, c => kind.contains c
  | decimalDigit, c => isDecimalDigit c
  | wordPart, c => isWordPart c
  | blank, c => isWhitespace c
  | not inner, c => !inner.accepts c
  | either left right, c => left.accepts c || right.accepts c
  | both left right, c => left.accepts c && right.accepts c
  | without left right, c => left.accepts c && !right.accepts c
  | exactlyOne left right, c => left.accepts c != right.accepts c
  | anyCase inner, c => (caseVariants c).any inner.accepts
  | anyAsciiCase inner, c => inner.accepts c || inner.accepts c.toLower || inner.accepts c.toUpper

def all : CharClass := not nothing

def single (c : Char) : CharClass := range c c

def oneOf (classes : List CharClass) : CharClass := classes.foldr either nothing

/-- The ranges that a text spells, each with its first and its last character. -/
def ofPairs : List Char → CharClass
  | first :: last :: rest => either (range first last) (ofPairs rest)
  | _ => nothing

def ofSpelling (pairs : String) : CharClass := ofPairs pairs.toList

/-- The ASCII counterpart of `wordPart`. -/
def asciiWordPart : CharClass := ofSpelling "09AZ__az"

def asciiDigit : CharClass := ofSpelling "09"

def asciiBlank : CharClass := ofSpelling "\t\r  "

def asciiNamed? (name : String) : Option CharClass :=
  match name with
  | "alnum" => some (ofSpelling "09AZaz")
  | "alpha" => some (ofSpelling "AZaz")
  | "ascii" => some (range '\x00' '\x7f')
  | "blank" => some (ofSpelling "\t\t  ")
  | "cntrl" => some (either (range '\x00' '\x1f') (single '\x7f'))
  | "digit" => some asciiDigit
  | "graph" => some (ofSpelling "!~")
  | "lower" => some (ofSpelling "az")
  | "print" => some (ofSpelling " ~")
  | "punct" => some (either (ofSpelling "!/:@") (either (range '[' '\x60') (range '\x7b' '~')))
  | "space" => some asciiBlank
  | "upper" => some (ofSpelling "AZ")
  | "word" => some asciiWordPart
  | "xdigit" => some (ofSpelling "09AFaf")
  | _ => none

end CharClass

end MotorTariff
