import MotorTariff.Pattern.Class

/-!
Patterns for texts: characters of classes and places between them, one after the other, as
alternatives, or repeated. Alternatives have an order of preference, and so has the number of
repetitions.
-/

set_option autoImplicit false

namespace MotorTariff

inductive Boundary where
  | start
  | finish
  | lineStart
  | lineFinish
  /-- Lines of which a carriage return, with or without a line feed, may be the end. -/
  | anyLineStart
  | anyLineFinish
  | wordEdge
  | noWordEdge
  | wordStart
  | wordFinish

namespace Boundary

def isWord (c : Option Char) : Bool := c.any CharClass.asciiWordPart.accepts

/-- Whether a boundary lies between two characters; beyond an end of the text there is none. -/
def isBetween (boundary : Boundary) (before after : Option Char) : Bool :=
  match boundary with
  | start => before == none
  | finish => after == none
  | lineStart => before == none || before == some '\n'
  | lineFinish => after == none || after == some '\n'
  | anyLineStart =>
      before == none || before == some '\n' || (before == some '\r' && after != some '\n')
  | anyLineFinish =>
      after == none || after == some '\r' || (after == some '\n' && before != some '\r')
  | wordEdge => isWord before != isWord after
  | noWordEdge => isWord before == isWord after
  | wordStart => !isWord before && isWord after
  | wordFinish => isWord before && !isWord after

end Boundary

inductive Pattern where
  | nothing
  | boundary (kind : Boundary)
  | one (accepted : CharClass)
  | sequence (first second : Pattern)
  /-- The first alternative is preferred. -/
  | choice (first second : Pattern)
  /-- With preference for the inner pattern if `greedy`, and against it otherwise. -/
  | optional (greedy : Bool) (inner : Pattern)
  /-- As often as possible if `greedy`, and as rarely as possible otherwise. -/
  | repeated (greedy : Bool) (inner : Pattern)

namespace Pattern

def ofAlternatives : List Pattern → Pattern
  | [] => nothing
  | [pattern] => pattern
  | first :: rest => choice first (ofAlternatives rest)

def ofSequence : List Pattern → Pattern
  | [] => nothing
  | [pattern] => pattern
  | first :: rest => sequence first (ofSequence rest)

end Pattern

end MotorTariff
