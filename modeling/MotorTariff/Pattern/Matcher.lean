import MotorTariff.Pattern.Basic

/-!
Patterns as lists of instructions, which are followed at many addresses at a time. The addresses
are in order of preference and differ, so that a character costs no more than all instructions. A
text matches if its first part that fits, taken in the preferred way, reaches the end.
-/

set_option autoImplicit false

namespace MotorTariff

/-- One step of a matcher, after which the next address follows unless others are given. -/
inductive Instruction where
  | take (accepted : CharClass)
  | check (boundary : Boundary)
  /-- The first address is preferred. -/
  | fork (first second : Nat)
  | jump (target : Nat)
  | done

abbrev Matcher := Array Instruction

namespace Pattern

def fork (greedy : Bool) (inner outer : Nat) : Instruction :=
  if greedy then .fork inner outer else .fork outer inner

/-- The instructions of a pattern that begins at an address; control leaves them at their end. -/
def instructions : Pattern → Nat → List Instruction
  | nothing, _ => []
  | boundary kind, _ => [.check kind]
  | one accepted, _ => [.take accepted]
  | sequence first second, address =>
      let before := instructions first address
      before ++ instructions second (address + before.length)
  | choice first second, address =>
      let left := instructions first (address + 1)
      let right := instructions second (address + left.length + 2)
      .fork (address + 1) (address + left.length + 2) :: left ++
        .jump (address + left.length + right.length + 2) :: right
  | optional greedy inner, address =>
      let body := instructions inner (address + 1)
      fork greedy (address + 1) (address + body.length + 1) :: body
  | repeated greedy inner, address =>
      let body := instructions inner address
      body ++ [fork greedy address (address + body.length + 1)]

/-- The address at which characters before the part that fits are taken. -/
def skipping : Nat := 1

def beginning : Nat := 3

/-- The instructions that look for a pattern, at an early place rather than at a later one. -/
def toMatcher (pattern : Pattern) : Matcher :=
  (.fork beginning skipping :: .take .all :: .jump 0 ::
    (instructions pattern beginning ++ [.done])).toArray

end Pattern

namespace Matcher

/--
The addresses that control reaches from one without taking a character, the last one first, before
those that it has reached already. Each of them is followed once, so `fuel` need not exceed the
number of instructions.
-/
def follow (matcher : Matcher) (before after : Option Char) :
    Nat → Nat → List Nat → List Nat
  | 0, _, reached => reached
  | fuel + 1, address, reached =>
      if address ∈ reached then reached
      else
        let visited := address :: reached
        match matcher[address]? with
        | some (.check boundary) =>
            if boundary.isBetween before after then
              follow matcher before after fuel (address + 1) visited
            else visited
        | some (.fork first second) =>
            follow matcher before after fuel second
              (follow matcher before after fuel first visited)
        | some (.jump target) => follow matcher before after fuel target visited
        | _ => visited

def reach (matcher : Matcher) (before after : Option Char) (address : Nat)
    (reached : List Nat) : List Nat :=
  follow matcher before after (matcher.size + 1) address reached

def isDone (matcher : Matcher) (address : Nat) : Bool :=
  match matcher[address]? with
  | some .done => true
  | _ => false

/--
The places of control after a character, the last one first. Where one is done, those that are
preferred less are given up.
-/
def advance (matcher : Matcher) (c : Char) (after : Option Char) :
    List Nat → List Nat → List Nat
  | [], reached => reached
  | address :: rest, reached =>
      match matcher[address]? with
      | some .done => reached
      | some (.take accepted) =>
          advance matcher c after rest
            (if accepted.accepts c then matcher.reach (some c) after (address + 1) reached
            else reached)
      | _ => advance matcher c after rest reached

/--
Whether the pattern fits the empty text between the bytes of a character. Then a search ends
there that has found nothing before.
-/
def fitsWithin (matcher : Matcher) (c : Char) : Bool :=
  decide (0x80 ≤ c.toNat) &&
    (matcher.reach (some c) (some c) Pattern.beginning []).any matcher.isDone

def run (matcher : Matcher) (places : List Nat) : List Char → Bool
  | [] => places.any matcher.isDone
  | c :: rest =>
      let places :=
        if matcher.fitsWithin c then places.filter (· != Pattern.skipping) else places
      run matcher (matcher.advance c rest.head? places []).reverse rest

def isMatch (matcher : Matcher) (chars : List Char) : Bool :=
  matcher.run (matcher.reach none chars.head? 0 []).reverse chars

end Matcher

def Pattern.isMatch (pattern : Pattern) (text : String) : Bool :=
  pattern.toMatcher.isMatch text.toList

end MotorTariff
