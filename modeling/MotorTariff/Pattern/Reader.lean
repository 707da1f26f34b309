import MotorTariff.Pattern.Basic
import MotorTariff.Text.Alphanumeric

/-!
Patterns as text. Characters stand for themselves, apart from those that group, repeat, escape and
name classes. A group, or the rest of one, may have modes of its own. A pattern is refused if its
parts are nested too deeply, and so are the edges of words of all scripts.
-/

set_option autoImplicit false

namespace MotorTariff

namespace Pattern

structure Modes where
  /-- Letters stand for those that differ from them in case only. -/
  anyCase : Bool
  /-- `^` and `$` stand for the ends of lines as well. -/
  lines : Bool
  /-- The dot stands for the ends of lines as well. -/
  dotAll : Bool
  /-- A carriage return may end a line. -/
  anyLineEnd : Bool
  /-- Repetitions are reluctant, and greedy if marked. -/
  reluctant : Bool
  /-- Classes are those of ASCII alone. -/
  ascii : Bool
  /-- White space does not count, nor does what follows a number sign on its line. -/
  spaced : Bool

namespace Modes

def standard : Modes := ⟨false, false, false, false, false, false, false⟩

def turn? (modes : Modes) (on : Bool) (letter : Char) : Option Modes :=
  match letter with
  | 'i' => some { modes with anyCase := on }
  | 'm' => some { modes with lines := on }
  | 's' => some { modes with dotAll := on }
  | 'R' => some { modes with anyLineEnd := on }
  | 'U' => some { modes with reluctant := on }
  | 'u' => some { modes with ascii := !on }
  | 'x' => some { modes with spaced := on }
  | _ => none

def dropBlanks (inComment : Bool) : List Char → List Char
  | [] => []
  | c :: rest =>
      if inComment then dropBlanks (c != '\n') rest
      else if isWhitespace c then dropBlanks false rest
      else if c = '#' then dropBlanks true rest
      else c :: rest

def skip (modes : Modes) (chars : List Char) : List Char :=
  if modes.spaced then dropBlanks false chars else chars

/-- The next character that counts, except that one that follows a number sign does, too. -/
def peek (modes : Modes) (chars : List Char) : Option Char :=
  if modes.spaced then
    match trimStart chars with
    | '#' :: rest => (trimStart rest).head?
    | rest => rest.head?
  else chars.head?

/--
A class with the cases of its letters. It is enough to take the least parts of a class so, because
unions, complements and other combinations of such classes are such classes.
-/
def fold (modes : Modes) (accepted : CharClass) : CharClass :=
  if !modes.anyCase then accepted
  else if modes.ascii then .anyAsciiCase accepted
  else .anyCase accepted

/-- All characters that are not in a class. There are none of them where classes are ASCII. -/
def negate? (modes : Modes) (negative : Bool) (accepted : CharClass) : Option CharClass :=
  if !negative then some accepted
  else if modes.ascii then none
  else some (.not accepted)

def literal (modes : Modes) (c : Char) : CharClass := modes.fold (.single c)

/-- What the dot stands for. It has no ASCII counterpart. -/
def dot? (modes : Modes) : Option CharClass :=
  if modes.ascii then none
  else if modes.dotAll then some .all
  else if modes.anyLineEnd then some (.not (.either (.single '\n') (.single '\r')))
  else some (.not (.single '\n'))

def lineStart (modes : Modes) : Boundary :=
  if !modes.lines then .start else if modes.anyLineEnd then .anyLineStart else .lineStart

def lineFinish (modes : Modes) : Boundary :=
  if !modes.lines then .finish else if modes.anyLineEnd then .anyLineFinish else .lineFinish

end Modes

/-! Escapes -/

inductive Escaped where
  | literal (c : Char)
  | accepted (accepted : CharClass)
  | boundary (kind : Boundary)

def readHexadecimal (modes : Modes) (count code : Nat) (chars : List Char) :
    Option (Nat × List Char) :=
  match count with
  | 0 => some (code, chars)
  | count + 1 =>
      match modes.skip chars with
      | [] => none
      | c :: rest =>
          if c.isDigit then readHexadecimal modes count (code * 16 + (c.toNat - 48)) rest
          else if 'a' ≤ c.toLower ∧ c.toLower ≤ 'f' then
            readHexadecimal modes count (code * 16 + (c.toLower.toNat - 87)) rest
          else none

/-- A character by its code point. A byte above ASCII is none, if two digits mean a byte. -/
def readCode (modes : Modes) (count : Nat) (chars : List Char) :
    Option (Escaped × List Char) := do
  let (code, rest) ← readHexadecimal modes count 0 chars
  if modes.ascii && count == 2 && decide (0x7f < code) then none
  else if code.isValidChar then some (.literal (Char.ofNat code), rest)
  else none

def namedClass? (modes : Modes) (letter : Char) : Option CharClass := do
  let accepted ← match letter.toLower with
    | 'd' => some (if modes.ascii then .asciiDigit else CharClass.decimalDigit)
    | 's' => some (if modes.ascii then .asciiBlank else CharClass.blank)
    | 'w' => some (if modes.ascii then .asciiWordPart else CharClass.wordPart)
    | _ => none
  modes.negate? letter.isUpper accepted

def namedBoundary? (modes : Modes) (letter : Char) : Option Boundary :=
  match letter with
  | 'A' => some .start
  | 'z' => some .finish
  | _ =>
      if !modes.ascii then none
      else match letter with
        | 'b' => some .wordEdge
        | 'B' => some .noWordEdge
        | '<' => some .wordStart
        | '>' => some .wordFinish
        | _ => none

def namedControl? (letter : Char) : Option Char :=
  match letter with
  | 'a' => some '\x07'
  | 'f' => some '\x0c'
  | 'n' => some '\n'
  | 'r' => some '\r'
  | 't' => some '\t'
  | 'v' => some '\x0b'
  | _ => none

/-- What follows a backslash. ASCII characters but letters and digits can stand for themselves. -/
def readEscape (modes : Modes) : List Char → Option (Escaped × List Char)
  | [] => none
  | 'x' :: rest => readCode modes 2 rest
  | 'u' :: rest => readCode modes 4 rest
  | 'U' :: rest => readCode modes 8 rest
  | letter :: rest =>
      if letter.toLower = 'p' then
        match modes.skip rest with
        | [] => none
        | name :: rest => do
            if modes.ascii then none
            else
              let accepted := modes.fold (.category (← Category.ofLetter? name))
              return (.accepted (← modes.negate? letter.isUpper accepted), rest)
      else if let some accepted := namedClass? modes letter then some (.accepted accepted, rest)
      else if let some kind := namedBoundary? modes letter then some (.boundary kind, rest)
      else if let some control := namedControl? letter then some (.literal control, rest)
      else if letter.isAlphanum ∨ 0x7f < letter.toNat ∨ letter = '<' ∨ letter = '>' then none
      else some (.literal letter, rest)

/-! Classes in brackets -/

structure ReadClass where
  accepted : CharClass
  height : Nat

namespace ReadClass

def ofMembers : List ReadClass → ReadClass
  | [] => ⟨.nothing, 0⟩
  | [member] => member
  | members =>
      ⟨.oneOf (members.map ReadClass.accepted),
        members.foldl (fun height member => max height member.height) 0 + 1⟩

end ReadClass

inductive SetOperation where
  | intersection
  | difference
  | symmetricDifference

namespace SetOperation

def combine (operation : SetOperation) (left right : CharClass) : CharClass :=
  match operation with
  | intersection => .both left right
  | difference => .without left right
  | symmetricDifference => .exactlyOne left right

end SetOperation

def combineSets (before : Option (ReadClass × SetOperation)) (set : ReadClass) : ReadClass :=
  match before with
  | none => set
  | some (left, operation) =>
      ⟨operation.combine left.accepted set.accepted, max left.height set.height + 1⟩

def readAsciiClass (chars : List Char) : Option (CharClass × Bool × List Char) :=
  match chars with
  | ':' :: rest =>
      let (negative, rest) := match rest with
        | '^' :: rest => (true, rest)
        | rest => (false, rest)
      match CharClass.asciiNamed? (String.ofList (rest.takeWhile (· != ':'))),
        rest.dropWhile (· != ':') with
      | some accepted, ':' :: ']' :: rest => some (accepted, negative, rest)
      | _, _ => none
  | _ => none

def readMember (modes : Modes) : List Char → Option (Escaped × List Char)
  | [] => none
  | '\\' :: rest => readEscape modes rest
  | c :: rest => some (.literal c, rest)

/-- A character within a class of ASCII characters is one of them. -/
def memberChar? (modes : Modes) (escaped : Escaped) : Option Char :=
  match escaped with
  | .literal c => if modes.ascii && decide (0x7f < c.toNat) then none else some c
  | _ => none

def readRange (modes : Modes) (chars : List Char) : Option (CharClass × List Char) := do
  let (first, rest) ← readMember modes chars
  let single := match first with
    | .accepted accepted => some accepted
    | first => (memberChar? modes first).map modes.literal
  match modes.skip rest with
  | [] => none
  | '-' :: after =>
      if modes.peek after = some ']' ∨ modes.peek after = some '-' then
        return (← single, '-' :: after)
      else
        let (last, rest) ← readMember modes (modes.skip after)
        let first ← memberChar? modes first
        let last ← memberChar? modes last
        if first ≤ last then some (modes.fold (.range first last), rest) else none
  | rest => return (← single, rest)

/-- The dashes at the beginning of a class, as its members; the last one is the first here. -/
def readDashes (modes : Modes) (members : List ReadClass) :
    Nat → List Char → List ReadClass × List Char
  | 0, chars => (members, chars)
  | fuel + 1, chars =>
      match modes.skip chars with
      | '-' :: rest => readDashes modes (⟨.single '-', 0⟩ :: members) fuel rest
      | chars => (members, chars)

def openClass (modes : Modes) (chars : List Char) : Bool × List ReadClass × List Char :=
  let (negative, rest) := match modes.skip chars with
    | '^' :: rest => (true, rest)
    | rest => (false, rest)
  let (members, rest) := readDashes modes [] rest.length rest
  match members, rest with
  | [], ']' :: rest => (negative, [⟨.single ']', 0⟩], rest)
  | members, rest => (negative, members, rest)

/--
The rest of a class up to its closing bracket. Each step takes a character, so `fuel` is at most
the number of characters.
-/
def readClass (modes : Modes) (negative : Bool) (before : Option (ReadClass × SetOperation))
    (members : List ReadClass) : Nat → List Char → Option (ReadClass × List Char)
  | 0, _ => none
  | fuel + 1, chars => do
      let operate := fun (operation : SetOperation) rest =>
        let left := combineSets before (.ofMembers members)
        readClass modes negative (some (left, operation)) [] fuel rest
      match modes.skip chars with
      | [] => none
      | ']' :: rest =>
          let set := combineSets before (.ofMembers members)
          let accepted ← modes.negate? negative set.accepted
          return (⟨accepted, set.height + 1⟩, rest)
      | '[' :: rest =>
          match readAsciiClass rest with
          | some (accepted, isNegative, rest) =>
              let accepted ← modes.negate? isNegative (modes.fold accepted)
              readClass modes negative before (⟨accepted, 0⟩ :: members) fuel rest
          | none =>
              let (innerNegative, innerMembers, rest) := openClass modes rest
              let (inner, rest) ← readClass modes innerNegative none innerMembers fuel rest
              readClass modes negative before (inner :: members) fuel rest
      | '&' :: '&' :: rest => operate .intersection rest
      | '-' :: '-' :: rest => operate .difference rest
      | '~' :: '~' :: rest => operate .symmetricDifference rest
      | chars =>
          let (accepted, rest) ← readRange modes chars
          readClass modes negative before (⟨accepted, 0⟩ :: members) fuel rest

/-! Groups and sequences -/

/-- A part of a pattern, how deeply its parts are nested, and whether it can be repeated. -/
structure Piece where
  pattern : Pattern
  height : Nat
  repeatable : Bool

namespace Piece

/-- Pieces one after the other, the last one first. A single one is no nesting of its own. -/
def ofSequence : List Piece → Piece
  | [] => ⟨.nothing, 0, false⟩
  | [piece] => piece
  | pieces =>
      ⟨.ofSequence (pieces.reverse.map Piece.pattern),
        pieces.foldl (fun height piece => max height piece.height) 0 + 1, true⟩

def ofAlternatives : List Piece → Piece
  | [] => ⟨.nothing, 0, false⟩
  | [piece] => piece
  | pieces =>
      ⟨.ofAlternatives (pieces.reverse.map Piece.pattern),
        pieces.foldl (fun height piece => max height piece.height) 0 + 1, true⟩

end Piece

def readModes (modes : Modes) (on : Bool) (letters : List Char) :
    List Char → Option (Modes × Char × List Char × List Char)
  | [] => none
  | c :: rest =>
      if c = ':' ∨ c = ')' then
        if letters.head? = some '-' then none else some (modes, c, letters, rest)
      else if c ∈ letters then none
      else if c = '-' then readModes modes false (c :: letters) rest
      else do readModes (← modes.turn? on c) on (c :: letters) rest

def startsName (c : Char) : Bool :=
  c == '_' || isAlphanumeric c && (!numberRanges.contains c || letterNumberRanges.contains c)

def continuesName (c : Char) : Bool :=
  c == '_' || c == '.' || c == '[' || c == ']' || isAlphanumeric c

/-- The name of a group, which no group before has, up to its closing angle. -/
def readName (names : List (List Char)) (chars : List Char) :
    Option (List (List Char) × List Char) :=
  let name := chars.takeWhile (· != '>')
  match name, chars.dropWhile (· != '>') with
  | first :: others, '>' :: rest =>
      if startsName first && others.all continuesName && !names.contains name then
        some (name :: names, rest)
      else none
  | _, _ => none

inductive Opening where
  | group (modes : Modes) (names : List (List Char)) (rest : List Char)
  | turn (modes : Modes) (rest : List Char)

def readOpening (modes : Modes) (names : List (List Char)) (chars : List Char) :
    Option Opening :=
  match modes.skip chars with
  | '?' :: 'P' :: '<' :: rest => do
      let (names, rest) ← readName names rest
      return .group modes names rest
  | '?' :: '<' :: rest => do
      let (names, rest) ← readName names rest
      return .group modes names rest
  | '?' :: rest => do
      let (inner, last, letters, rest) ← readModes modes true [] rest
      if last = ':' then return .group inner names rest
      else if letters = [] then none
      else return .turn inner rest
  | rest => some (.group modes names rest)

def readMark (modes : Modes) (mark : Char) (piece : Piece) (chars : List Char) :
    Option (Piece × List Char) :=
  let (greedy, rest) := match chars with
    | '?' :: rest => (modes.reluctant, rest)
    | rest => (!modes.reluctant, rest)
  let pattern := match mark with
    | '?' => Pattern.optional greedy piece.pattern
    | '*' => Pattern.optional greedy (.repeated greedy piece.pattern)
    | _ => Pattern.repeated greedy piece.pattern
  if piece.repeatable then some (⟨pattern, piece.height + 1, true⟩, rest) else none

def readAtom (modes : Modes) : List Char → Option (Pattern × List Char)
  | [] => none
  | '.' :: rest => do return (.one (← modes.dot?), rest)
  | '^' :: rest => some (.boundary modes.lineStart, rest)
  | '$' :: rest => some (.boundary modes.lineFinish, rest)
  | '\\' :: rest => do
      let (escaped, rest) ← readEscape modes rest
      return (match escaped with
        | .literal c => .one (modes.literal c)
        | .accepted accepted => .one accepted
        | .boundary kind => .boundary kind, rest)
  | c :: rest => some (.one (modes.literal c), rest)

/--
Alternatives up to the end or a closing parenthesis, with what follows: `done` holds the finished
alternatives and `pieces` those of the current one, the last one first. Each step takes a
character, so `fuel` is at most the number of characters.
-/
def read (modes : Modes) (names : List (List Char)) (done pieces : List Piece) :
    Nat → List Char → Option (Piece × List (List Char) × List Char)
  | 0, _ => none
  | fuel + 1, chars => do
      match modes.skip chars with
      | [] => return (.ofAlternatives (.ofSequence pieces :: done), names, [])
      | ')' :: rest =>
          return (.ofAlternatives (.ofSequence pieces :: done), names, ')' :: rest)
      | '|' :: rest => read modes names (.ofSequence pieces :: done) [] fuel rest
      | '(' :: rest =>
          match ← readOpening modes names rest with
          | .turn modes rest => read modes names done (⟨.nothing, 0, false⟩ :: pieces) fuel rest
          | .group inner innerNames rest =>
              let (group, names, rest) ← read inner innerNames [] [] fuel rest
              match rest with
              | ')' :: rest =>
                  let piece := ⟨group.pattern, group.height + 1, true⟩
                  read modes names done (piece :: pieces) fuel rest
              | _ => none
      | '[' :: rest =>
          let (negative, members, rest) := openClass modes rest
          let (set, rest) ← readClass modes negative none members fuel rest
          read modes names done (⟨.one set.accepted, set.height, true⟩ :: pieces) fuel rest
      | '\x7b' :: _ => none
      | c :: rest =>
          if c = '?' ∨ c = '*' ∨ c = '+' then
            match pieces with
            | [] => none
            | piece :: pieces =>
                let (piece, rest) ← readMark modes c piece rest
                read modes names done (piece :: pieces) fuel rest
          else
            let (atom, rest) ← readAtom modes (c :: rest)
            read modes names done (⟨atom, 0, true⟩ :: pieces) fuel rest

def deepest : Nat := 250

def ofChars? (chars : List Char) : Option Pattern :=
  match read .standard [] [] [] (chars.length + 1) chars with
  | some (piece, _, []) => if piece.height ≤ deepest then some piece.pattern else none
  | _ => none

end Pattern

end MotorTariff
