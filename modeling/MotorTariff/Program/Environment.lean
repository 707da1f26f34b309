import MotorTariff.Program.Files
import MotorTariff.Text.Alphanumeric
import MotorTariff.Text.Quoted
import MotorTariff.Text.Whitespace

/-!
Environment variables, and the file that adds to them. The file is looked for in the working
directory and then in one directory above another. Each line of it names a variable and its value;
quotes may span lines, a dollar sign stands for another variable, and a number sign starts a
comment. A variable that is set already keeps its value. The first line that cannot be read ends the
reading, and the lines before it count. A value that no variable can have breaks the program off.
-/

set_option autoImplicit false

namespace MotorTariff

abbrev Environment := List (String × String)

/-- A variable that the system refuses to set. -/
structure VariableRefusal where
  name : String
  value : String
  deriving DecidableEq

namespace VariableRefusal

def message (refusal : VariableRefusal) : String :=
  "failed to set environment variable `" ++ Quoted.quote refusal.name ++ "` to `" ++
    Quoted.quote refusal.value ++ "`: " ++ SystemError.zeroInName.message

end VariableRefusal

namespace Environment

def get? (environment : Environment) (name : String) : Option String :=
  (environment.find? fun entry => entry.1 == name).map Prod.snd

/-- Sets a variable unless it is set. No value has a zero in it, since a zero ends a value. -/
def addMissing (environment : Environment) (name value : String) :
    Except VariableRefusal Environment :=
  if (environment.get? name).isSome then .ok environment
  else if '\x00' ∈ value.toList then .error ⟨name, value⟩
  else .ok (environment ++ [(name, value)])

end Environment

namespace EnvironmentFile

inductive Open where
  | nothing
  | blank
  | escape
  | single
  | singleEscape
  | double
  | doubleEscape
  deriving DecidableEq

def singleQuote : Char := '\x27'

def Open.outside (c : Char) : Open :=
  if c = '\\' then .escape else if c = '"' then .double
  else if c = singleQuote then .single else .nothing

/-- The state after a line, or the part of the line before its comment. -/
def scan (state : Open) (before : List Char) : List Char → Except (List Char) Open
  | [] => .ok state
  | c :: rest =>
      let go := fun next => scan next (c :: before) rest
      match state with
      | .blank => if c = '#' then .error before.reverse else go (Open.outside c)
      | .nothing =>
          if isWhitespace c ∧ c ≠ '\n' ∧ c ≠ '\r' then go .blank else go (Open.outside c)
      | .escape => go .nothing
      | .double => go (if c = '\\' then .doubleEscape else if c = '"' then .nothing else .double)
      | .doubleEscape => go .double
      | .single =>
          go (if c = '\\' then .singleEscape else if c = singleQuote then .nothing else .single)
      | .singleEscape => go .single

def dropLineBreak (line : List Char) : List Char :=
  match line.reverse with
  | '\n' :: '\r' :: rest => rest.reverse
  | '\n' :: rest => rest.reverse
  | _ => line

/--
Joins lines that an open quote, escape or blank continues. A line of which nothing is known ends
the reading, and so does the end of the file within a joined line.
-/
def joinLines (begun : List Char) (state : Open) : List (Option (List Char)) → List (List Char)
  | [] => []
  | none :: _ => []
  | some line :: rest =>
      let joined := begun ++ line
      if (trimStart joined).head? = some '#' then [] :: joinLines [] .nothing rest
      else match scan state [] line with
        | .error kept => (begun ++ kept) :: joinLines [] .nothing rest
        | .ok .nothing => dropLineBreak joined :: joinLines [] .nothing rest
        | .ok next => joinLines joined next rest

inductive Mode where
  | plain
  | escaped
  | single
  | reference (name : List Char)
  | braced (name : List Char)
  | ended

/-- The characters that a backslash may stand before, with what they then are. -/
def escaped? (c : Char) : Option Char :=
  if c = '\\' ∨ c = singleQuote ∨ c = '"' ∨ c = '$' ∨ c = ' ' then some c
  else if c = 'n' then some '\n'
  else none

/--
Reads a value; names and the value so far are in reverse, and `double` says whether a double quote
is open. An open quote or brace at the end is an error.
-/
def value (resolve : String → String) (double : Bool) (mode : Mode) (output : List Char) :
    List Char → Option (List Char)
  | [] =>
      match mode with
      | .single | .braced _ => none
      | .reference name =>
          if double then none
          else some (output.reverse ++ (resolve (String.ofList name.reverse)).toList)
      | _ => if double then none else some output.reverse
  | c :: rest =>
      let expand := fun (name : List Char) =>
        (resolve (String.ofList name.reverse)).toList.reverse ++ output
      match mode with
      | .ended =>
          if c = ' ' ∨ c = '\t' then value resolve double .ended output rest
          else if c = '#' then some output.reverse
          else none
      | .escaped => do value resolve double .plain ((← escaped? c) :: output) rest
      | .single =>
          if c = singleQuote then value resolve double .plain output rest
          else value resolve double .single (c :: output) rest
      | .reference name =>
          if isAlphanumeric c then value resolve double (.reference (c :: name)) output rest
          else if c = '\x7b' ∧ name = [] then value resolve double (.braced []) output rest
          else if c = '$' then value resolve double (.reference []) (expand name) rest
          else value resolve double .plain (c :: expand name) rest
      | .braced name =>
          if c = '\x7d' then value resolve double .plain (expand name) rest
          else value resolve double (.braced (c :: name)) output rest
      | .plain =>
          if c = '$' then value resolve double (.reference []) output rest
          else if c = '\\' then value resolve double .escaped output rest
          else if c = '"' then value resolve (!double) .plain output rest
          else if double then value resolve double .plain (c :: output) rest
          else if c = singleQuote then value resolve double .single output rest
          else if c = ' ' ∨ c = '\t' then value resolve double .ended output rest
          else value resolve double .plain (c :: output) rest

def isNameStart (c : Char) : Bool := c.isAlpha || c == '_'

def isNamePart (c : Char) : Bool := c.isAlphanum || c == '_' || c == '.'

def name? (chars : List Char) : Option (List Char × List Char) :=
  match chars with
  | [] => none
  | c :: _ =>
      if isNameStart c then
        some (chars.takeWhile isNamePart, trimStart (chars.dropWhile isNamePart))
      else none

/-- A name and the text after its equals sign; the word `export` may stand before the name. -/
def assignment? (chars : List Char) : Option (List Char × List Char) := do
  let (name, rest) ← name? chars
  match rest with
  | '=' :: text => some (name, trimStart text)
  | _ =>
      if name = "export".toList then
        match ← name? rest with
        | (name, '=' :: text) => some (name, trimStart text)
        | _ => none
      else none

/-- What a line assigns, if it is not blank or a comment; nothing if it cannot be read. -/
def readLine (environment : Environment) (line : List Char) : Option (Option (String × String)) :=
  let line := trimStart (trimEnd line)
  if line = [] ∨ line.head? = some '#' then some none
  else do
    let (name, text) ← assignment? line
    let resolve := fun name => (environment.get? name).getD ""
    let content ←
      if text.head? = some '#' then some [] else value resolve false .plain [] text
    return some (String.ofList name, String.ofList content)

/-- The environment after the lines up to the first that cannot be read. -/
def addLines (environment : Environment) :
    List (List Char) → Except VariableRefusal Environment
  | [] => .ok environment
  | line :: rest =>
      match readLine environment line with
      | none => .ok environment
      | some none => addLines environment rest
      | some (some (name, content)) => do
          addLines (← environment.addMissing name content) rest

def cutLines (begun : Bytes) : Bytes → List Bytes
  | [] => if begun = [] then [] else [begun.reverse]
  | b :: rest =>
      if b = 0x0a then (b :: begun).reverse :: cutLines [] rest else cutLines (b :: begun) rest

/-- A byte order mark at the front of a file does not count. -/
def dropMark : Bytes → Bytes
  | 0xef :: 0xbb :: 0xbf :: rest => rest
  | bytes => bytes

def load (environment : Environment) (file : Bytes) : Except VariableRefusal Environment :=
  let lines := (cutLines [] (dropMark file)).map fun line => (Utf8.decode line).toOption
  addLines environment (joinLines [] .nothing lines)

def fileName : String := ".env"

/-- A path, and then the same path from each of so many directories above. -/
def candidates (path : String) : Nat → List String
  | 0 => [path]
  | above + 1 => path :: candidates ("../" ++ path) above

/-- Whether an opening has come upon nothing or a directory. -/
def isNoFile : Opening → Bool
  | .refused .notFound => true
  | .unreadable .isDirectory => true
  | _ => false

/-- The contents of the first file among paths; nothing if it does not open or cannot be read. -/
def find? (files : Files) : List String → Option Bytes
  | [] => none
  | path :: further =>
      if isNoFile (files path) then find? files further
      else match files path with
        | .contents bytes => some bytes
        | _ => none

end EnvironmentFile

end MotorTariff
