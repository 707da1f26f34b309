import MotorTariff.Premium.Basic

/-!
Command-line arguments: at most one path, `--format` with a value, `--show-rates`, help and
version. Words are taken from left to right. A path and the value of `--format` wait until the
next known word, or the end, before they are checked.
-/

set_option autoImplicit false

namespace MotorTariff

structure Arguments where
  profile : Option String
  format : Option OutputFormat
  showRates : Bool
  deriving DecidableEq

inductive UsageError where
  | invalidValue
  | unknownArgument
  | argumentConflict
  | tooManyValues
  deriving DecidableEq, Repr

inductive EarlyExit where
  | help
  | version
  | usage (error : UsageError)
  deriving DecidableEq, Repr

def EarlyExit.status : EarlyExit → Nat
  | help => 0
  | version => 0
  | usage _ => 2

namespace Arguments

def none : Arguments := ⟨.none, .none, false⟩

inductive Pending where
  | nothing
  | format (value : Option String)
  | profile (path : String)

structure Scan where
  arguments : Arguments
  pending : Pending

def refuse {Value : Type} (error : UsageError) : Except EarlyExit Value := .error (.usage error)

/-- Takes a value of `--format`. A second one is a conflict, whatever it is. -/
def setFormat (arguments : Arguments) (value : String) : Except EarlyExit Arguments :=
  if arguments.format.isSome then refuse .argumentConflict
  else match OutputFormat.all.find? fun format => format.name == value with
    | some format => .ok { arguments with format := some format }
    | .none => refuse .invalidValue

def settle (scan : Scan) : Except EarlyExit Arguments :=
  match scan.pending with
  | .nothing => .ok scan.arguments
  | .format .none => refuse .invalidValue
  | .format (some value) => setFormat scan.arguments value
  | .profile path =>
      if path.isEmpty then refuse .invalidValue
      else .ok { scan.arguments with profile := some path }

/-- A path. A second one is unknown. -/
def takePath (scan : Scan) (path : String) : Except EarlyExit Scan :=
  let named := match scan.pending with
    | .profile _ => true
    | _ => scan.arguments.profile.isSome
  if named then refuse .unknownArgument
  else do return ⟨← settle scan, .profile path⟩

/-- A flag of one letter, or several of them behind one dash: the first letter settles all. -/
def takeLetters (scan : Scan) : List Char → Except EarlyExit Scan
  | 'h' :: _ => do let _ ← settle scan; .error .help
  | 'V' :: _ => do let _ ← settle scan; .error .version
  | _ => refuse .unknownArgument

def takeOption (scan : Scan) (name : List Char) (attached : Option (List Char)) :
    Except EarlyExit Scan :=
  if name = "format".toList then do
    let arguments ← settle scan
    match attached with
    | some value => return ⟨← setFormat arguments (String.ofList value), .nothing⟩
    | .none => return ⟨arguments, .format .none⟩
  else if name = "show-rates".toList ∨ name = "help".toList ∨ name = "version".toList then
    if attached.isSome then refuse .tooManyValues
    else do
      let arguments ← settle scan
      if name = "help".toList then .error .help
      else if name = "version".toList then .error .version
      else if arguments.showRates then refuse .argumentConflict
      else return ⟨{ arguments with showRates := true }, .nothing⟩
  else refuse .unknownArgument

/-- A word that is no option: the value that `--format` waits for, or a path. -/
def takeWord (scan : Scan) (word : String) : Except EarlyExit Scan :=
  match scan.pending with
  | .format .none => .ok { scan with pending := .format (some word) }
  | _ => takePath scan word

def splitAttached (word : List Char) : List Char × Option (List Char) :=
  match word.dropWhile (· != '=') with
  | [] => (word, .none)
  | _ :: value => (word.takeWhile (· != '='), some value)

def takeArgument (scan : Scan) (word : String) : Except EarlyExit Scan :=
  match word.toList with
  | '-' :: '-' :: rest =>
      let (name, attached) := splitAttached rest
      takeOption scan name attached
  | '-' :: c :: rest => takeLetters scan (c :: rest)
  | _ => takeWord scan word

/-- Takes all words; after two dashes every word is a path. -/
def takeAll (scan : Scan) : List String → Except EarlyExit Arguments
  | [] => settle scan
  | word :: rest =>
      if word = "--" then do
        settle (← rest.foldlM takePath scan)
      else do takeAll (← takeArgument scan word) rest

def ofWords (words : List String) : Except EarlyExit Arguments := takeAll ⟨none, .nothing⟩ words

end Arguments

end MotorTariff
