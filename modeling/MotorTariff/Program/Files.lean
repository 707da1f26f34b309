import MotorTariff.Text.Utf8

/-!
Files as the program meets them: opening a path gives contents, an error, or a directory, which
opens and cannot be read.
-/

set_option autoImplicit false

namespace MotorTariff

/-- An error of the operating system, or a path that cannot be handed to it. -/
inductive SystemError where
  | zeroInName
  | notFound
  | notDirectory
  | isDirectory
  | nameTooLong
  | other (description : String) (code : Nat)
  deriving DecidableEq, Repr

namespace SystemError

def description : SystemError → String
  | zeroInName => "file name contained an unexpected NUL byte"
  | notFound => "No such file or directory"
  | notDirectory => "Not a directory"
  | isDirectory => "Is a directory"
  | nameTooLong => "File name too long"
  | other description _ => description

/-- The number of an error that the operating system itself has found. -/
def code? : SystemError → Option Nat
  | zeroInName => none
  | notFound => some 2
  | notDirectory => some 20
  | isDirectory => some 21
  | nameTooLong => some 36
  | other _ code => some code

def message (error : SystemError) : String :=
  match error.code? with
  | some code => error.description ++ " (os error " ++ toString code ++ ")"
  | none => error.description

end SystemError

inductive Opening where
  | contents (bytes : Bytes)
  | refused (error : SystemError)
  | unreadable (error : SystemError)

abbrev Files := String → Opening

namespace Path

def parts (path : String) : List (List Char) := path.toList.splitOn '/'

/-- Whether a path is a single dash. A slash at its end, or a dot after one, changes nothing. -/
def isDash (path : String) : Bool :=
  match parts path with
  | [] => false
  | first :: rest => first == ['-'] && rest.all fun part => part == [] || part == ['.']

end Path

end MotorTariff
