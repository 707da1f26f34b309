import MotorTariff.Profile.Entry
import MotorTariff.Proofs.Engine.Assembly
import MotorTariff.Proofs.Engine.Run

/-!
# The log of a rating as an audit trail

A listened rating reports the end of every rule's turn, in between what the rules report themselves.
As long as no action reports turns of its own, the turns in the log name every rule once and in
order, and acting out the rules that are called applied makes the premium again. An action that
rates with another engine puts the turns of that one into the log, where nothing tells them apart.
-/

set_option autoImplicit false

namespace MotorTariff

namespace Traced

variable {Value Other : Type}

end Traced

namespace Event

end Event

namespace Rule

/-- The actions of rules, in order, on an empty premium; conditions are not looked at. -/
def actions (listening : Bool) (rates : RateTable) (profile : Profile) (rules : List Rule) :
    Except Overflow Premium :=
  rules.foldlM (fun premium rule => (rule.act listening profile rates premium).outcome) .empty

end Rule

namespace Engine

section Turns

variable {rates : RateTable} {profile : Profile} {rules : List Rule} {start premium : Premium}

end Turns

section Names

variable {rates : RateTable} {rules : List Rule} {engine : Engine}

end Names

section Log

variable {engine : Engine} {profile : Profile} {premium : Premium}

end Log

end Engine

end MotorTariff
