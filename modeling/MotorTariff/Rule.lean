import MotorTariff.Event
import MotorTariff.Profile.Basic

/-!
Pricing rules. A rule has a name, says how it depends on the base rate, and pairs a condition on
the profile with an action on the premium. An action can find out whether somebody listens to the
reports, say by rating with an engine of its own. The standard rules set the base rate from the
vehicle, scale it by the age factor and add a surcharge for accidents, whoever listens.
-/

set_option autoImplicit false

namespace MotorTariff

inductive Dependency where
  | independent
  | setsBaseRate
  | readsBaseRate
  deriving DecidableEq, Repr

structure Rule where
  name : String
  dependency : Dependency
  applies : Profile → Bool
  act : (listening : Bool) → Profile → RateTable → Premium → Traced Premium

namespace Rule

def ageFactorLabel : String := "Age factor"

def accidentHistoryLabel : String := "Accident history"

def baseRate : Rule where
  name := "base rate"
  dependency := .setsBaseRate
  applies _ := true
  act _ profile rates premium := do
    let category := VehicleCategory.classify profile.make profile.model
    let rate := rates.baseRate category
    Traced.report (.vehicleClassified category rate)
    return premium.setBaseRate rate

/-- The base rate times one less than the factor, which is nothing for the standard bracket. -/
def ageAdjustment (baseRate : Money) (factor : Decimal) : Except Overflow Money := do
  baseRate.multiply (← Overflow.require .decimalSubtraction (factor.sub? .one))

/-- Adds the age adjustment, also when it is zero. -/
def ageFactor : Rule where
  name := "age factor"
  dependency := .readsBaseRate
  applies _ := true
  act _ profile rates premium := do
    let bracket := AgeBracket.ofAge profile.age
    let factor := rates.ageFactor bracket
    let adjustment ← Traced.silent (ageAdjustment premium.baseRate factor)
    Traced.report (.bracketResolved bracket factor)
    return premium.addAdjustment ageFactorLabel adjustment bracket.rationale

/-- Adds the surcharge of the accident tier; a clean record has none. -/
def accidentHistory : Rule where
  name := "accident history"
  dependency := .independent
  applies profile := decide (0 < profile.accidents)
  act _ profile rates premium :=
    let tier := AccidentTier.ofCount profile.accidents
    match tier.rationale? with
    | some rationale =>
        return premium.addAdjustment accidentHistoryLabel (rates.accidentSurcharge tier) rationale
    | none => return premium

def standard : List Rule := [baseRate, ageFactor, accidentHistory]

end Rule

end MotorTariff
