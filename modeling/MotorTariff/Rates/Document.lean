import MotorTariff.Json.Choice
import MotorTariff.Json.Record
import MotorTariff.Rates.Basic

/-!
Rate tables as documents, and the names of categories, brackets and tiers in documents.
-/

set_option autoImplicit false

namespace MotorTariff

open Json (Choice Form RecordForm)

def VehicleCategory.choice : Choice VehicleCategory := ⟨all, name⟩

def AgeBracket.choice : Choice AgeBracket := ⟨all, name⟩

def AccidentTier.choice : Choice AccidentTier := ⟨all, name⟩

namespace RateTable

def baseRatesRecord : RecordForm VehicleCategory BaseRates where
  title := "BaseRates"
  keys := VehicleCategory.all
  mem_keys := VehicleCategory.mem_all
  label
    | .sedan => "sedan"
    | .suv => "suv"
    | .luxury => "luxury"
    | .sports => "sports"
  Value _ := Money
  form _ := Form.money
  get rates
    | .sedan => rates.sedan
    | .suv => rates.suv
    | .luxury => rates.luxury
    | .sports => rates.sports
  make value :=
    { sedan := value .sedan
      suv := value .suv
      luxury := value .luxury
      sports := value .sports }

def ageFactorsRecord : RecordForm AgeBracket AgeFactors where
  title := "AgeFactors"
  keys := AgeBracket.all
  mem_keys := AgeBracket.mem_all
  label
    | .under20 => "under_20"
    | .from20To24 => "age_20_to_24"
    | .from25To65 => "age_25_to_65"
    | .over65 => "age_66_plus"
  Value _ := Decimal
  form _ := Form.decimal
  get factors
    | .under20 => factors.under20
    | .from20To24 => factors.age20To24
    | .from25To65 => factors.age25To65
    | .over65 => factors.age66Plus
  make value :=
    { under20 := value .under20
      age20To24 := value .from20To24
      age25To65 := value .from25To65
      age66Plus := value .over65 }

def accidentSurchargesRecord : RecordForm AccidentTier AccidentSurcharges where
  title := "AccidentSurcharges"
  keys := AccidentTier.all
  mem_keys := AccidentTier.mem_all
  label
    | .clean => "none"
    | .one => "one"
    | .twoOrMore => "two_or_more"
  Value _ := Money
  form _ := Form.money
  get surcharges
    | .clean => surcharges.none
    | .one => surcharges.one
    | .twoOrMore => surcharges.twoOrMore
  make value :=
    { none := value .clean
      one := value .one
      twoOrMore := value .twoOrMore }

inductive Section where
  | baseRates
  | ageFactors
  | accidentSurcharges
  deriving DecidableEq

def record : RecordForm Section RateTable where
  title := "RateTable"
  keys := [.baseRates, .ageFactors, .accidentSurcharges]
  mem_keys key := by cases key <;> decide
  label
    | .baseRates => "base_rates"
    | .ageFactors => "age_factors"
    | .accidentSurcharges => "accident_surcharges"
  Value
    | .baseRates => BaseRates
    | .ageFactors => AgeFactors
    | .accidentSurcharges => AccidentSurcharges
  form
    | .baseRates => baseRatesRecord.toForm
    | .ageFactors => ageFactorsRecord.toForm
    | .accidentSurcharges => accidentSurchargesRecord.toForm
  get table
    | .baseRates => table.baseRates
    | .ageFactors => table.ageFactors
    | .accidentSurcharges => table.accidentSurcharges
  make value :=
    { baseRates := value .baseRates
      ageFactors := value .ageFactors
      accidentSurcharges := value .accidentSurcharges }

def toJson (table : RateTable) : Json := record.write table

def documentChars (table : RateTable) : List Char := table.toJson.compact

def document (table : RateTable) : String := String.ofList table.documentChars

def ofDocument (document : Bytes) : Except Json.Fault RateTable :=
  Json.readDocument record.read document

end RateTable

end MotorTariff
