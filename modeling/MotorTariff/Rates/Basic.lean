import MotorTariff.Money
import MotorTariff.Vehicle

/-!
The rate table: a base rate for each vehicle category, a factor for each age bracket and a
surcharge for each accident tier. Each has a field of its own, so no lookup fails.
-/

set_option autoImplicit false

namespace MotorTariff

inductive AgeBracket where
  | under20
  | from20To24
  | from25To65
  | over65
  deriving DecidableEq, Repr

namespace AgeBracket

def all : List AgeBracket := [under20, from20To24, from25To65, over65]

theorem mem_all (bracket : AgeBracket) : bracket ∈ all := by
  cases bracket <;> decide

/-- The bracket of an age; any negative age is under twenty. -/
def ofAge (age : Int32) : AgeBracket :=
  if age < 20 then under20
  else if age < 25 then from20To24
  else if age < 66 then from25To65
  else over65

/-- The ages of a bracket. -/
def Covers (bracket : AgeBracket) (age : Int) : Prop :=
  match bracket with
  | under20 => age < 20
  | from20To24 => 20 ≤ age ∧ age ≤ 24
  | from25To65 => 25 ≤ age ∧ age ≤ 65
  | over65 => 66 ≤ age

theorem of_age_eq_iff (age : Int32) (bracket : AgeBracket) :
    ofAge age = bracket ↔ bracket.Covers age.toInt := by
  have below (limit : Int32) : age < limit ↔ age.toInt < limit.toInt := Int32.lt_iff_toInt_lt
  have twenty : (20 : Int32).toInt = 20 := by decide
  have twentyFive : (25 : Int32).toInt = 25 := by decide
  have sixtySix : (66 : Int32).toInt = 66 := by decide
  unfold ofAge
  simp only [below, twenty, twentyFive, sixtySix]
  cases bracket <;> grind [Covers]

def name : AgeBracket → String
  | under20 => "Under20"
  | from20To24 => "From20To24"
  | from25To65 => "From25To65"
  | over65 => "Over65"

def key : AgeBracket → String
  | under20 => "ageFactor.16-19"
  | from20To24 => "ageFactor.20-24"
  | from25To65 => "ageFactor.25-65"
  | over65 => "ageFactor.66+"

def rationale : AgeBracket → String
  | under20 => "Drivers under 20 have higher statistical risk"
  | from20To24 => "Drivers 20-24 have moderately higher risk"
  | from25To65 => "Standard rate for drivers 25-65"
  | over65 => "Slight increase for senior drivers"

end AgeBracket

inductive AccidentTier where
  | clean
  | one
  | twoOrMore
  deriving DecidableEq, Repr

namespace AccidentTier

def all : List AccidentTier := [clean, one, twoOrMore]

theorem mem_all (tier : AccidentTier) : tier ∈ all := by
  cases tier <;> decide

/-- The tier of an accident count; zero and below are clean. -/
def ofCount (accidents : Int32) : AccidentTier :=
  if accidents ≤ 0 then clean
  else if accidents = 1 then one
  else twoOrMore

/-- The accident counts of a tier. -/
def Covers (tier : AccidentTier) (accidents : Int) : Prop :=
  match tier with
  | clean => accidents ≤ 0
  | one => accidents = 1
  | twoOrMore => 2 ≤ accidents

theorem of_count_eq_iff (accidents : Int32) (tier : AccidentTier) :
    ofCount accidents = tier ↔ tier.Covers accidents.toInt := by
  have none : accidents ≤ 0 ↔ accidents.toInt ≤ 0 := Int32.le_iff_toInt_le
  have single : accidents = 1 ↔ accidents.toInt = 1 := Int32.toInt_inj.symm
  unfold ofCount
  simp only [none, single]
  cases tier <;> grind [Covers]

def name : AccidentTier → String
  | clean => "None"
  | one => "One"
  | twoOrMore => "TwoOrMore"

def key : AccidentTier → String
  | clean => "accidentSurcharge.0"
  | one => "accidentSurcharge.1"
  | twoOrMore => "accidentSurcharge.2+"

def rationale? : AccidentTier → Option String
  | clean => none
  | one => some "Surcharge for 1 accident in past 5 years"
  | twoOrMore => some "Major surcharge for 2+ accidents in past 5 years"

end AccidentTier

structure BaseRates where
  sedan : Money
  suv : Money
  luxury : Money
  sports : Money

def BaseRates.sameAmounts (left right : BaseRates) : Bool :=
  left.sedan.sameAmount right.sedan && left.suv.sameAmount right.suv &&
    left.luxury.sameAmount right.luxury && left.sports.sameAmount right.sports

structure AgeFactors where
  under20 : Decimal
  age20To24 : Decimal
  age25To65 : Decimal
  age66Plus : Decimal

def AgeFactors.sameAmounts (left right : AgeFactors) : Bool :=
  left.under20.sameAmount right.under20 && left.age20To24.sameAmount right.age20To24 &&
    left.age25To65.sameAmount right.age25To65 && left.age66Plus.sameAmount right.age66Plus

structure AccidentSurcharges where
  none : Money
  one : Money
  twoOrMore : Money

def AccidentSurcharges.sameAmounts (left right : AccidentSurcharges) : Bool :=
  left.none.sameAmount right.none && left.one.sameAmount right.one &&
    left.twoOrMore.sameAmount right.twoOrMore

structure RateTable where
  baseRates : BaseRates
  ageFactors : AgeFactors
  accidentSurcharges : AccidentSurcharges

namespace RateTable

def tenths (n : BitVec 96) : Decimal := .literal false n 1

def standard : RateTable where
  baseRates :=
    { sedan := .whole 1000
      suv := .whole 1200
      luxury := .whole 1500
      sports := .whole 1800 }
  ageFactors :=
    { under20 := tenths 20
      age20To24 := tenths 15
      age25To65 := tenths 10
      age66Plus := tenths 13 }
  accidentSurcharges :=
    { none := .zero
      one := .whole 300
      twoOrMore := .whole 600 }

instance : Inhabited RateTable := ⟨standard⟩

def baseRate (table : RateTable) : VehicleCategory → Money
  | .sedan => table.baseRates.sedan
  | .suv => table.baseRates.suv
  | .luxury => table.baseRates.luxury
  | .sports => table.baseRates.sports

def ageFactor (table : RateTable) : AgeBracket → Decimal
  | .under20 => table.ageFactors.under20
  | .from20To24 => table.ageFactors.age20To24
  | .from25To65 => table.ageFactors.age25To65
  | .over65 => table.ageFactors.age66Plus

def accidentSurcharge (table : RateTable) : AccidentTier → Money
  | .clean => table.accidentSurcharges.none
  | .one => table.accidentSurcharges.one
  | .twoOrMore => table.accidentSurcharges.twoOrMore

def withBaseRate (table : RateTable) (category : VehicleCategory) (rate : Money) : RateTable :=
  match category with
  | .sedan => { table with baseRates.sedan := rate }
  | .suv => { table with baseRates.suv := rate }
  | .luxury => { table with baseRates.luxury := rate }
  | .sports => { table with baseRates.sports := rate }

def withAgeFactor (table : RateTable) (bracket : AgeBracket) (factor : Decimal) : RateTable :=
  match bracket with
  | .under20 => { table with ageFactors.under20 := factor }
  | .from20To24 => { table with ageFactors.age20To24 := factor }
  | .from25To65 => { table with ageFactors.age25To65 := factor }
  | .over65 => { table with ageFactors.age66Plus := factor }

def withAccidentSurcharge (table : RateTable) (tier : AccidentTier) (surcharge : Money) :
    RateTable :=
  match tier with
  | .clean => { table with accidentSurcharges.none := surcharge }
  | .one => { table with accidentSurcharges.one := surcharge }
  | .twoOrMore => { table with accidentSurcharges.twoOrMore := surcharge }

/-- Every entry with its dotted key: base rates, age factors, accident surcharges. -/
def entries (table : RateTable) : List (String × Decimal) :=
  VehicleCategory.all.map (fun category =>
      ("baseRate." ++ category.name, (table.baseRate category).amount)) ++
    AgeBracket.all.map (fun bracket => (bracket.key, table.ageFactor bracket)) ++
    AccidentTier.all.map (fun tier => (tier.key, (table.accidentSurcharge tier).amount))

def sameAmounts (left right : RateTable) : Bool :=
  left.baseRates.sameAmounts right.baseRates && left.ageFactors.sameAmounts right.ageFactors &&
    left.accidentSurcharges.sameAmounts right.accidentSurcharges

/-- One line for each entry: its key, an equals sign between blanks, and its value. -/
def listing (table : RateTable) : String :=
  String.join (table.entries.map fun (key, value) => key ++ " = " ++ value.text ++ "\n")

end RateTable

end MotorTariff
