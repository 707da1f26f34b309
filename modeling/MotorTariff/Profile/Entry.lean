import MotorTariff.Profile.Basic

/-!
Entries of a profile form. A profile is built from the neutral one by making entries in order;
each entry overwrites the fields it names and no others.
-/

set_option autoImplicit false

namespace MotorTariff.Profile

inductive Entry where
  | name (value : String)
  | age (value : Int32)
  | experience (years : Int32)
  | occupation (value : String)
  | accidents (count : Int32)
  | violations (count : Int32)
  | insurance (current : Bool) (continuousYears : Int32)
  | vehicle (make model : String)
  | vehicleYear (year : Int32)
  | safety (antiTheft antiLockBrakes daytimeLights : Bool)
  | liabilityLimit (limit : Int32)
  | deductibles (collision comprehensive : Int32)
  | addOns (roadside rentalCar : Bool)
  deriving DecidableEq

def enter (profile : Profile) : Entry → Profile
  | .name value => { profile with driver.name := value }
  | .age value => { profile with driver.age := value }
  | .experience years => { profile with driver.yearsOfDrivingExperience := years }
  | .occupation value => { profile with driver.occupation := value }
  | .accidents count => { profile with history.accidentsInLastFiveYears := count }
  | .violations count => { profile with history.violationsInLastThreeYears := count }
  | .insurance current continuousYears =>
      { profile with
        history.hasCurrentInsurance := current
        history.yearsWithContinuousInsurance := continuousYears }
  | .vehicle make model => { profile with vehicle.make := make, vehicle.model := model }
  | .vehicleYear year => { profile with vehicle.year := year }
  | .safety antiTheft antiLockBrakes daytimeLights =>
      { profile with
        vehicle.hasAntiTheftDevice := antiTheft
        vehicle.hasAntiLockBrakes := antiLockBrakes
        vehicle.hasDaytimeRunningLights := daytimeLights }
  | .liabilityLimit limit => { profile with coverage.liabilityLimit := limit }
  | .deductibles collision comprehensive =>
      { profile with
        coverage.collisionDeductible := collision
        coverage.comprehensiveDeductible := comprehensive }
  | .addOns roadside rentalCar =>
      { profile with
        coverage.includesRoadside := roadside
        coverage.includesRentalCar := rentalCar }

def ofEntries (entries : List Entry) : Profile := entries.foldl enter neutral

end MotorTariff.Profile
