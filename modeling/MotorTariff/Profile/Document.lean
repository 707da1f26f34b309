import MotorTariff.Json.Record
import MotorTariff.Profile.Basic

/-!
Profiles as documents: an object of four sections, each an object of its fields.
-/

set_option autoImplicit false

namespace MotorTariff

open Json (Form RecordForm)

inductive Driver.Field where
  | name
  | age
  | yearsOfDrivingExperience
  | occupation
  deriving DecidableEq

def Driver.record : RecordForm Driver.Field Driver where
  title := "DriverInfo"
  keys := [.name, .age, .yearsOfDrivingExperience, .occupation]
  mem_keys key := by cases key <;> decide
  label
    | .name => "name"
    | .age => "age"
    | .yearsOfDrivingExperience => "years_of_driving_experience"
    | .occupation => "occupation"
  Value
    | .name | .occupation => String
    | .age | .yearsOfDrivingExperience => Int32
  form
    | .name | .occupation => Form.text
    | .age | .yearsOfDrivingExperience => Form.int32
  get driver
    | .name => driver.name
    | .age => driver.age
    | .yearsOfDrivingExperience => driver.yearsOfDrivingExperience
    | .occupation => driver.occupation
  make value :=
    { name := value .name
      age := value .age
      yearsOfDrivingExperience := value .yearsOfDrivingExperience
      occupation := value .occupation }

inductive History.Field where
  | accidentsInLastFiveYears
  | violationsInLastThreeYears
  | hasCurrentInsurance
  | yearsWithContinuousInsurance
  deriving DecidableEq

def History.record : RecordForm History.Field History where
  title := "DrivingHistory"
  keys :=
    [.accidentsInLastFiveYears, .violationsInLastThreeYears, .hasCurrentInsurance,
      .yearsWithContinuousInsurance]
  mem_keys key := by cases key <;> decide
  label
    | .accidentsInLastFiveYears => "accidents_in_last_five_years"
    | .violationsInLastThreeYears => "violations_in_last_three_years"
    | .hasCurrentInsurance => "has_current_insurance"
    | .yearsWithContinuousInsurance => "years_with_continuous_insurance"
  Value
    | .hasCurrentInsurance => Bool
    | .accidentsInLastFiveYears | .violationsInLastThreeYears
    | .yearsWithContinuousInsurance => Int32
  form
    | .hasCurrentInsurance => Form.flag
    | .accidentsInLastFiveYears | .violationsInLastThreeYears
    | .yearsWithContinuousInsurance => Form.int32
  get history
    | .accidentsInLastFiveYears => history.accidentsInLastFiveYears
    | .violationsInLastThreeYears => history.violationsInLastThreeYears
    | .hasCurrentInsurance => history.hasCurrentInsurance
    | .yearsWithContinuousInsurance => history.yearsWithContinuousInsurance
  make value :=
    { accidentsInLastFiveYears := value .accidentsInLastFiveYears
      violationsInLastThreeYears := value .violationsInLastThreeYears
      hasCurrentInsurance := value .hasCurrentInsurance
      yearsWithContinuousInsurance := value .yearsWithContinuousInsurance }

inductive Vehicle.Field where
  | make
  | model
  | year
  | hasAntiTheftDevice
  | hasAntiLockBrakes
  | hasDaytimeRunningLights
  deriving DecidableEq

def Vehicle.record : RecordForm Vehicle.Field Vehicle where
  title := "VehicleInfo"
  keys :=
    [.make, .model, .year, .hasAntiTheftDevice, .hasAntiLockBrakes, .hasDaytimeRunningLights]
  mem_keys key := by cases key <;> decide
  label
    | .make => "make"
    | .model => "model"
    | .year => "year"
    | .hasAntiTheftDevice => "has_anti_theft_device"
    | .hasAntiLockBrakes => "has_anti_lock_brakes"
    | .hasDaytimeRunningLights => "has_daytime_running_lights"
  Value
    | .make | .model => String
    | .year => Int32
    | .hasAntiTheftDevice | .hasAntiLockBrakes | .hasDaytimeRunningLights => Bool
  form
    | .make | .model => Form.text
    | .year => Form.int32
    | .hasAntiTheftDevice | .hasAntiLockBrakes | .hasDaytimeRunningLights => Form.flag
  get vehicle
    | .make => vehicle.make
    | .model => vehicle.model
    | .year => vehicle.year
    | .hasAntiTheftDevice => vehicle.hasAntiTheftDevice
    | .hasAntiLockBrakes => vehicle.hasAntiLockBrakes
    | .hasDaytimeRunningLights => vehicle.hasDaytimeRunningLights
  make value :=
    { make := value .make
      model := value .model
      year := value .year
      hasAntiTheftDevice := value .hasAntiTheftDevice
      hasAntiLockBrakes := value .hasAntiLockBrakes
      hasDaytimeRunningLights := value .hasDaytimeRunningLights }

inductive Coverage.Field where
  | liabilityLimit
  | collisionDeductible
  | comprehensiveDeductible
  | includesRoadside
  | includesRentalCar
  deriving DecidableEq

def Coverage.record : RecordForm Coverage.Field Coverage where
  title := "CoverageSelection"
  keys :=
    [.liabilityLimit, .collisionDeductible, .comprehensiveDeductible, .includesRoadside,
      .includesRentalCar]
  mem_keys key := by cases key <;> decide
  label
    | .liabilityLimit => "liability_limit"
    | .collisionDeductible => "collision_deductible"
    | .comprehensiveDeductible => "comprehensive_deductible"
    | .includesRoadside => "includes_roadside"
    | .includesRentalCar => "includes_rental_car"
  Value
    | .liabilityLimit | .collisionDeductible | .comprehensiveDeductible => Int32
    | .includesRoadside | .includesRentalCar => Bool
  form
    | .liabilityLimit | .collisionDeductible | .comprehensiveDeductible => Form.int32
    | .includesRoadside | .includesRentalCar => Form.flag
  get coverage
    | .liabilityLimit => coverage.liabilityLimit
    | .collisionDeductible => coverage.collisionDeductible
    | .comprehensiveDeductible => coverage.comprehensiveDeductible
    | .includesRoadside => coverage.includesRoadside
    | .includesRentalCar => coverage.includesRentalCar
  make value :=
    { liabilityLimit := value .liabilityLimit
      collisionDeductible := value .collisionDeductible
      comprehensiveDeductible := value .comprehensiveDeductible
      includesRoadside := value .includesRoadside
      includesRentalCar := value .includesRentalCar }

namespace Profile

inductive Section where
  | driver
  | history
  | vehicle
  | coverage
  deriving DecidableEq

def record : RecordForm Section Profile where
  title := "DriverProfile"
  keys := [.driver, .history, .vehicle, .coverage]
  mem_keys key := by cases key <;> decide
  label
    | .driver => "driver"
    | .history => "history"
    | .vehicle => "vehicle"
    | .coverage => "coverage"
  Value
    | .driver => Driver
    | .history => History
    | .vehicle => Vehicle
    | .coverage => Coverage
  form
    | .driver => Driver.record.toForm
    | .history => History.record.toForm
    | .vehicle => Vehicle.record.toForm
    | .coverage => Coverage.record.toForm
  get profile
    | .driver => profile.driver
    | .history => profile.history
    | .vehicle => profile.vehicle
    | .coverage => profile.coverage
  make value :=
    { driver := value .driver
      history := value .history
      vehicle := value .vehicle
      coverage := value .coverage }

def toJson (profile : Profile) : Json := record.write profile

def documentChars (profile : Profile) : List Char := profile.toJson.compact

def document (profile : Profile) : String := String.ofList profile.documentChars

def ofDocument (document : Bytes) : Except Json.Fault Profile :=
  Json.readDocument record.read document

end Profile

end MotorTariff
