/-!
The driver profile that is rated: the driver, their history, the vehicle and the coverage. It
holds what was entered; no range is checked here.
-/

set_option autoImplicit false

namespace MotorTariff

structure Driver where
  name : String
  age : Int32
  yearsOfDrivingExperience : Int32
  occupation : String
  deriving DecidableEq

structure History where
  accidentsInLastFiveYears : Int32
  violationsInLastThreeYears : Int32
  hasCurrentInsurance : Bool
  yearsWithContinuousInsurance : Int32
  deriving DecidableEq

structure Vehicle where
  make : String
  model : String
  year : Int32
  hasAntiTheftDevice : Bool
  hasAntiLockBrakes : Bool
  hasDaytimeRunningLights : Bool
  deriving DecidableEq

structure Coverage where
  liabilityLimit : Int32
  collisionDeductible : Int32
  comprehensiveDeductible : Int32
  includesRoadside : Bool
  includesRentalCar : Bool
  deriving DecidableEq

structure Profile where
  driver : Driver
  history : History
  vehicle : Vehicle
  coverage : Coverage
  deriving DecidableEq

namespace Profile

def name (profile : Profile) : String := profile.driver.name

def age (profile : Profile) : Int32 := profile.driver.age

def accidents (profile : Profile) : Int32 := profile.history.accidentsInLastFiveYears

def make (profile : Profile) : String := profile.vehicle.make

def model (profile : Profile) : String := profile.vehicle.model

/-- A thirty year old with a clean record and a common sedan. -/
def neutral : Profile where
  driver :=
    { name := "", age := 30, yearsOfDrivingExperience := 10, occupation := "" }
  history :=
    { accidentsInLastFiveYears := 0
      violationsInLastThreeYears := 0
      hasCurrentInsurance := true
      yearsWithContinuousInsurance := 5 }
  vehicle :=
    { make := "Toyota"
      model := "Camry"
      year := 2020
      hasAntiTheftDevice := false
      hasAntiLockBrakes := true
      hasDaytimeRunningLights := true }
  coverage :=
    { liabilityLimit := 100000
      collisionDeductible := 500
      comprehensiveDeductible := 500
      includesRoadside := false
      includesRentalCar := false }

instance : Inhabited Profile := ⟨neutral⟩

end Profile

end MotorTariff
