import MotorTariff.Profile.Entry
import MotorTariff.Money

/-!
Sample profiles, one for each vehicle category and the ages and accident counts of interest, and
the amounts of the standard rates that they are checked against.
-/

set_option autoImplicit false

namespace MotorTariff.Samples

def standardSedanDriver : Profile :=
  .ofEntries
    [.name "Morgan Reyes", .age 30, .experience 12, .occupation "Teacher",
      .vehicle "Toyota" "Camry", .vehicleYear 2019]

def youngSportsDriver : Profile :=
  .ofEntries
    [.name "Riley Chen", .age 18, .experience 2, .occupation "Student", .accidents 2,
      .violations 1, .insurance true 1, .vehicle "Ferrari" "488", .vehicleYear 2021]

def youngSuvDriver : Profile :=
  .ofEntries
    [.name "Jamie Ortiz", .age 22, .experience 5, .occupation "Nurse", .accidents 1,
      .vehicle "Ford" "Explorer", .vehicleYear 2018]

def seniorLuxuryDriver : Profile :=
  .ofEntries
    [.name "Pat Okafor", .age 70, .experience 50, .occupation "Retired", .insurance true 40,
      .vehicle "Lexus" "LS", .vehicleYear 2022, .safety true true true, .addOns true true]

def sedanDriver (age accidents : Int32) : Profile :=
  .ofEntries [.name "Test Driver", .age age, .accidents accidents, .vehicle "Honda" "Accord"]

def sedanBaseRate : Money := .whole 1000

def suvBaseRate : Money := .whole 1200

def luxuryBaseRate : Money := .whole 1500

def sportsBaseRate : Money := .whole 1800

def oneAccidentSurcharge : Money := .whole 300

def twoPlusAccidentSurcharge : Money := .whole 600

end MotorTariff.Samples
