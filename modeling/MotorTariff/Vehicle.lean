/-!
Vehicle categories. Luxury makes come first, then sports makes, then models known to be SUVs;
every other vehicle is a sedan. Words match when they differ in the case of ASCII letters only.
-/

set_option autoImplicit false

namespace MotorTariff

inductive VehicleCategory where
  | sedan
  | suv
  | luxury
  | sports
  deriving DecidableEq, Repr

namespace VehicleCategory

def all : List VehicleCategory := [sedan, suv, luxury, sports]

theorem mem_all (category : VehicleCategory) : category ∈ all := by
  cases category <;> decide

def name : VehicleCategory → String
  | sedan => "sedan"
  | suv => "suv"
  | luxury => "luxury"
  | sports => "sports"

def luxuryMakes : List String := ["bmw", "mercedes", "lexus", "audi"]

def sportsMakes : List String := ["ferrari", "porsche", "mustang", "corvette"]

def suvModels : List String := ["suv", "explorer", "tahoe", "highlander"]

/-- The characters of a word with ASCII capitals made small; all others stay. -/
def foldCase (word : String) : List Char := word.toList.map Char.toLower

def isOneOf (word : String) (candidates : List String) : Bool :=
  candidates.any fun candidate => foldCase candidate == foldCase word

def classify (make model : String) : VehicleCategory :=
  if isOneOf make luxuryMakes then luxury
  else if isOneOf make sportsMakes then sports
  else if isOneOf model suvModels then suv
  else sedan

end VehicleCategory

end MotorTariff
