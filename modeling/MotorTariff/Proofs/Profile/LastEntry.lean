import MotorTariff.Profile.Entry
import MotorTariff.Proofs.Profile.Fields

/-!
# The last entry for a field wins

An entry puts its arguments into its own fields and leaves the others alone. So what a field holds
after any number of entries is the argument of the last one that is for this field, and without one
it is what the neutral profile holds. Every field belongs to one kind of entry, so of each kind only
the last entry counts.
-/

set_option autoImplicit false

namespace MotorTariff.Profile

namespace Entry

/-- The argument of an entry that is for this field, if there is one. -/
def value? : Entry → (field : Field) → Option field.Value
  | .name value, .driver .name => some value
  | .age value, .driver .age => some value
  | .experience years, .driver .yearsOfDrivingExperience => some years
  | .occupation value, .driver .occupation => some value
  | .accidents count, .history .accidentsInLastFiveYears => some count
  | .violations count, .history .violationsInLastThreeYears => some count
  | .insurance current _, .history .hasCurrentInsurance => some current
  | .insurance _ continuousYears, .history .yearsWithContinuousInsurance => some continuousYears
  | .vehicle make _, .vehicle .make => some make
  | .vehicle _ model, .vehicle .model => some model
  | .vehicleYear year, .vehicle .year => some year
  | .safety antiTheft _ _, .vehicle .hasAntiTheftDevice => some antiTheft
  | .safety _ antiLockBrakes _, .vehicle .hasAntiLockBrakes => some antiLockBrakes
  | .safety _ _ daytimeLights, .vehicle .hasDaytimeRunningLights => some daytimeLights
  | .liabilityLimit limit, .coverage .liabilityLimit => some limit
  | .deductibles collision _, .coverage .collisionDeductible => some collision
  | .deductibles _ comprehensive, .coverage .comprehensiveDeductible => some comprehensive
  | .addOns roadside _, .coverage .includesRoadside => some roadside
  | .addOns _ rentalCar, .coverage .includesRentalCar => some rentalCar
  | _, _ => none

inductive Kind where
  | name
  | age
  | experience
  | occupation
  | accidents
  | violations
  | insurance
  | vehicle
  | vehicleYear
  | safety
  | liabilityLimit
  | deductibles
  | addOns
  deriving DecidableEq

def kind : Entry → Kind
  | .name .. => .name
  | .age .. => .age
  | .experience .. => .experience
  | .occupation .. => .occupation
  | .accidents .. => .accidents
  | .violations .. => .violations
  | .insurance .. => .insurance
  | .vehicle .. => .vehicle
  | .vehicleYear .. => .vehicleYear
  | .safety .. => .safety
  | .liabilityLimit .. => .liabilityLimit
  | .deductibles .. => .deductibles
  | .addOns .. => .addOns

end Entry

/-- The kind of the entries that are for this field. -/
def Field.kind : Field → Entry.Kind
  | .driver .name => .name
  | .driver .age => .age
  | .driver .yearsOfDrivingExperience => .experience
  | .driver .occupation => .occupation
  | .history .accidentsInLastFiveYears => .accidents
  | .history .violationsInLastThreeYears => .violations
  | .history .hasCurrentInsurance | .history .yearsWithContinuousInsurance => .insurance
  | .vehicle .make | .vehicle .model => .vehicle
  | .vehicle .year => .vehicleYear
  | .vehicle .hasAntiTheftDevice | .vehicle .hasAntiLockBrakes
  | .vehicle .hasDaytimeRunningLights => .safety
  | .coverage .liabilityLimit => .liabilityLimit
  | .coverage .collisionDeductible | .coverage .comprehensiveDeductible => .deductibles
  | .coverage .includesRoadside | .coverage .includesRentalCar => .addOns

/-- The argument that the last entry for this field gives it. -/
def lastValue? (entries : List Entry) (field : Field) : Option field.Value :=
  entries.findSomeRev? fun entry => entry.value? field

def lastOfKind? (entries : List Entry) (kind : Entry.Kind) : Option Entry :=
  entries.findRev? fun entry => entry.kind = kind

section Step

variable (profile : Profile) (entry : Entry) (field : Field)

/-- One entry: its fields have its arguments, and every other field is as it was. -/
theorem get_enter :
    (profile.enter entry).get field = (entry.value? field).getD (profile.get field) := by
  cases entry <;> cases field with
  | driver key => cases key <;> rfl
  | history key => cases key <;> rfl
  | vehicle key => cases key <;> rfl
  | coverage key => cases key <;> rfl

theorem value_none_iff_kind : entry.value? field = none ↔ entry.kind ≠ field.kind := by
  cases entry <;> cases field with
  | driver key => cases key <;> simp [Entry.value?, Entry.kind, Field.kind]
  | history key => cases key <;> simp [Entry.value?, Entry.kind, Field.kind]
  | vehicle key => cases key <;> simp [Entry.value?, Entry.kind, Field.kind]
  | coverage key => cases key <;> simp [Entry.value?, Entry.kind, Field.kind]

end Step

section Run

variable (entries : List Entry) (field : Field)

theorem last_value_cons (entry : Entry) :
    lastValue? (entry :: entries) field =
      (lastValue? entries field).or (entry.value? field) := by
  unfold lastValue?
  rw [List.findSomeRev?]
  cases List.findSomeRev? _ entries <;> rfl

theorem get_foldl_enter (start : Profile) :
    (entries.foldl enter start).get field = (lastValue? entries field).getD (start.get field) := by
  induction entries generalizing start with
  | nil => rfl
  | cons entry later induction =>
      rw [List.foldl_cons, induction, get_enter, last_value_cons]
      cases lastValue? later field <;> rfl

theorem find_value_of_kind :
    entries.findSome? (fun entry => entry.value? field) =
      (entries.find? fun entry => entry.kind = field.kind).bind fun entry => entry.value? field := by
  induction entries with
  | nil => rfl
  | cons entry later induction =>
      have own := value_none_iff_kind entry field
      rw [List.findSome?_cons, List.find?_cons]
      cases argument : entry.value? field with
      | none => simp [own.mp argument, induction]
      | some value =>
          have same : entry.kind = field.kind := by
            by_contra other
            rw [own.mpr other] at argument
            cases argument
          simp [same, argument]

theorem last_value_of_last_kind :
    lastValue? entries field =
      (lastOfKind? entries field.kind).bind fun entry => entry.value? field := by
  rw [lastValue?, lastOfKind?, List.findSomeRev?_eq_findSome?_reverse,
    List.findRev?_eq_find?_reverse]
  exact find_value_of_kind entries.reverse field

end Run

/-- Every field of the profile made by any entries is the argument of the last entry for it, or
neutral without one; so entries that agree on the last of each kind make the same profile. -/
theorem last_entry_for_field_wins (entries : List Entry) :
    (∀ field, (ofEntries entries).get field =
        (lastValue? entries field).getD (neutral.get field)) ∧
      ∀ others, (∀ kind, lastOfKind? entries kind = lastOfKind? others kind) →
        ofEntries entries = ofEntries others := by
  refine ⟨fun field => get_foldl_enter entries field neutral, ?_⟩
  intro others same
  apply eq_of_get
  intro field
  rw [ofEntries, ofEntries, get_foldl_enter, get_foldl_enter, last_value_of_last_kind,
    last_value_of_last_kind, same]

/-- Deductibles entered twice and a name between them, against the last of each in another order. -/
theorem repeated_deductibles_are_overwritten :
    let entries : List Entry := [.deductibles 100 200, .name "Sam", .deductibles (-500) (-250)]
    let others : List Entry := [.deductibles (-500) (-250), .name "Alex", .name "Sam"]
    (∀ kind, lastOfKind? entries kind = lastOfKind? others kind) ∧
      ofEntries entries = ofEntries others ∧
      (ofEntries entries).get (.coverage .comprehensiveDeductible) = (-250 : Int32) ∧
      (ofEntries entries).get (.coverage .liabilityLimit) = (100000 : Int32) := by
  intro entries others
  have same : ∀ kind, lastOfKind? entries kind = lastOfKind? others kind := by
    intro kind
    cases kind <;> rfl
  obtain ⟨fields, equal⟩ := last_entry_for_field_wins entries
  exact ⟨same, equal others same, fields _, fields _⟩

end MotorTariff.Profile
