import MotorTariff.Proofs.Json.Replaced
import MotorTariff.Proofs.Profile.ByKey
import MotorTariff.Proofs.Profile.Fields

/-!
# Integers of any size in a profile

Nine fields of a profile are 32-bit integers. Whatever integer stands for one of them in the
document of a profile, it is the one that is read, and the other fields are read as they were; an
integer that 32 bits do not hold makes the document no profile.
-/

set_option autoImplicit false

namespace MotorTariff

open Json (Form RecordForm)

-- Powers are the core library's own, also where other libraries define some.
attribute [local instance (high)] instPowNat

namespace Profile

/-- The fields that are 32-bit integers. -/
inductive IntegerField where
  | age
  | yearsOfDrivingExperience
  | accidentsInLastFiveYears
  | violationsInLastThreeYears
  | yearsWithContinuousInsurance
  | vehicleYear
  | liabilityLimit
  | collisionDeductible
  | comprehensiveDeductible
  deriving DecidableEq

def IntegerField.field : IntegerField → Field
  | .age => .driver .age
  | .yearsOfDrivingExperience => .driver .yearsOfDrivingExperience
  | .accidentsInLastFiveYears => .history .accidentsInLastFiveYears
  | .violationsInLastThreeYears => .history .violationsInLastThreeYears
  | .yearsWithContinuousInsurance => .history .yearsWithContinuousInsurance
  | .vehicleYear => .vehicle .year
  | .liabilityLimit => .coverage .liabilityLimit
  | .collisionDeductible => .coverage .collisionDeductible
  | .comprehensiveDeductible => .coverage .comprehensiveDeductible

def integer (profile : Profile) : IntegerField → Int32
  | .age => profile.driver.age
  | .yearsOfDrivingExperience => profile.driver.yearsOfDrivingExperience
  | .accidentsInLastFiveYears => profile.history.accidentsInLastFiveYears
  | .violationsInLastThreeYears => profile.history.violationsInLastThreeYears
  | .yearsWithContinuousInsurance => profile.history.yearsWithContinuousInsurance
  | .vehicleYear => profile.vehicle.year
  | .liabilityLimit => profile.coverage.liabilityLimit
  | .collisionDeductible => profile.coverage.collisionDeductible
  | .comprehensiveDeductible => profile.coverage.comprehensiveDeductible

def withInteger (profile : Profile) (value : Int32) : IntegerField → Profile
  | .age => { profile with driver.age := value }
  | .yearsOfDrivingExperience => { profile with driver.yearsOfDrivingExperience := value }
  | .accidentsInLastFiveYears => { profile with history.accidentsInLastFiveYears := value }
  | .violationsInLastThreeYears => { profile with history.violationsInLastThreeYears := value }
  | .yearsWithContinuousInsurance => { profile with history.yearsWithContinuousInsurance := value }
  | .vehicleYear => { profile with vehicle.year := value }
  | .liabilityLimit => { profile with coverage.liabilityLimit := value }
  | .collisionDeductible => { profile with coverage.collisionDeductible := value }
  | .comprehensiveDeductible => { profile with coverage.comprehensiveDeductible := value }

def jsonWithInteger (profile : Profile) (field : IntegerField) (n : Int) : Json :=
  profile.toJson.replaceAt field.field.path (.integer n)

section Held

variable (profile : Profile) (value : Int32) (field : IntegerField)

theorem integer_with_integer : (profile.withInteger value field).integer field = value := by
  cases field <;> rfl

theorem get_with_integer {other : Field} (different : other ≠ field.field) :
    (profile.withInteger value field).get other = profile.get other := by
  -- One field of one section is set, and the cases where it is the other field are excluded.
  cases field <;> rcases other with key | key | key | key <;> cases key <;>
    first | rfl | exact absurd rfl different

theorem json_with_own_integer :
    profile.jsonWithInteger field value.toInt = (profile.withInteger value field).toJson := by
  cases field <;> rfl

theorem of_bytes_of_compact :
    ofBytes (Utf8.encodeText profile.toJson.compactText) = .ok profile := by
  have written : profile.toJson.compactText = profile.document := rfl
  rw [written, ofBytes, of_document_of_written]

end Held

section Refused

variable (profile : Profile)

theorem refuses_replaced {field : Field} {other : Json} (refuses : field.form.Refuses other) :
    record.toForm.Refuses (profile.toJson.replaceAt field.path other) := by
  have inProfile := RecordForm.record_refuses_replaced record_is_lawful.toShaped
    sections_take_one_value profile
  cases field with
  | driver key =>
      apply inProfile .driver [Driver.record.label key]
      exact RecordForm.record_refuses_replaced Driver.record_is_lawful.toShaped
        Driver.fields_take_one_value profile.driver key [] refuses
  | history key =>
      apply inProfile .history [History.record.label key]
      exact RecordForm.record_refuses_replaced History.record_is_lawful.toShaped
        History.fields_take_one_value profile.history key [] refuses
  | vehicle key =>
      apply inProfile .vehicle [Vehicle.record.label key]
      exact RecordForm.record_refuses_replaced Vehicle.record_is_lawful.toShaped
        Vehicle.fields_take_one_value profile.vehicle key [] refuses
  | coverage key =>
      apply inProfile .coverage [Coverage.record.label key]
      exact RecordForm.record_refuses_replaced Coverage.record_is_lawful.toShaped
        Coverage.fields_take_one_value profile.coverage key [] refuses

theorem integer_out_of_range_refused {field : IntegerField} {n : Int}
    (outside : ¬ (-2 ^ (31 : Nat) ≤ n ∧ n ≤ 2 ^ (31 : Nat) - 1)) :
    record.toForm.Refuses (profile.jsonWithInteger field n) := by
  apply refuses_replaced
  cases field <;> exact Form.int32_refuses outside

theorem refused_of_refuses {json : Json} {source : Json.Source}
    (laid : Json.layout? id json = some source) (refuses : record.toForm.Refuses json) :
    IsRefused (Utf8.encodeText json.compactText) := by
  have rearranged := Json.rearranges_layout (fun members => List.Perm.refl members) json laid
  have refused := refused_of_not_accepted default default (refuses source rearranged)
  rw [Json.bytes_of_layout json laid] at refused
  rw [Utf8.encodeText, Json.compactText, String.toList_ofList, ← List.append_nil (Utf8.encode _)]
  exact refused

end Refused

/-- An integer in the document of a profile is taken as it is if 32 bits hold it, and the other
fields are the profile's own; otherwise the document is refused. -/
theorem integer_field_is_taken_exactly (profile : Profile) (field : IntegerField) (n : Int) :
    let document := Utf8.encodeText (profile.jsonWithInteger field n).compactText
    (-2 ^ (31 : Nat) ≤ n ∧ n ≤ 2 ^ (31 : Nat) - 1 →
        ∃ result, ofBytes document = .ok result ∧ (result.integer field).toInt = n ∧
          ∀ other, other ≠ field.field → result.get other = profile.get other) ∧
      (¬ (-2 ^ (31 : Nat) ≤ n ∧ n ≤ 2 ^ (31 : Nat) - 1) → IsRefused document) := by
  intro document
  constructor
  · rintro ⟨lower, upper⟩
    have whole : (Int32.ofInt n).toInt = n :=
      Int32.toInt_ofInt_of_le lower (Int.lt_of_le_sub_one upper)
    have written := json_with_own_integer profile (Int32.ofInt n) field
    rw [whole] at written
    refine ⟨profile.withInteger (Int32.ofInt n) field, ?_, ?_, ?_⟩
    · rw [← of_bytes_of_compact, ← written]
    · rw [integer_with_integer, whole]
    · intro other different
      exact get_with_integer profile (Int32.ofInt n) field different
  · intro outside
    obtain ⟨source, laid⟩ : ∃ source,
        Json.layout? id (profile.jsonWithInteger field n) = some source := by
      cases field <;> exact ⟨_, rfl⟩
    exact refused_of_refuses laid (integer_out_of_range_refused profile outside)

/-- The least 32-bit integer as a deductible, the one after the greatest, and one that 64 bits would
wrap around to 30 as an age. -/
theorem sample_integers_at_the_limits :
    let document (field : IntegerField) (n : Int) :=
      Utf8.encodeText (Samples.standardSedanDriver.jsonWithInteger field n).compactText
    (∃ result, ofBytes (document .collisionDeductible (-2147483648)) = .ok result ∧
        result.coverage.collisionDeductible.toInt = -2147483648 ∧
        result.driver.name = "Morgan Reyes") ∧
      IsRefused (document .collisionDeductible 2147483648) ∧
      IsRefused (document .age (2 ^ (64 : Nat) + 30)) := by
  intro document
  have taken := integer_field_is_taken_exactly Samples.standardSedanDriver
  obtain ⟨result, read, own, others⟩ :=
    (taken .collisionDeductible (-2147483648)).1 (by decide)
  refine ⟨⟨result, read, own, ?_⟩, ?_, ?_⟩
  · exact others (.driver .name) (by decide)
  · exact (taken .collisionDeductible 2147483648).2 (by decide)
  · exact (taken .age (2 ^ (64 : Nat) + 30)).2 (by decide)

end Profile

end MotorTariff
