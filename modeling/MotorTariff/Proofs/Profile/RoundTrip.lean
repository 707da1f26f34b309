import MotorTariff.Program.Command
import MotorTariff.Proofs.Json.Record

/-!
# Profiles survive their documents

Each section of a profile is a record of texts, flags and integers, and the profile is a record of
its sections. So what a profile is written as is read back as that profile, whatever characters its
texts hold and whatever its numbers are.
-/

set_option autoImplicit false

namespace MotorTariff

open Json (Form RecordForm)

theorem Driver.record_is_lawful : Driver.record.Lawful where
  labels_nodup := by decide
  form_round_trips key := by
    cases key with
    | name | occupation => exact Form.text_round_trips
    | age | yearsOfDrivingExperience => exact Form.int32_round_trips
  make_get _ := rfl

theorem History.record_is_lawful : History.record.Lawful where
  labels_nodup := by decide
  form_round_trips key := by
    cases key with
    | hasCurrentInsurance => exact Form.flag_round_trips
    | accidentsInLastFiveYears | violationsInLastThreeYears | yearsWithContinuousInsurance =>
        exact Form.int32_round_trips
  make_get _ := rfl

theorem Vehicle.record_is_lawful : Vehicle.record.Lawful where
  labels_nodup := by decide
  form_round_trips key := by
    cases key with
    | make | model => exact Form.text_round_trips
    | year => exact Form.int32_round_trips
    | hasAntiTheftDevice | hasAntiLockBrakes | hasDaytimeRunningLights =>
        exact Form.flag_round_trips
  make_get _ := rfl

theorem Coverage.record_is_lawful : Coverage.record.Lawful where
  labels_nodup := by decide
  form_round_trips key := by
    cases key with
    | liabilityLimit | collisionDeductible | comprehensiveDeductible =>
        exact Form.int32_round_trips
    | includesRoadside | includesRentalCar => exact Form.flag_round_trips
  make_get _ := rfl

namespace Profile

theorem record_is_lawful : record.Lawful where
  labels_nodup := by decide
  form_round_trips key := by
    cases key with
    | driver => exact RecordForm.record_round_trips Driver.record_is_lawful
    | history => exact RecordForm.record_round_trips History.record_is_lawful
    | vehicle => exact RecordForm.record_round_trips Vehicle.record_is_lawful
    | coverage => exact RecordForm.record_round_trips Coverage.record_is_lawful
  make_get _ := rfl

theorem document_bytes (profile : Profile) :
    Utf8.encodeText profile.document = Utf8.encode (record.toForm.write profile).compact := by
  rw [Utf8.encodeText, document, String.toList_ofList]
  rfl

theorem of_document_of_written (profile : Profile) :
    ofDocument (Utf8.encodeText profile.document) = .ok profile := by
  rw [document_bytes]
  exact Json.read_document_of_round_trip (RecordForm.record_round_trips record_is_lawful) profile

/-- Every profile is read back from the bytes of its document. -/
theorem of_bytes_of_own_document (profile : Profile) :
    ofBytes (Utf8.encodeText profile.document) = .ok profile := by
  rw [ofBytes, of_document_of_written]

end Profile

end MotorTariff
