import MotorTariff.Profile.Samples
import MotorTariff.Proofs.Json.Extension
import MotorTariff.Proofs.Profile.RoundTrip

/-!
# Nothing less and nothing more than a profile's document

The document of a profile is accepted as a whole: cut anywhere it is refused, blanks may follow it,
and anything else behind it is refused. The reader stops where the outer object is closed, and an
object that is cut has not been closed.
-/

set_option autoImplicit false

namespace MotorTariff

open Json (Form RecordForm)

theorem Driver.fields_take_one_value (field : Driver.Field) :
    (Driver.record.form field).TakesOneValue := by
  cases field with
  | name | occupation => exact Form.text_takes_one_value
  | age | yearsOfDrivingExperience => exact Form.int32_takes_one_value

theorem History.fields_take_one_value (field : History.Field) :
    (History.record.form field).TakesOneValue := by
  cases field with
  | hasCurrentInsurance => exact Form.flag_takes_one_value
  | accidentsInLastFiveYears | violationsInLastThreeYears | yearsWithContinuousInsurance =>
      exact Form.int32_takes_one_value

theorem Vehicle.fields_take_one_value (field : Vehicle.Field) :
    (Vehicle.record.form field).TakesOneValue := by
  cases field with
  | make | model => exact Form.text_takes_one_value
  | year => exact Form.int32_takes_one_value
  | hasAntiTheftDevice | hasAntiLockBrakes | hasDaytimeRunningLights =>
      exact Form.flag_takes_one_value

theorem Coverage.fields_take_one_value (field : Coverage.Field) :
    (Coverage.record.form field).TakesOneValue := by
  cases field with
  | liabilityLimit | collisionDeductible | comprehensiveDeductible =>
      exact Form.int32_takes_one_value
  | includesRoadside | includesRentalCar => exact Form.flag_takes_one_value

namespace Profile

theorem sections_take_one_value (part : Section) : (record.form part).TakesOneValue := by
  cases part with
  | driver => exact RecordForm.record_takes_one_value Driver.fields_take_one_value
  | history => exact RecordForm.record_takes_one_value History.fields_take_one_value
  | vehicle => exact RecordForm.record_takes_one_value Vehicle.fields_take_one_value
  | coverage => exact RecordForm.record_takes_one_value Coverage.fields_take_one_value

/-- Bytes that are no profile are refused as such. -/
def IsRefused (document : Bytes) : Prop :=
  ∃ fault, ofBytes document = .error (.invalidProfile document fault)

theorem of_bytes_ok_iff {document : Bytes} {profile : Profile} :
    ofBytes document = .ok profile ↔
      ∃ rest, record.read document = .ok (profile, rest) ∧ ∀ b ∈ rest, Json.isBlank b = true := by
  rw [← Json.read_document_ok_iff, ofBytes]
  change _ ↔ ofDocument document = _
  cases ofDocument document with
  | error fault => simp
  | ok found => simp

theorem is_refused_iff {document : Bytes} :
    IsRefused document ↔ ∀ profile, ofBytes document ≠ .ok profile := by
  unfold IsRefused ofBytes
  cases ofDocument document with
  | error fault => simp
  | ok found => simp

theorem read_own_document (profile : Profile) {rest : Bytes} (ends : Json.Ends rest) :
    record.read (Utf8.encodeText profile.document ++ rest) = .ok (profile, rest) := by
  have sameReader : record.read = record.toForm.read := rfl
  rw [document_bytes, sameReader]
  apply RecordForm.record_round_trips record_is_lawful profile rest ends

/-- The document of a profile is read as a whole: no proper beginning of it is accepted, and behind
it blanks are, and nothing else. -/
theorem own_document_is_whole (profile : Profile) :
    (∀ beginning, beginning <+: Utf8.encodeText profile.document →
        beginning ≠ Utf8.encodeText profile.document → IsRefused beginning) ∧
      (∀ extra, (∀ b ∈ extra, Json.isBlank b = true) →
        ofBytes (Utf8.encodeText profile.document ++ extra) = .ok profile) ∧
      ∀ extra, (∃ b ∈ extra, Json.isBlank b = false) →
        IsRefused (Utf8.encodeText profile.document ++ extra) := by
  refine ⟨?_, ?_, ?_⟩
  · rintro beginning ⟨missing, whole⟩ cut
    rw [is_refused_iff]
    intro other accepted
    obtain ⟨rest, read, -⟩ := of_bytes_ok_iff.mp accepted
    have own := read_own_document profile Json.ends_nil
    rw [List.append_nil, ← whole] at own
    refine RecordForm.beginning_refused sections_take_one_value own ?_ read
    rintro rfl
    exact cut (by rw [← whole, List.append_nil])
  · intro extra blank
    have read := read_own_document profile (Json.ends_blanks blank)
    exact of_bytes_ok_iff.mpr ⟨extra, read, blank⟩
  · rintro extra ⟨b, among, mark⟩
    rw [is_refused_iff]
    intro other accepted
    obtain ⟨rest, read, blank⟩ := of_bytes_ok_iff.mp accepted
    have own := read_own_document profile Json.ends_nil
    rw [List.append_nil] at own
    obtain rfl := RecordForm.rest_of_read_extended sections_take_one_value own read
    rw [blank b among] at mark
    cases mark

theorem dropLast_document_ne (profile : Profile) :
    (Utf8.encodeText profile.document).dropLast ≠ Utf8.encodeText profile.document := by
  have opened : ∃ tail, Utf8.encodeText profile.document = Json.Mark.braceOpen :: tail := by
    rw [document_bytes]
    exact ⟨_, rfl⟩
  obtain ⟨tail, layout⟩ := opened
  intro same
  have shorter := congrArg List.length same
  rw [List.length_dropLast, layout, List.length_cons] at shorter
  omega

/-- A sample's document without its last byte, with a line break after it, and with one brace too
many. -/
theorem sample_document_is_whole :
    IsRefused (Utf8.encodeText Samples.standardSedanDriver.document).dropLast ∧
      ofBytes (Utf8.encodeText Samples.standardSedanDriver.document ++ [0x0a]) =
        .ok Samples.standardSedanDriver ∧
      IsRefused (Utf8.encodeText Samples.standardSedanDriver.document ++ [0x0a, 0x7d]) := by
  obtain ⟨cut, blanks, others⟩ := own_document_is_whole Samples.standardSedanDriver
  have beginning := List.dropLast_prefix (Utf8.encodeText Samples.standardSedanDriver.document)
  refine ⟨cut _ beginning ?_, blanks _ ?_, others _ ?_⟩
  · exact dropLast_document_ne Samples.standardSedanDriver
  · exact List.forall_mem_singleton.mpr rfl
  · exact ⟨0x7d, List.mem_of_getLast? rfl, rfl⟩

end Profile

end MotorTariff
