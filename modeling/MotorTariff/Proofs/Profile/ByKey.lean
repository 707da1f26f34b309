import MotorTariff.Proofs.Json.Rearranged
import MotorTariff.Proofs.Profile.WholeDocument

/-!
# Profiles are read by key

The sections of a profile and the fields of a section are found by their names. So a profile is read
from its document however the members are ordered, whatever blanks stand between the tokens, and
with other members among them; and it is read from no such document in which a section or a field
is missing or named twice.
-/

set_option autoImplicit false

namespace MotorTariff

open Json (Blanks Form RecordForm)

theorem Driver.fields_read_by_key (field : Driver.Field) :
    (Driver.record.form field).ReadsByKey := by
  cases field with
  | name | occupation => exact Form.text_reads_by_key
  | age | yearsOfDrivingExperience => exact Form.int32_reads_by_key

theorem History.fields_read_by_key (field : History.Field) :
    (History.record.form field).ReadsByKey := by
  cases field with
  | hasCurrentInsurance => exact Form.flag_reads_by_key
  | accidentsInLastFiveYears | violationsInLastThreeYears | yearsWithContinuousInsurance =>
      exact Form.int32_reads_by_key

theorem Vehicle.fields_read_by_key (field : Vehicle.Field) :
    (Vehicle.record.form field).ReadsByKey := by
  cases field with
  | make | model => exact Form.text_reads_by_key
  | year => exact Form.int32_reads_by_key
  | hasAntiTheftDevice | hasAntiLockBrakes | hasDaytimeRunningLights =>
      exact Form.flag_reads_by_key

theorem Coverage.fields_read_by_key (field : Coverage.Field) :
    (Coverage.record.form field).ReadsByKey := by
  cases field with
  | liabilityLimit | collisionDeductible | comprehensiveDeductible =>
      exact Form.int32_reads_by_key
  | includesRoadside | includesRentalCar => exact Form.flag_reads_by_key

namespace Profile

theorem sections_read_by_key (part : Section) : (record.form part).ReadsByKey := by
  cases part with
  | driver =>
      exact RecordForm.record_reads_by_key Driver.record_is_lawful.toShaped
        Driver.fields_read_by_key
  | history =>
      exact RecordForm.record_reads_by_key History.record_is_lawful.toShaped
        History.fields_read_by_key
  | vehicle =>
      exact RecordForm.record_reads_by_key Vehicle.record_is_lawful.toShaped
        Vehicle.fields_read_by_key
  | coverage =>
      exact RecordForm.record_reads_by_key Coverage.record_is_lawful.toShaped
        Coverage.fields_read_by_key

theorem reads_by_key : record.toForm.ReadsByKey :=
  RecordForm.record_reads_by_key record_is_lawful.toShaped sections_read_by_key

variable {profile : Profile} {source : Json.Source} (before after : Blanks)

theorem of_bytes_of_read (reads : record.toForm.Reads source profile) :
    ofBytes (before ++ (source.bytes ++ after)) = .ok profile := by
  have read := reads before (Json.ends_blanks after.property)
  exact of_bytes_ok_iff.mpr ⟨after, read, after.property⟩

theorem refused_of_not_accepted (refuses : ¬ record.toForm.Accepts source) :
    IsRefused (before ++ (source.bytes ++ after)) := by
  rw [is_refused_iff]
  intro other accepted
  obtain ⟨rest, read, -⟩ := of_bytes_ok_iff.mp accepted
  exact refuses ⟨before, after, other, rest, Json.ends_blanks after.property, read⟩

def lineBreak : Blanks := ⟨[0x0a], List.forall_mem_singleton.mpr rfl⟩

def note : Json.Place × Json.Source :=
  (⟨lineBreak, .ofText "note", default, lineBreak, default⟩, .text (.ofText "driver"))

/-- Every rearranged document of a profile is read as that profile, and is refused as soon as a
section or a field has been taken from it or given a second time. -/
theorem rearranged_document_is_read (rearranged : profile.toJson.Rearranges source) :
    ofBytes (before ++ (source.bytes ++ after)) = .ok profile ∧
      ∀ spoilt, profile.toJson.Spoils source spoilt →
        IsRefused (before ++ (spoilt.bytes ++ after)) := by
  constructor
  · apply of_bytes_of_read
    exact reads_by_key.reads rearranged
  · intro spoilt spoils
    apply refused_of_not_accepted
    exact reads_by_key.refuses rearranged spoils

/-- The sections of a sample in reverse order, each of them with its fields in reverse order, after
a note; the same without the history, and with the vehicle a second time. -/
theorem reversed_sample_is_read :
    ∃ driver history vehicle coverage, Json.memberLayouts? List.reverse
        (record.keys.map (record.memberOf Samples.standardSedanDriver)) =
          some [driver, history, vehicle, coverage] ∧
      ofBytes (lineBreak ++ ((Json.Source.object [note, coverage, vehicle, history, driver]
        lineBreak).bytes ++ lineBreak)) = .ok Samples.standardSedanDriver ∧
      IsRefused (lineBreak ++ ((Json.Source.object [note, coverage, vehicle, driver]
        lineBreak).bytes ++ lineBreak)) ∧
      IsRefused (lineBreak ++ ((Json.Source.object
        [note, coverage, vehicle, history, vehicle, driver] lineBreak).bytes ++ lineBreak)) := by
  obtain ⟨driver, history, vehicle, coverage, laid⟩ : ∃ driver history vehicle coverage,
      Json.memberLayouts? List.reverse
        (record.keys.map (record.memberOf Samples.standardSedanDriver)) =
          some [driver, history, vehicle, coverage] := ⟨_, _, _, _, rfl⟩
  have each := Json.rearranges_member_layouts List.reverse_perm _ laid
  have reversed := List.reverse_perm [driver, history, vehicle, coverage]
  have order : [note, coverage, vehicle, history, driver].Perm
      ([driver, history, vehicle, coverage] ++ [note]) :=
    (reversed.cons note).trans (List.perm_append_singleton note _).symm
  have added : ∀ member ∈ [note], member.1.label ∉ record.keys.map record.label ∧
      member.2.IsScalar := List.forall_mem_singleton.mpr ⟨by decide, trivial⟩
  have rearranged : Samples.standardSedanDriver.toJson.Rearranges
      (.object [note, coverage, vehicle, history, driver] lineBreak) := .object each added order
  have names : [driver.1.label, history.1.label, vehicle.1.label, coverage.1.label] =
      record.keys.map record.label := (Json.names_of_each each).trans RecordForm.names_of_write
  have vehicleNamed : vehicle.1.label ∈ record.keys.map record.label := by
    simp [← names]
  have historyNamed : history.1.label ∈ record.keys.map record.label := by
    simp [← names]
  have missing : Json.LosesOrRepeats (record.keys.map record.label)
      ([note, coverage, vehicle] ++ history :: [driver]) ([note, coverage, vehicle] ++ [driver]) :=
    .loses historyNamed
  have repeated : Json.LosesOrRepeats (record.keys.map record.label)
      ([note, coverage, vehicle, history] ++ [driver])
      ([note, coverage, vehicle, history] ++ vehicle :: [driver]) := .repeats vehicleNamed
  obtain ⟨read, refused⟩ := rearranged_document_is_read lineBreak lineBreak rearranged
  exact ⟨driver, history, vehicle, coverage, laid, read, refused _ (.here missing),
    refused _ (.here repeated)⟩

end Profile

end MotorTariff
