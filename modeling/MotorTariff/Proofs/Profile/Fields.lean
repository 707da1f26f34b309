import MotorTariff.Proofs.Profile.RoundTrip

/-!
# The fields of a profile

A profile is the values of its fields, those of all four sections. A field has its place in the
document of the profile, where it is found under its own label within its section's.
-/

set_option autoImplicit false

namespace MotorTariff

open Json (Form RecordForm)

namespace Json.RecordForm

theorem eq_of_get {Key Record : Type} [DecidableEq Key] {record : RecordForm Key Record}
    (shaped : record.Shaped) {left right : Record}
    (same : ∀ key, record.get left key = record.get right key) : left = right := by
  rw [← shaped.make_get left, ← shaped.make_get right, funext same]

end Json.RecordForm

namespace Profile

inductive Field where
  | driver (key : Driver.Field)
  | history (key : History.Field)
  | vehicle (key : Vehicle.Field)
  | coverage (key : Coverage.Field)
  deriving DecidableEq

def Field.Value : Field → Type
  | .driver key => Driver.record.Value key
  | .history key => History.record.Value key
  | .vehicle key => Vehicle.record.Value key
  | .coverage key => Coverage.record.Value key

def Field.form : (field : Field) → Form field.Value
  | .driver key => Driver.record.form key
  | .history key => History.record.form key
  | .vehicle key => Vehicle.record.form key
  | .coverage key => Coverage.record.form key

def get (profile : Profile) : (field : Field) → field.Value
  | .driver key => Driver.record.get profile.driver key
  | .history key => History.record.get profile.history key
  | .vehicle key => Vehicle.record.get profile.vehicle key
  | .coverage key => Coverage.record.get profile.coverage key

def Field.path : Field → List String
  | .driver key => [record.label .driver, Driver.record.label key]
  | .history key => [record.label .history, History.record.label key]
  | .vehicle key => [record.label .vehicle, Vehicle.record.label key]
  | .coverage key => [record.label .coverage, Coverage.record.label key]

theorem eq_of_get {left right : Profile} (same : ∀ field, left.get field = right.get field) :
    left = right := by
  have driver : left.driver = right.driver :=
    RecordForm.eq_of_get Driver.record_is_lawful.toShaped fun key => same (.driver key)
  have history : left.history = right.history :=
    RecordForm.eq_of_get History.record_is_lawful.toShaped fun key => same (.history key)
  have vehicle : left.vehicle = right.vehicle :=
    RecordForm.eq_of_get Vehicle.record_is_lawful.toShaped fun key => same (.vehicle key)
  have coverage : left.coverage = right.coverage :=
    RecordForm.eq_of_get Coverage.record_is_lawful.toShaped fun key => same (.coverage key)
  cases left
  cases right
  rw [Profile.mk.injEq]
  exact ⟨driver, history, vehicle, coverage⟩

end Profile

end MotorTariff
