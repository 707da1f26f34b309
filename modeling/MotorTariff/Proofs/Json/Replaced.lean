import MotorTariff.Proofs.Json.IntegerRange
import MotorTariff.Proofs.Json.Rearranged

/-!
# A value replaced in a document

Some value of a document gives way to another one, and all else stays as it is. A form refuses a
value if it reads no layout of it, and a record refuses an object in which a member with the name of
a field has a value that the field refuses. An integer is refused if 32 bits do not hold it.
-/

set_option autoImplicit false

namespace MotorTariff.Json

-- Powers are the core library's own, also where other libraries define some.
attribute [local instance (high)] instPowNat

/-- The document with another value where the labels lead to; without such members it is the
document itself. -/
def replaceAt : Json → List String → Json → Json
  | _, [], other => other
  | .object members, label :: path, other =>
      .object (members.map fun (name, value) =>
        (name, if name = label then value.replaceAt path other else value))
  | value, _ :: _, _ => value

theorem replaced_listed {members : List (String × Json)} {label : String} {value : Json}
    (listed : (label, value) ∈ members) (path : List String) (other : Json) :
    ∃ replaced, (Json.object members).replaceAt (label :: path) other = .object replaced ∧
      (label, value.replaceAt path other) ∈ replaced := by
  refine ⟨_, rfl, List.mem_map.mpr ⟨(label, value), listed, ?_⟩⟩
  dsimp only
  rw [if_pos rfl]

/-- No layout of the value is read. -/
def Form.Refuses {Value : Type} (form : Form Value) (value : Json) : Prop :=
  ∀ source, Rearranges value source → ¬ form.Accepts source

theorem Form.int32_refuses {n : Int} (outside : ¬ (-2 ^ (31 : Nat) ≤ n ∧ n ≤ 2 ^ (31 : Nat) - 1)) :
    int32.Refuses (.integer n) := by
  rintro source rearranged ⟨gap, rest, value, left, ends, read⟩
  cases rearranged with
  | @integer _ spelling same =>
      change Int32Form.read (gap ++ (Utf8.encode spelling.chars ++ rest)) = _ at read
      rw [same, Int32Form.read, skip_blanks_append gap.property] at read
      have value_eq := int32_value_of_chars ends read
      have lower := value.le_toInt
      have upper := value.toInt_lt
      omega

theorem placed_of_listed {members : List (String × Json)} {own : List (Place × Source)}
    (each : RearrangesEach members own) {name : String} {value : Json}
    (listed : (name, value) ∈ members) :
    ∃ member ∈ own, member.1.label = name ∧ Rearranges value member.2 := by
  induction own generalizing members with
  | nil =>
      cases each
      cases listed
  | cons first own induction =>
      cases each with
      | cons named rearranged later =>
          rcases List.mem_cons.mp listed with same | behind
          · cases same
            exact ⟨_, List.mem_cons_self, named, rearranged⟩
          · obtain ⟨member, among, found⟩ := induction later behind
            exact ⟨member, List.mem_cons_of_mem _ among, found⟩

namespace RecordForm

variable {Key Record : Type} [DecidableEq Key] {record : RecordForm Key Record}
variable (shaped : record.Shaped) (takes : ∀ key, (record.form key).TakesOneValue)

include shaped takes

theorem record_refuses {members : List (String × Json)} {key : Key} {value : Json}
    (listed : (record.label key, value) ∈ members) (refuses : (record.form key).Refuses value) :
    record.toForm.Refuses (.object members) := by
  intro source rearranged accepted
  cases rearranged with
  | @object _ own extra placed closing each others order =>
      obtain ⟨member, among, named, rearranged⟩ := placed_of_listed each listed
      have inPlaced := order.mem_iff.mpr (List.mem_append_left extra among)
      have known : record.key? member.1.label = some key := named ▸ record.key_of_label shaped key
      obtain ⟨-, -, read⟩ := accepted_object takes accepted
      exact refuses _ rearranged (read member inPlaced key known)

theorem record_refuses_replaced (written : Record) (key : Key) (path : List String) {other : Json}
    (refuses : (record.form key).Refuses
      (((record.form key).write (record.get written key)).replaceAt path other)) :
    record.toForm.Refuses ((record.write written).replaceAt (record.label key :: path) other) := by
  have listed : (record.label key, (record.form key).write (record.get written key)) ∈
      record.keys.map (record.memberOf written) :=
    List.mem_map_of_mem (record.mem_keys key)
  obtain ⟨replaced, same, among⟩ := replaced_listed listed path other
  change (record.write written).replaceAt _ _ = _ at same
  rw [same]
  exact record_refuses shaped takes among refuses

end RecordForm

end MotorTariff.Json
