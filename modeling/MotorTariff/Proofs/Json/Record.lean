import Mathlib.Data.List.Nodup
import MotorTariff.Proofs.Json.RoundTrip

/-!
# Reading a record that was written

A record is written with all its members in the order of its keys. The loop over the members keeps
one invariant: the slots filled are those of the keys passed, each with what is read for its field.
So no key is met twice, and at the closing brace no field is missing. The record read has the fields
that were read, which need not be those that were written.
-/

set_option autoImplicit false

namespace MotorTariff.Json.RecordForm

variable {Key Record : Type} [DecidableEq Key] (record : RecordForm Key Record)

/-- The keys have labels of their own, and the fields carry all of the record. -/
structure Shaped : Prop where
  labels_nodup : (record.keys.map record.label).Nodup
  make_get : ∀ value, record.make (record.get value) = value

/-- All fields besides are read back as they were. -/
structure Lawful : Prop extends record.Shaped where
  form_round_trips : ∀ key, (record.form key).RoundTrips

def slotsBefore (result : Record) (remaining : List Key) : record.Slots := fun key =>
  if key ∈ remaining then none else some (record.get result key)

def memberOf (value : Record) (key : Key) : String × Json :=
  (record.label key, (record.form key).write (record.get value key))

section Slots

variable (result : Record)

theorem slots_before_all : record.slotsBefore result record.keys = record.emptySlots := by
  funext key
  simp [slotsBefore, emptySlots, record.mem_keys key]

theorem fill_slots_before {key : Key} {remaining : List Key} (fresh : key ∉ remaining) :
    record.fill (record.slotsBefore result (key :: remaining)) key (record.get result key) =
      record.slotsBefore result remaining := by
  funext other
  by_cases same : key = other
  · subst other
    simp [fill, slotsBefore, fresh]
  · simp [fill, slotsBefore, same, Ne.symm same]

theorem complete_of_filled (shaped : record.Shaped) :
    record.complete (record.slotsBefore result []) = .ok result := by
  unfold complete
  split
  next key missing =>
    have empty := List.find?_some missing
    simp [slotsBefore] at empty
  next =>
    simp only [slotsBefore, List.not_mem_nil, if_false, Option.get_some]
    exact congrArg Except.ok (shaped.make_get result)

end Slots

section Keys

omit [DecidableEq Key]

theorem keys_nodup (shaped : record.Shaped) : record.keys.Nodup :=
  shaped.labels_nodup.of_map

theorem key_of_label (shaped : record.Shaped) (key : Key) :
    record.key? (record.label key) = some key := by
  cases found : record.key? (record.label key) with
  | none =>
      have different := List.find?_eq_none.mp found key (record.mem_keys key)
      simp at different
  | some other =>
      have same : record.label other = record.label key := by
        simpa using List.find?_some found
      rw [List.inj_on_of_nodup_map shaped.labels_nodup (record.mem_keys other)
        (record.mem_keys key) same]

end Keys

theorem ends_of_members (members : List (String × Json)) (rest : Bytes) :
    Ends (Utf8.encode (compactMembers false members) ++ rest) := by
  cases members with
  | nil => exact ends_cons (by decide)
  | cons member members => exact ends_cons (by decide)

theorem length_le_of_members (members : List (String × Json)) (first : Bool) :
    members.length ≤ (Utf8.encode (compactMembers first members)).length := by
  induction members generalizing first with
  | nil => exact Nat.zero_le _
  | cons member members ih =>
      obtain ⟨name, json⟩ := member
      have later := ih false
      simp only [compactMembers, Utf8.encode_append, Utf8.encode_cons, List.length_append,
        List.length_cons, quoteText, Text.encode_quote]
      omega

theorem member_start_of_written (first : Bool) (chars : List Char) (rest : Bytes) :
    memberStart first
        (Utf8.encode ((if first then [] else [',']) ++ quote chars) ++ rest) =
      .ok (some (Utf8.encode (chars.flatMap escapeChar) ++ Mark.quote :: rest)) := by
  have opening : Utf8.encode (quote chars) ++ rest =
      Mark.quote :: (Utf8.encode (chars.flatMap escapeChar) ++ Mark.quote :: rest) := by
    rw [Text.encode_quote, List.cons_append, List.append_assoc, List.singleton_append]
  rw [Utf8.encode_append, List.append_assoc, opening]
  cases first with
  | true => rfl
  | false => rfl

section Members

variable {record}
variable (shaped : record.Shaped) {written result : Record}
variable (fields : ∀ key,
  (record.form key).ReadsBack (record.get written key) (record.get result key))

include shaped fields

/-- One turn of the loop: the first of the remaining members is read, and its slot filled. -/
theorem members_step {key : Key} {remaining : List Key} (fresh : key ∉ remaining) (fuel : Nat)
    (first : Bool) (later : List (String × Json)) (rest : Bytes) :
    record.members (fuel + 1) first (record.slotsBefore result (key :: remaining))
        (Utf8.encode (compactMembers first (record.memberOf written key :: later)) ++ rest) =
      record.members fuel false (record.slotsBefore result remaining)
        (Utf8.encode (compactMembers false later) ++ rest) := by
  have layout : Utf8.encode (compactMembers first (record.memberOf written key :: later)) ++ rest =
      Utf8.encode ((if first then [] else [',']) ++ quote (record.label key).toList) ++
        (Mark.colon ::
          (Utf8.encode ((record.form key).write (record.get written key)).compact ++
            (Utf8.encode (compactMembers false later) ++ rest))) := by
    simp only [memberOf, compactMembers, quoteText, Utf8.encode_append, Utf8.encode_cons,
      List.append_assoc]
    rfl
  have empty : (record.slotsBefore result (key :: remaining) key).isSome = false := by
    simp [slotsBefore]
  have taken := fields key _ (ends_of_members later rest)
  have colon : ∀ after, takeColon (Mark.colon :: after) = .ok after := by
    intro after
    rfl
  rw [layout, members, member_start_of_written]
  simp only [settle, Text.after_quote_written, String.ofList_toList, bind, Except.bind,
    record.key_of_label shaped key, empty, colon, taken, Bool.false_eq_true, if_false]
  rw [record.fill_slots_before result fresh]

theorem members_of_written (remaining : List Key) (nodup : remaining.Nodup) {fuel : Nat}
    (enough : remaining.length < fuel) (first : Bool) (rest : Bytes) :
    record.members fuel first (record.slotsBefore result remaining)
        (Utf8.encode (compactMembers first (remaining.map (record.memberOf written))) ++ rest) =
      .ok (record.slotsBefore result [], Mark.braceClose :: rest) := by
  induction remaining generalizing fuel first with
  | nil =>
      obtain ⟨fuel, rfl⟩ := Nat.exists_eq_succ_of_ne_zero (Nat.ne_of_gt enough)
      rfl
  | cons key remaining ih =>
      obtain ⟨fuel, rfl⟩ := Nat.exists_eq_succ_of_ne_zero (Nat.ne_of_gt (Nat.zero_lt_of_lt enough))
      obtain ⟨fresh, distinct⟩ := List.nodup_cons.mp nodup
      rw [List.map_cons, members_step shaped fields fresh]
      exact ih distinct (Nat.lt_of_succ_lt_succ enough) false

omit fields in
theorem read_of_members {after left rest : Bytes}
    (read : record.members (after.length + 1) true record.emptySlots after =
      .ok (record.slotsBefore result [], left)) (closed : closeObject left = .ok rest) :
    record.read (Mark.braceOpen :: after) = .ok (result, rest) := by
  have finished : record.finish (record.slotsBefore result []) left = .ok (result, left) := by
    unfold finish
    rw [record.complete_of_filled result shaped]
  rw [RecordForm.read, skip_blanks_of_mark (by rfl)]
  simp only [if_true, read, bind, Except.bind, finished, closing, closed]
  rfl

theorem record_reads_back : record.toForm.ReadsBack written result := by
  -- The members take at least a byte each, so the fuel is enough for all of them.
  intro rest _
  have shorter := length_le_of_members (record.keys.map (record.memberOf written)) true
  have enough : record.keys.length <
      (Utf8.encode (compactMembers true (record.keys.map (record.memberOf written))) ++
        rest).length + 1 := by
    rw [List.length_map] at shorter
    rw [List.length_append]
    omega
  have read := members_of_written shaped fields record.keys (record.keys_nodup shaped) enough true
    rest
  rw [slots_before_all] at read
  exact read_of_members shaped read (by rfl)

end Members

theorem record_round_trips {record : RecordForm Key Record} (lawful : record.Lawful) :
    record.toForm.RoundTrips := fun _ =>
  record_reads_back lawful.toShaped fun key => lawful.form_round_trips key _

end MotorTariff.Json.RecordForm
