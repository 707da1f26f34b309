import MotorTariff.Proofs.Json.Record
import MotorTariff.Proofs.Json.Source

/-!
# Records are read by key

The members of an object may come in any order, with blanks between all tokens and with members of
other names among them. What a record is read from is then decided by the keys that its members
name: each key has to be named exactly once, and its member has to hold what the field is read from.
-/

set_option autoImplicit false

namespace MotorTariff.Json

section Sources

variable {Value : Type}

/-- Wherever the source stands, all of it is read, and as this value. -/
def Form.Reads (form : Form Value) (source : Source) (value : Value) : Prop :=
  ∀ (gap : Blanks) {rest : Bytes}, Ends rest →
    form.read (gap ++ (source.bytes ++ rest)) = .ok (value, rest)

/-- Somewhere the source is read as something. -/
def Form.Accepts (form : Form Value) (source : Source) : Prop :=
  ∃ (gap : Blanks) (rest : Bytes) (value : Value) (left : Bytes),
    Ends rest ∧ form.read (gap ++ (source.bytes ++ rest)) = .ok (value, left)

theorem rest_of_passes {source : Source} {gap : Blanks} {rest left : Bytes} (ends : Ends rest)
    (passes : Skip.Passes (gap ++ (source.bytes ++ rest)) left) : left = rest := by
  apply Skip.passes_unique passes
  apply Skip.passes_of_same_front _ (source.passes ends)
  rw [skip_blanks_append gap.property]

theorem skip_scalar (gap : Blanks) {source : Source} (scalar : source.IsScalar) {rest : Bytes}
    (ends : Ends rest) : Skip.value (gap ++ (source.bytes ++ rest)) = .ok rest := by
  have taken : Skip.piece (gap ++ (source.bytes ++ rest)) = .ok (.scalar rest) := by
    rw [← Source.piece_of_scalar scalar ends, Skip.piece, Skip.piece,
      skip_blanks_append gap.property]
  rw [Skip.value, Skip.values_of_scalar _ _ taken, Skip.resume_nothing_open]

end Sources

namespace RecordForm

open Source (memberBytes)

variable {Key Record : Type} (record : RecordForm Key Record)

def knownKeys (members : List (Place × Source)) : List Key :=
  members.filterMap fun member => record.key? member.1.label

section KnownKeys

variable {record} {member : Place × Source} {later : List (Place × Source)}

theorem known_keys_of_unknown (unknown : record.key? member.1.label = none) :
    record.knownKeys (member :: later) = record.knownKeys later :=
  List.filterMap_cons_none unknown

theorem known_keys_of_known {key : Key} (known : record.key? member.1.label = some key) :
    record.knownKeys (member :: later) = key :: record.knownKeys later :=
  List.filterMap_cons_some known

theorem known_keys_append (members : List (Place × Source)) :
    record.knownKeys (members ++ later) = record.knownKeys members ++ record.knownKeys later :=
  List.filterMap_append

end KnownKeys

variable [DecidableEq Key]

section Turns

variable {record} (fuel : Nat) (first : Bool) {slots : record.Slots} (gap : Blanks) {place : Place}
  (value : Source) (later : List (Place × Source)) (tail : Bytes)

theorem members_of_unknown (unknown : record.key? place.label = none) :
    record.members (fuel + 1) first slots
        (gap ++ (memberBytes first ((place, value) :: later) ++ tail)) =
      settle (Skip.value (place.beforeValue ++
          (value.bytes ++ (place.afterValue ++ (memberBytes false later ++ tail))))) >>=
        record.members fuel false slots := by
  obtain ⟨after, named, start, name, colon⟩ := Source.member_taken gap first tail place value later
  rw [members, start]
  simp only [settle, ok_bind, name, unknown, colon]

theorem members_of_fresh {key : Key} (known : record.key? place.label = some key)
    (fresh : slots key = none) :
    record.members (fuel + 1) first slots
        (gap ++ (memberBytes first ((place, value) :: later) ++ tail)) =
      settle ((record.form key).read (place.beforeValue ++
          (value.bytes ++ (place.afterValue ++ (memberBytes false later ++ tail))))) >>=
        fun (content, bytes) => record.members fuel false (record.fill slots key content) bytes := by
  obtain ⟨after, named, start, name, colon⟩ := Source.member_taken gap first tail place value later
  rw [members, start]
  simp only [settle, ok_bind, name, known, fresh, colon, Option.isSome_none, Bool.false_eq_true,
    if_false]

theorem members_of_repeated {key : Key} (known : record.key? place.label = some key)
    (repeated : (slots key).isSome = true) :
    ∃ stop, record.members (fuel + 1) first slots
      (gap ++ (memberBytes first ((place, value) :: later) ++ tail)) = .error stop := by
  obtain ⟨after, named, start, name, colon⟩ := Source.member_taken gap first tail place value later
  rw [members, start]
  simp only [settle, ok_bind, name, known, repeated, if_true]
  exact ⟨_, rfl⟩

theorem members_at_closing (closing : Blanks) (rest : Bytes) :
    ∃ after, record.members (fuel + 1) first slots
        (gap ++ (memberBytes first [] ++ (closing ++ Mark.braceClose :: rest))) =
          .ok (slots, after) ∧
      closeObject after = .ok rest := by
  have front : skipBlanks (gap ++ (memberBytes first [] ++ (closing ++ Mark.braceClose :: rest))) =
      Mark.braceClose :: rest :=
    (skip_blanks_append gap.property _).trans (Source.skip_gap_of_mark closing rfl)
  have start : memberStart first
      (gap ++ (memberBytes first [] ++ (closing ++ Mark.braceClose :: rest))) = .ok none := by
    rw [memberStart, front]
    rfl
  refine ⟨gap ++ (memberBytes first [] ++ (closing ++ Mark.braceClose :: rest)), ?_, ?_⟩
  · rw [members, start]
    rfl
  · rw [closeObject, front]
    rfl

end Turns

section Reading

variable {record} {result : Record}

theorem members_by_key {placed : List (Place × Source)}
    (reads : ∀ member ∈ placed, ∀ key, record.key? member.1.label = some key →
      (record.form key).Reads member.2 (record.get result key))
    (others : ∀ member ∈ placed, record.key? member.1.label = none → member.2.IsScalar)
    (once : (record.knownKeys placed).Nodup) {fuel : Nat} (enough : placed.length < fuel)
    (first : Bool) (gap closing : Blanks) (rest : Bytes) :
    ∃ after, record.members fuel first (record.slotsBefore result (record.knownKeys placed))
        (gap ++ (memberBytes first placed ++ (closing ++ Mark.braceClose :: rest))) =
          .ok (record.slotsBefore result [], after) ∧
      closeObject after = .ok rest := by
  induction placed generalizing fuel first gap with
  | nil =>
      obtain ⟨fuel, rfl⟩ := Nat.exists_eq_succ_of_ne_zero (Nat.ne_of_gt enough)
      exact members_at_closing fuel first gap closing rest
  | cons member later induction =>
      obtain ⟨fuel, rfl⟩ := Nat.exists_eq_succ_of_ne_zero (Nat.ne_of_gt (Nat.zero_lt_of_lt enough))
      obtain ⟨place, value⟩ := member
      obtain ⟨readsHere, readsLater⟩ := List.forall_mem_cons.mp reads
      obtain ⟨scalarHere, scalarLater⟩ := List.forall_mem_cons.mp others
      dsimp only at readsHere scalarHere
      have ends := Source.ends_before_members place.afterValue later closing rest
      have goOn := fun distinct => induction readsLater scalarLater distinct
        (Nat.lt_of_succ_lt_succ enough) false place.afterValue
      cases named : record.key? place.label with
      | none =>
          have passed : record.knownKeys ((place, value) :: later) = record.knownKeys later :=
            known_keys_of_unknown named
          rw [passed] at once ⊢
          rw [members_of_unknown _ _ _ _ _ _ named,
            skip_scalar place.beforeValue (scalarHere named) ends]
          exact goOn once
      | some key =>
          have met : record.knownKeys ((place, value) :: later) = key :: record.knownKeys later :=
            known_keys_of_known named
          rw [met] at once ⊢
          obtain ⟨fresh, distinct⟩ := List.nodup_cons.mp once
          have empty : record.slotsBefore result (key :: record.knownKeys later) key = none := by
            simp [slotsBefore]
          rw [members_of_fresh _ _ _ _ _ _ named empty,
            readsHere key named place.beforeValue ends]
          change ∃ after, record.members fuel false (record.fill _ key _) _ = _ ∧ _
          rw [record.fill_slots_before result fresh]
          exact goOn distinct

end Reading

section Taking

variable {record}

/-- What follows from a run of the loop over these members: no key was named twice or had its slot
filled before, the slots filled are those of the keys named, and each field was read. -/
structure TakenByKey (slots filled : record.Slots) (placed : List (Place × Source)) : Prop where
  once : (record.knownKeys placed).Nodup
  fresh : ∀ key ∈ record.knownKeys placed, slots key = none
  named : ∀ key, (filled key).isSome = true →
    (slots key).isSome = true ∨ key ∈ record.knownKeys placed
  accepted : ∀ member ∈ placed, ∀ key, record.key? member.1.label = some key →
    (record.form key).Accepts member.2

variable {slots filled : record.Slots} {member : Place × Source} {later : List (Place × Source)}

omit [DecidableEq Key] in
theorem taken_nothing : record.TakenByKey slots slots [] where
  once := List.nodup_nil
  fresh := List.forall_mem_nil _
  named _ := Or.inl
  accepted := List.forall_mem_nil _

omit [DecidableEq Key] in
theorem taken_unknown (unknown : record.key? member.1.label = none)
    (taken : record.TakenByKey slots filled later) :
    record.TakenByKey slots filled (member :: later) where
  once := by
    rw [known_keys_of_unknown unknown]
    exact taken.once
  fresh := by
    rw [known_keys_of_unknown unknown]
    exact taken.fresh
  named := by
    rw [known_keys_of_unknown unknown]
    exact taken.named
  accepted := by
    refine List.forall_mem_cons.mpr ⟨?_, taken.accepted⟩
    intro key known
    rw [unknown] at known
    cases known

theorem taken_known {key : Key} {content : record.Value key}
    (known : record.key? member.1.label = some key) (empty : slots key = none)
    (accepted : (record.form key).Accepts member.2)
    (taken : record.TakenByKey (record.fill slots key content) filled later) :
    record.TakenByKey slots filled (member :: later) where
  once := by
    rw [known_keys_of_known known, List.nodup_cons]
    refine ⟨?_, taken.once⟩
    intro again
    have nothing := taken.fresh key again
    simp [fill] at nothing
  fresh := by
    rw [known_keys_of_known known, List.forall_mem_cons]
    refine ⟨empty, ?_⟩
    intro other among
    have nothing := taken.fresh other among
    unfold fill at nothing
    split at nothing
    · cases nothing
    · exact nothing
  named := by
    rw [known_keys_of_known known]
    intro other present
    rcases taken.named other present with before | among
    · by_cases same : key = other
      · exact Or.inr (same ▸ List.mem_cons_self)
      · left
        simpa [fill, same] using before
    · exact Or.inr (List.mem_cons_of_mem _ among)
  accepted := by
    refine List.forall_mem_cons.mpr ⟨?_, taken.accepted⟩
    intro other also
    rw [known] at also
    cases also
    exact accepted

theorem taken_of_members (takes : ∀ key, (record.form key).TakesOneValue)
    {placed : List (Place × Source)} {fuel : Nat} {first : Bool} {gap closing : Blanks}
    {rest after : Bytes}
    (read : record.members fuel first slots
      (gap ++ (memberBytes first placed ++ (closing ++ Mark.braceClose :: rest))) =
        .ok (filled, after)) :
    record.TakenByKey slots filled placed := by
  induction placed generalizing fuel first gap slots with
  | nil =>
      cases fuel with
      | zero => cases read
      | succ fuel =>
          obtain ⟨_, closed, -⟩ := record.members_at_closing fuel first gap closing rest
          rw [closed] at read
          cases read
          exact taken_nothing
  | cons member later induction =>
      obtain ⟨place, value⟩ := member
      have ends := Source.ends_before_members place.afterValue later closing rest
      cases fuel with
      | zero => cases read
      | succ fuel =>
          cases named : record.key? place.label with
          | none =>
              rw [members_of_unknown _ _ _ _ _ _ named] at read
              obtain ⟨next, skipped, goesOn⟩ := bind_ok_iff.mp read
              rw [settle_ok_iff] at skipped
              obtain rfl := rest_of_passes ends (Skip.passes_of_values skipped)
              exact taken_unknown named (induction goesOn)
          | some key =>
              cases slot : slots key with
              | some earlier =>
                  have repeated : (slots key).isSome = true := by
                    rw [slot]
                    rfl
                  obtain ⟨stop, refused⟩ := members_of_repeated fuel first gap value later
                    (closing ++ Mark.braceClose :: rest) named repeated
                  rw [refused] at read
                  cases read
              | none =>
                  rw [members_of_fresh _ _ _ _ _ _ named slot] at read
                  obtain ⟨⟨content, next⟩, taken, goesOn⟩ := bind_ok_iff.mp read
                  rw [settle_ok_iff] at taken
                  obtain rfl := rest_of_passes ends (takes key taken)
                  exact taken_known named slot ⟨_, _, _, _, ends, taken⟩ (induction goesOn)

omit [DecidableEq Key] in
theorem filled_of_complete {result : Record} (complete : record.complete slots = .ok result)
    (key : Key) : (slots key).isSome = true := by
  unfold RecordForm.complete at complete
  split at complete
  next => cases complete
  next missing =>
    have present := List.find?_eq_none.mp missing key (record.mem_keys key)
    simpa [Option.isSome_iff_ne_none] using present

end Taking

section Objects

variable {record} {placed : List (Place × Source)} {closing : Blanks}

omit [DecidableEq Key] in
theorem length_le_of_placed (placed : List (Place × Source)) (first : Bool) :
    placed.length ≤ (memberBytes first placed).length := by
  induction placed generalizing first with
  | nil => exact Nat.zero_le _
  | cons member later induction =>
      obtain ⟨place, value⟩ := member
      have after := induction false
      simp only [memberBytes, List.length_append, List.length_cons]
      omega

theorem read_of_same_front {bytes other : Bytes} (same : skipBlanks bytes = skipBlanks other) :
    record.read bytes = record.read other := by
  rw [RecordForm.read, RecordForm.read, same]

theorem reads_object (shaped : record.Shaped) {result : Record}
    (reads : ∀ member ∈ placed, ∀ key, record.key? member.1.label = some key →
      (record.form key).Reads member.2 (record.get result key))
    (others : ∀ member ∈ placed, record.key? member.1.label = none → member.2.IsScalar)
    (once : (record.knownKeys placed).Nodup) (all : ∀ key, key ∈ record.knownKeys placed) :
    record.toForm.Reads (.object placed closing) result := by
  intro gap rest _
  have nothing : record.slotsBefore result (record.knownKeys placed) = record.emptySlots := by
    funext key
    simp [slotsBefore, emptySlots, all key]
  have room : placed.length <
      (memberBytes true placed ++ (closing ++ Mark.braceClose :: rest)).length + 1 := by
    have shorter := length_le_of_placed placed true
    rw [List.length_append]
    omega
  obtain ⟨after, read, closed⟩ := members_by_key reads others once room true default closing rest
  rw [nothing] at read
  change record.read (gap ++ ((Source.object placed closing).bytes ++ rest)) = _
  rw [read_of_same_front (skip_blanks_append gap.property _), Source.object_layout]
  exact read_of_members shaped read closed

/-- An object is read as a record only if its members name every key, each of them once, and hold
what the fields are read from. -/
theorem accepted_object (takes : ∀ key, (record.form key).TakesOneValue)
    (accepted : record.toForm.Accepts (.object placed closing)) :
    (record.knownKeys placed).Nodup ∧ (∀ key, key ∈ record.knownKeys placed) ∧
      ∀ member ∈ placed, ∀ key, record.key? member.1.label = some key →
        (record.form key).Accepts member.2 := by
  obtain ⟨gap, rest, value, left, -, read⟩ := accepted
  change record.read (gap ++ ((Source.object placed closing).bytes ++ rest)) = _ at read
  rw [read_of_same_front (skip_blanks_append gap.property _), Source.object_layout,
    RecordForm.read, skip_blanks_of_mark rfl] at read
  dsimp only at read
  rw [if_pos rfl] at read
  obtain ⟨after, inside, -⟩ := closing_ok read
  obtain ⟨⟨filled, next⟩, members, finished⟩ := bind_ok_iff.mp inside
  obtain ⟨-, complete⟩ := finish_rest finished
  have afterNothing : record.members _ true record.emptySlots ((default : Blanks) ++
      (memberBytes true placed ++ (closing ++ Mark.braceClose :: rest))) = .ok (filled, next) :=
    members
  have taken := taken_of_members takes afterNothing
  refine ⟨taken.once, ?_, taken.accepted⟩
  intro key
  rcases taken.named key (filled_of_complete complete key) with before | among
  · cases before
  · exact among

end Objects

end RecordForm

end MotorTariff.Json
