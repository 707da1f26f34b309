import MotorTariff.Proofs.Json.ByKey

/-!
# Values rearranged

A value that is to be written can be laid out in other ways: the members of every object in any
order, blanks between all tokens, texts in any spelling, and scalar members added under names that
are not the object's own. A form reads by key if every such layout is read as the value, and if no
layout is read from which a member of the value has been taken away, or to which another member with
the name of one has been added. Texts, flags and integers have no members, and a record of fields
that are read by key is itself read by key.
-/

set_option autoImplicit false

namespace MotorTariff.Json

mutual

/-- The source is a layout of the value, with members added to its objects. -/
inductive Rearranges : Json → Source → Prop where
  | flag {value : Bool} : Rearranges (.flag value) (.flag value)
  | integer {value : Int} {spelling : Number.Spelling} (same : spelling.chars = integerChars value) :
      Rearranges (.integer value) (.number spelling)
  | text {content : String} {spelling : Text.Spelling} (same : spelling.content = content) :
      Rearranges (.text content) (.text spelling)
  | object {members : List (String × Json)} {own extra placed : List (Place × Source)}
      {closing : Blanks} (each : RearrangesEach members own)
      (others : ∀ member ∈ extra, member.1.label ∉ members.map Prod.fst ∧ member.2.IsScalar)
      (order : placed.Perm (own ++ extra)) :
      Rearranges (.object members) (.object placed closing)

/-- Each member has its name, and a layout of its value. -/
inductive RearrangesEach : List (String × Json) → List (Place × Source) → Prop where
  | nil : RearrangesEach [] []
  | cons {name : String} {json : Json} {members : List (String × Json)} {place : Place}
      {source : Source} {own : List (Place × Source)} (named : place.label = name)
      (value : Rearranges json source) (each : RearrangesEach members own) :
      RearrangesEach ((name, json) :: members) ((place, source) :: own)

end

/-- One of the members with these names is taken away, or another one is added. -/
inductive LosesOrRepeats (names : List String) :
    List (Place × Source) → List (Place × Source) → Prop where
  | loses {before after : List (Place × Source)} {member : Place × Source}
      (own : member.1.label ∈ names) : LosesOrRepeats names (before ++ member :: after) (before ++ after)
  | repeats {before after : List (Place × Source)} {member : Place × Source}
      (own : member.1.label ∈ names) : LosesOrRepeats names (before ++ after) (before ++ member :: after)

/-- In a layout of the value, at some depth, a member of the value is lost or repeated. -/
inductive Spoils : Json → Source → Source → Prop where
  | here {members : List (String × Json)} {placed changed : List (Place × Source)}
      {closing : Blanks} (change : LosesOrRepeats (members.map Prod.fst) placed changed) :
      Spoils (.object members) (.object placed closing) (.object changed closing)
  | inside {members : List (String × Json)} {json : Json} {before after : List (Place × Source)}
      {place : Place} {source spoilt : Source} {closing : Blanks}
      (own : (place.label, json) ∈ members) (value : Spoils json source spoilt) :
      Spoils (.object members) (.object (before ++ (place, source) :: after) closing)
        (.object (before ++ (place, spoilt) :: after) closing)

section Layouts

variable (arrange : List (Place × Source) → List (Place × Source))

mutual

/-- The layout without blanks in which the members of every object are arranged in this way; doubles
and lists have none. -/
def layout? : Json → Option Source
  | .flag value => some (.flag value)
  | .integer value => some (.number (.ofInt value))
  | .text content => some (.text (.ofText content))
  | .object members => (memberLayouts? members).map fun own => .object (arrange own) default
  | .float _ | .list _ => none

def memberLayouts? : List (String × Json) → Option (List (Place × Source))
  | [] => some []
  | (name, json) :: members => do
      let source ← layout? json
      let own ← memberLayouts? members
      some ((Place.tight name, source) :: own)

end

variable {arrange}

mutual

theorem rearranges_layout (permutes : ∀ members, (arrange members).Perm members) :
    ∀ (json : Json) {source : Source}, layout? arrange json = some source → json.Rearranges source
  | .flag _, _, rfl => .flag
  | .integer value, _, rfl => .integer (Number.Spelling.chars_of_int value)
  | .text content, _, rfl => .text (Text.Spelling.content_of_text content)
  | .object members, source, laid => by
      rw [layout?, Option.map_eq_some_iff] at laid
      obtain ⟨own, each, rfl⟩ := laid
      have eachRearranged := rearranges_member_layouts permutes members each
      apply Rearranges.object eachRearranged (List.forall_mem_nil _)
      rw [List.append_nil]
      exact permutes own

theorem rearranges_member_layouts (permutes : ∀ members, (arrange members).Perm members) :
    ∀ (members : List (String × Json)) {own : List (Place × Source)},
      memberLayouts? arrange members = some own → RearrangesEach members own
  | [], _, rfl => .nil
  | (name, json) :: members, own, laid => by
      simp only [memberLayouts?, Option.bind_eq_bind, Option.bind_eq_some_iff,
        Option.some_inj] at laid
      obtain ⟨source, value, later, each, rfl⟩ := laid
      have valueRearranged := rearranges_layout permutes json value
      have named : (Place.tight name).label = name := Text.Spelling.content_of_text name
      exact .cons named valueRearranged (rearranges_member_layouts permutes members each)

end

mutual

theorem bytes_of_layout : ∀ (json : Json) {source : Source}, layout? id json = some source →
    source.bytes = Utf8.encode json.compact
  | .flag _, _, rfl => rfl
  | .integer value, _, rfl => congrArg Utf8.encode (Number.Spelling.chars_of_int value)
  | .text content, _, rfl => Text.quoted_of_text content
  | .object members, source, laid => by
      rw [layout?, Option.map_eq_some_iff] at laid
      obtain ⟨own, each, rfl⟩ := laid
      change Mark.braceOpen :: (Source.memberBytes true own ++ [Mark.braceClose]) = _
      rw [bytes_of_member_layouts members each]
      rfl

theorem bytes_of_member_layouts : ∀ (members : List (String × Json))
    {own : List (Place × Source)}, memberLayouts? id members = some own → ∀ {first : Bool},
      Source.memberBytes first own ++ [Mark.braceClose] =
        Utf8.encode (Json.compactMembers first members)
  | [], _, rfl, _ => rfl
  | (name, json) :: members, own, laid, first => by
      simp only [memberLayouts?, Option.bind_eq_bind, Option.bind_eq_some_iff,
        Option.some_inj] at laid
      obtain ⟨source, value, later, each, rfl⟩ := laid
      have comma : (if first then [] else [Mark.comma]) =
          Utf8.encode (if first then [] else [',']) := by
        cases first <;> rfl
      have colon : ∀ chars, Utf8.encode (':' :: chars) = Mark.colon :: Utf8.encode chars := by
        intro chars
        rfl
      rw [Json.compactMembers]
      simp only [Utf8.encode_append, colon, ← bytes_of_layout json value,
        ← bytes_of_member_layouts members each]
      rw [Source.memberBytes, comma]
      simp only [Place.tight, Text.quoted_of_text, List.append_assoc, List.cons_append]
      rfl

end

end Layouts

theorem names_of_each {members : List (String × Json)} {own : List (Place × Source)}
    (each : RearrangesEach members own) :
    own.map (fun member => member.1.label) = members.map Prod.fst := by
  induction own generalizing members with
  | nil =>
      cases each
      rfl
  | cons first own induction =>
      cases each with
      | cons named value later =>
          rw [List.map_cons, List.map_cons, named, induction later]

theorem rearranges_of_each {members : List (String × Json)} {own : List (Place × Source)}
    (each : RearrangesEach members own) {member : Place × Source} (among : member ∈ own) :
    ∃ json, (member.1.label, json) ∈ members ∧ Rearranges json member.2 := by
  induction own generalizing members with
  | nil => cases among
  | cons first own induction =>
      cases each with
      | cons named value later =>
          rcases List.mem_cons.mp among with rfl | behind
          · exact ⟨_, named ▸ List.mem_cons_self, value⟩
          · obtain ⟨json, listed, rearranged⟩ := induction later behind
            exact ⟨json, List.mem_cons_of_mem _ listed, rearranged⟩

structure Form.ReadsByKey {Value : Type} (form : Form Value) : Prop where
  takes_one_value : form.TakesOneValue
  reads : ∀ {value : Value} {source : Source}, Rearranges (form.write value) source →
    form.Reads source value
  refuses : ∀ {value : Value} {source spoilt : Source}, Rearranges (form.write value) source →
    Spoils (form.write value) source spoilt → ¬ form.Accepts spoilt

namespace Form

theorem text_reads_by_key : text.ReadsByKey where
  takes_one_value := text_takes_one_value
  reads := by
    intro value source rearranged gap rest _
    change Rearranges (.text value) source at rearranged
    cases rearranged with
    | @text _ spelling same =>
        change readText (gap ++ _) = _
        rw [Source.text_layout, readText, Source.skip_gap_of_mark gap rfl]
        dsimp only
        rw [if_pos rfl, Text.after_quote_spelled, same]
  refuses := by
    intro value source spoilt _ spoils
    change Spoils (.text value) source spoilt at spoils
    cases spoils

theorem flag_reads_by_key : flag.ReadsByKey where
  takes_one_value := flag_takes_one_value
  reads := by
    intro value source rearranged gap rest ends
    change Rearranges (.flag value) source at rearranged
    cases rearranged with
    | flag =>
        change readFlag (gap ++ _) = _
        rw [readFlag, skip_blanks_append gap.property]
        exact flag_round_trips value rest ends
  refuses := by
    intro value source spoilt _ spoils
    change Spoils (.flag value) source spoilt at spoils
    cases spoils

theorem int32_reads_by_key : int32.ReadsByKey where
  takes_one_value := int32_takes_one_value
  reads := by
    intro value source rearranged gap rest ends
    change Rearranges (.integer value.toInt) source at rearranged
    cases rearranged with
    | @integer _ spelling same =>
        change Int32Form.read (gap ++ (Utf8.encode spelling.chars ++ rest)) = _
        rw [same, Int32Form.read, skip_blanks_append gap.property]
        exact int32_round_trips value rest ends
  refuses := by
    intro value source spoilt _ spoils
    change Spoils (.integer value.toInt) source spoilt at spoils
    cases spoils

end Form

namespace RecordForm

variable {Key Record : Type} {record : RecordForm Key Record} {written : Record}

section Names

variable {name : String} {key : Key}

theorem names_of_write :
    (record.keys.map (record.memberOf written)).map Prod.fst = record.keys.map record.label := by
  rw [List.map_map]
  rfl

theorem name_listed {json : Json}
    (listed : (name, json) ∈ record.keys.map (record.memberOf written)) :
    name ∈ record.keys.map record.label := by
  rw [← names_of_write]
  exact List.mem_map_of_mem listed

theorem label_of_key (known : record.key? name = some key) : record.label key = name := by
  simpa using List.find?_some known

theorem key_of_listed (shaped : record.Shaped) (listed : name ∈ record.keys.map record.label) :
    ∃ key, record.key? name = some key := by
  obtain ⟨key, -, rfl⟩ := List.mem_map.mp listed
  exact ⟨key, record.key_of_label shaped key⟩

theorem no_key_of_unlisted (unlisted : name ∉ record.keys.map record.label) :
    record.key? name = none := by
  cases known : record.key? name with
  | none => rfl
  | some key =>
      rw [← label_of_key known] at unlisted
      exact absurd (List.mem_map_of_mem (record.mem_keys key)) unlisted

theorem listed_of_key (known : record.key? name = some key) :
    name ∈ record.keys.map record.label := by
  rw [← label_of_key known]
  exact List.mem_map_of_mem (record.mem_keys key)

end Names

section Layouts

variable (shaped : record.Shaped) {placed own extra : List (Place × Source)}

include shaped

theorem known_keys_of_each {keys : List Key}
    (each : RearrangesEach (keys.map (record.memberOf written)) own) :
    record.knownKeys own = keys := by
  induction keys generalizing own with
  | nil =>
      cases each
      rfl
  | cons key keys induction =>
      cases each with
      | cons named value later =>
          rw [known_keys_of_known (named ▸ record.key_of_label shaped key), induction later]

omit shaped in
theorem no_known_keys (others : ∀ member ∈ extra, member.1.label ∉ record.keys.map record.label) :
    record.knownKeys extra = [] := by
  apply List.filterMap_eq_nil_iff.mpr
  intro member among
  exact no_key_of_unlisted (others member among)

theorem field_of_listed {key : Key} {name : String} {json : Json}
    (listed : (name, json) ∈ record.keys.map (record.memberOf written))
    (known : record.key? name = some key) :
    json = (record.form key).write (record.get written key) := by
  obtain ⟨other, -, same⟩ := List.mem_map.mp listed
  obtain ⟨rfl, rfl⟩ := Prod.mk.inj same
  rw [record.key_of_label shaped other] at known
  cases known
  rfl

theorem object_of_rearranged {source : Source}
    (rearranged : Rearranges (record.write written) source) :
    ∃ placed closing, source = .object placed closing ∧
      (record.knownKeys placed).Perm record.keys ∧
      (∀ member ∈ placed, ∀ key, record.key? member.1.label = some key →
        Rearranges ((record.form key).write (record.get written key)) member.2) ∧
      ∀ member ∈ placed, record.key? member.1.label = none → member.2.IsScalar := by
  change Rearranges (.object (record.keys.map (record.memberOf written))) source at rearranged
  cases rearranged with
  | @object _ own extra placed closing each others order =>
      rw [names_of_write] at others
      refine ⟨placed, closing, rfl, ?_, ?_, ?_⟩
      · have keys := order.filterMap fun member => record.key? member.1.label
        change (record.knownKeys placed).Perm (record.knownKeys (own ++ extra)) at keys
        rwa [known_keys_append, known_keys_of_each shaped each,
          no_known_keys fun member among => (others member among).1, List.append_nil] at keys
      · intro member among key known
        rcases List.mem_append.mp (order.mem_iff.mp among) with inOwn | inExtra
        · obtain ⟨json, listed, value⟩ := rearranges_of_each each inOwn
          exact field_of_listed shaped listed known ▸ value
        · exact absurd (listed_of_key known) (others member inExtra).1
      · intro member among unknown
        rcases List.mem_append.mp (order.mem_iff.mp among) with inOwn | inExtra
        · obtain ⟨json, listed, -⟩ := rearranges_of_each each inOwn
          obtain ⟨key, known⟩ := key_of_listed shaped (name_listed listed)
          rw [unknown] at known
          cases known
        · exact (others member inExtra).2

end Layouts

section Changes

variable {before after : List (Place × Source)} {member : Place × Source} {key : Key}

theorem known_keys_between (known : record.key? member.1.label = some key) :
    record.knownKeys (before ++ member :: after) =
      record.knownKeys before ++ key :: record.knownKeys after := by
  rw [known_keys_append, known_keys_of_known known]

theorem named_once (known : record.key? member.1.label = some key)
    (once : (record.knownKeys (before ++ member :: after)).Nodup) :
    key ∉ record.knownKeys (before ++ after) := by
  rw [known_keys_between known, List.nodup_middle, List.nodup_cons] at once
  rw [known_keys_append]
  exact once.1

theorem not_complete_of_change (shaped : record.Shaped) {placed changed : List (Place × Source)}
    (change : LosesOrRepeats (record.keys.map record.label) placed changed)
    (whole : (record.knownKeys placed).Perm record.keys) :
    ¬ ((record.knownKeys changed).Nodup ∧ ∀ key, key ∈ record.knownKeys changed) := by
  rintro ⟨once, all⟩
  cases change with
  | loses own =>
      obtain ⟨key, known⟩ := key_of_listed shaped own
      have distinct := whole.nodup_iff.mpr (record.keys_nodup shaped)
      exact named_once known distinct (all key)
  | repeats own =>
      obtain ⟨key, known⟩ := key_of_listed shaped own
      exact named_once known once (whole.mem_iff.mpr (record.mem_keys key))

end Changes

variable [DecidableEq Key]

theorem record_reads_by_key (shaped : record.Shaped)
    (fields : ∀ key, (record.form key).ReadsByKey) : record.toForm.ReadsByKey where
  takes_one_value := record_takes_one_value fun key => (fields key).takes_one_value
  reads := by
    intro value source rearranged
    obtain ⟨placed, closing, rfl, whole, values, others⟩ := object_of_rearranged shaped rearranged
    apply reads_object shaped _ others
    · exact whole.nodup_iff.mpr (record.keys_nodup shaped)
    · exact fun key => whole.mem_iff.mpr (record.mem_keys key)
    · intro member among key known
      exact (fields key).reads (values member among key known)
  refuses := by
    intro value source spoilt rearranged spoils accepted
    obtain ⟨placed, closing, rfl, whole, values, -⟩ := object_of_rearranged shaped rearranged
    change Spoils (.object (record.keys.map (record.memberOf value))) _ _ at spoils
    cases spoils with
    | here change =>
        obtain ⟨once, all, -⟩ :=
          accepted_object (fun key => (fields key).takes_one_value) accepted
        rw [names_of_write] at change
        exact not_complete_of_change shaped change whole ⟨once, all⟩
    | @inside _ json before after place source spoilt _ own spoils =>
        obtain ⟨-, -, read⟩ := accepted_object (fun key => (fields key).takes_one_value) accepted
        obtain ⟨key, known⟩ := key_of_listed shaped (name_listed own)
        obtain rfl := field_of_listed shaped own known
        have among : ∀ value, (place, value) ∈ before ++ (place, value) :: after := by
          intro value
          exact List.mem_append_right _ List.mem_cons_self
        exact (fields key).refuses (values _ (among source) key known) spoils
          (read _ (among spoilt) key known)

end RecordForm

end MotorTariff.Json
