import MotorTariff.Proofs.Json.NumberSpelling
import MotorTariff.Proofs.Json.OneValue
import MotorTariff.Proofs.Json.RoundTrip

/-!
# Values as they stand in a document

A value can be laid out in many ways: there may be blanks between any two tokens, and texts and
numbers can be spelled differently. The sources below keep the blanks and the spellings, so that
every layout of a value has its own source. Whatever a source holds, it is passed over as one value,
with any text behind it that does not go on with a number.
-/

set_option autoImplicit false

namespace MotorTariff.Json

/-- Blanks between two tokens. -/
abbrev Blanks : Type := {bytes : Bytes // ∀ b ∈ bytes, isBlank b = true}

instance : Inhabited Blanks := ⟨⟨[], List.forall_mem_nil _⟩⟩

structure Margins where
  before : Blanks
  after : Blanks

/-- The name of a member, and the blanks around its name and its value. -/
structure Place where
  beforeName : Blanks
  name : Text.Spelling
  beforeColon : Blanks
  beforeValue : Blanks
  afterValue : Blanks

def Place.label (place : Place) : String := place.name.content

def Place.tight (name : String) : Place := ⟨default, .ofText name, default, default, default⟩

inductive Source where
  | null
  | flag (value : Bool)
  | number (spelling : Number.Spelling)
  | text (spelling : Text.Spelling)
  | list (items : List (Margins × Source)) (closing : Blanks)
  | object (members : List (Place × Source)) (closing : Blanks)

namespace Source

mutual

def bytes : Source → Bytes
  | .null => Utf8.encode ['n', 'u', 'l', 'l']
  | .flag value => Utf8.encode (flagChars value)
  | .number spelling => Utf8.encode spelling.chars
  | .text spelling => spelling.quoted
  | .list items closing =>
      Mark.bracketOpen :: (itemBytes true items ++ (closing ++ [Mark.bracketClose]))
  | .object members closing =>
      Mark.braceOpen :: (memberBytes true members ++ (closing ++ [Mark.braceClose]))

/-- The items with a comma before each but the first. -/
def itemBytes : Bool → List (Margins × Source) → Bytes
  | _, [] => []
  | first, (margins, item) :: later =>
      (if first then [] else [Mark.comma]) ++
        (margins.before ++ (item.bytes ++ (margins.after ++ itemBytes false later)))

def memberBytes : Bool → List (Place × Source) → Bytes
  | _, [] => []
  | first, (place, value) :: later =>
      (if first then [] else [Mark.comma]) ++
        (place.beforeName ++ (place.name.quoted ++ (place.beforeColon ++
          (Mark.colon :: (place.beforeValue ++ (value.bytes ++
            (place.afterValue ++ memberBytes false later)))))))

end

def IsScalar : Source → Prop
  | .null | .flag _ | .number _ | .text _ => True
  | .list _ _ | .object _ _ => False

section Fronts

variable {rest : Bytes}

theorem text_layout (spelling : Text.Spelling) (rest : Bytes) :
    (Source.text spelling).bytes ++ rest =
      Mark.quote :: (spelling.inner ++ Mark.quote :: rest) := by
  simp only [bytes, Text.Spelling.quoted, List.cons_append, List.append_assoc, List.nil_append]

/-- What a value starts with is no blank, and closes neither a list nor an object. -/
theorem front (source : Source) :
    ∃ b tail, source.bytes = b :: tail ∧ isBlank b = false ∧ b ≠ Mark.bracketClose ∧
      b ≠ Mark.braceClose := by
  cases source with
  | null => exact ⟨Mark.letter 'n', _, rfl, by decide⟩
  | flag value =>
      cases value with
      | true => exact ⟨Mark.letter 't', _, rfl, by decide⟩
      | false => exact ⟨Mark.letter 'f', _, rfl, by decide⟩
  | number spelling =>
      rcases spelling.bytes_front with layout | ⟨b, tail, layout, -, digit⟩
      · exact ⟨Mark.minus, _, layout, by decide⟩
      · exact ⟨b, tail, layout, Number.digit_not_blank digit, Number.digit_ne digit rfl,
          Number.digit_ne digit rfl⟩
  | text spelling => exact ⟨Mark.quote, _, rfl, by decide⟩
  | list items closing => exact ⟨Mark.bracketOpen, _, rfl, by decide⟩
  | object members closing => exact ⟨Mark.braceOpen, _, rfl, by decide⟩

theorem piece_of_scalar {source : Source} (scalar : source.IsScalar) (ends : Ends rest) :
    Skip.piece (source.bytes ++ rest) = .ok (.scalar rest) := by
  cases source with
  | null => rfl
  | flag value => cases value <;> rfl
  | number spelling => exact spelling.piece_of_chars ends
  | text spelling =>
      have read := Text.after_quote_spelled spelling rest
      rw [text_layout]
      exact Skip.piece_of_text (skip_blanks_of_mark rfl) (Text.skip_of_after_quote read)
  | list items closing => exact scalar.elim
  | object members closing => exact scalar.elim

end Fronts

section Elements

variable (gap : Blanks) (first : Bool) (tail : Bytes)

theorem skip_gap_of_mark {b : UInt8} {rest : Bytes} (mark : isBlank b = false) :
    skipBlanks (gap ++ b :: rest) = b :: rest := by
  rw [skip_blanks_append gap.property, skip_blanks_of_mark mark]

theorem skip_gap_of_source (source : Source) (rest : Bytes) :
    skipBlanks (gap ++ (source.bytes ++ rest)) = source.bytes ++ rest := by
  obtain ⟨b, after, layout, mark, -⟩ := source.front
  rw [layout, List.cons_append, skip_gap_of_mark gap mark]

theorem ends_before_items (items : List (Margins × Source)) (closing : Blanks) (rest : Bytes) :
    Ends (gap ++ (itemBytes false items ++ (closing ++ Mark.bracketClose :: rest))) := by
  have ended : Ends (closing ++ Mark.bracketClose :: rest) :=
    ends_of_blanks closing.property (ends_cons (by decide))
  apply ends_of_blanks gap.property
  cases items with
  | nil => exact ended
  | cons item items => exact ends_cons (by decide)

theorem ends_before_members (members : List (Place × Source)) (closing : Blanks) (rest : Bytes) :
    Ends (gap ++ (memberBytes false members ++ (closing ++ Mark.braceClose :: rest))) := by
  have ended : Ends (closing ++ Mark.braceClose :: rest) :=
    ends_of_blanks closing.property (ends_cons (by decide))
  apply ends_of_blanks gap.property
  cases members with
  | nil => exact ended
  | cons member members => exact ends_cons (by decide)

theorem item_begins (margins : Margins) (item : Source) (rest : Bytes) :
    ∃ element, Skip.Begins first .list
        (gap ++ ((if first then [] else [Mark.comma]) ++ (margins.before ++ (item.bytes ++ rest))))
        element ∧
      skipBlanks element = item.bytes ++ rest := by
  obtain ⟨b, after, layout, mark, open_, -⟩ := item.front
  cases first with
  | true =>
      refine ⟨item.bytes ++ rest, ?_, ?_⟩
      · refine ⟨b, after ++ rest, ?_, open_, by rw [layout, List.cons_append]⟩
        change skipBlanks (gap ++ (margins.before ++ (item.bytes ++ rest))) = _
        rw [skip_blanks_append gap.property, skip_gap_of_source, layout, List.cons_append]
      · rw [layout, List.cons_append, skip_blanks_of_mark mark]
  | false =>
      refine ⟨margins.before ++ (item.bytes ++ rest), ?_, ?_⟩
      · exact skip_gap_of_mark gap rfl
      · exact skip_gap_of_source margins.before item rest

theorem member_start_after_blanks (beforeName : Blanks) (rest : Bytes) :
    RecordForm.memberStart first
        (gap ++ ((if first then [] else [Mark.comma]) ++ (beforeName ++ Mark.quote :: rest))) =
      .ok (some rest) := by
  cases first with
  | true =>
      change RecordForm.memberStart true (gap ++ (beforeName ++ Mark.quote :: rest)) = _
      rw [RecordForm.memberStart, skip_blanks_append gap.property, skip_gap_of_mark _ rfl]
      rfl
  | false =>
      have comma : skipBlanks (gap ++ Mark.comma :: (beforeName ++ Mark.quote :: rest)) =
          Mark.comma :: (beforeName ++ Mark.quote :: rest) := skip_gap_of_mark gap rfl
      change RecordForm.memberStart false
        (gap ++ Mark.comma :: (beforeName ++ Mark.quote :: rest)) = _
      rw [RecordForm.memberStart, comma]
      dsimp only
      rw [if_neg (by decide), if_neg Bool.false_ne_true, if_pos rfl, skip_gap_of_mark _ rfl]
      rfl

theorem member_taken (place : Place) (value : Source) (later : List (Place × Source)) :
    ∃ after named,
      RecordForm.memberStart first (gap ++ (memberBytes first ((place, value) :: later) ++ tail)) =
          .ok (some after) ∧
        Text.afterQuote after = .ok (place.label, named) ∧
        takeColon named = .ok (place.beforeValue ++
          (value.bytes ++ (place.afterValue ++ (memberBytes false later ++ tail)))) := by
  let content : Bytes := place.beforeValue ++
    (value.bytes ++ (place.afterValue ++ (memberBytes false later ++ tail)))
  let named : Bytes := place.beforeColon ++ Mark.colon :: content
  let after : Bytes := place.name.inner ++ Mark.quote :: named
  have layout : memberBytes first ((place, value) :: later) ++ tail =
      (if first then [] else [Mark.comma]) ++ (place.beforeName ++ Mark.quote :: after) := by
    simp only [memberBytes, Text.Spelling.quoted, List.append_assoc, List.cons_append,
      List.nil_append, after, named, content]
  refine ⟨after, named, ?_, ?_, ?_⟩
  · rw [layout]
    exact member_start_after_blanks gap first place.beforeName after
  · exact Text.after_quote_spelled place.name named
  · rw [takeColon, skip_gap_of_mark _ rfl]
    rfl

end Elements

section Passing

variable {gap : Blanks} {first : Bool} {tail rest : Bytes}

theorem item_passes {margins : Margins} {item : Source} {later : List (Margins × Source)}
    (passes : Skip.Passes (item.bytes ++ (margins.after ++ (itemBytes false later ++ tail)))
      (margins.after ++ (itemBytes false later ++ tail)))
    (laterPass : Skip.PassesInside false .list (margins.after ++ (itemBytes false later ++ tail))
      rest) :
    Skip.PassesInside first .list
      (gap ++ (itemBytes first ((margins, item) :: later) ++ tail)) rest := by
  obtain ⟨element, begins, front⟩ := item_begins gap first margins item
    (margins.after ++ (itemBytes false later ++ tail))
  have layout : itemBytes first ((margins, item) :: later) ++ tail =
      (if first then [] else [Mark.comma]) ++
        (margins.before ++ (item.bytes ++ (margins.after ++ (itemBytes false later ++ tail)))) := by
    simp only [itemBytes, List.append_assoc]
  have single : Skip.Passes element (margins.after ++ (itemBytes false later ++ tail)) := by
    rw [← Skip.passes_skip_blanks, front]
    exact passes
  rw [layout]
  exact Skip.passes_inside_item begins single laterPass

theorem member_passes {place : Place} {value : Source} {later : List (Place × Source)}
    (passes : Skip.Passes (value.bytes ++ (place.afterValue ++ (memberBytes false later ++ tail)))
      (place.afterValue ++ (memberBytes false later ++ tail)))
    (laterPass : Skip.PassesInside false .object
      (place.afterValue ++ (memberBytes false later ++ tail)) rest) :
    Skip.PassesInside first .object
      (gap ++ (memberBytes first ((place, value) :: later) ++ tail)) rest := by
  obtain ⟨after, named, start, name, colon⟩ := member_taken gap first tail place value later
  obtain ⟨element, begins, front⟩ := RecordForm.member_start_some start
  have single : Skip.Passes (place.beforeValue ++
      (value.bytes ++ (place.afterValue ++ (memberBytes false later ++ tail))))
      (place.afterValue ++ (memberBytes false later ++ tail)) := by
    apply Skip.passes_of_same_front _ passes
    rw [skip_blanks_append place.beforeValue.property]
  exact Skip.passes_inside_member begins (RecordForm.key_of_name front name colon) single laterPass

theorem list_layout (items : List (Margins × Source)) (closing : Blanks) (rest : Bytes) :
    (Source.list items closing).bytes ++ rest =
      Mark.bracketOpen :: (itemBytes true items ++ (closing ++ Mark.bracketClose :: rest)) := by
  simp only [bytes, List.cons_append, List.append_assoc, List.nil_append]

theorem object_layout (members : List (Place × Source)) (closing : Blanks) (rest : Bytes) :
    (Source.object members closing).bytes ++ rest =
      Mark.braceOpen :: (memberBytes true members ++ (closing ++ Mark.braceClose :: rest)) := by
  simp only [bytes, List.cons_append, List.append_assoc, List.nil_append]

mutual

/-- Every value is passed over as it stands, unless a number goes on behind it. -/
theorem passes : ∀ (source : Source) {rest : Bytes}, Ends rest →
    Skip.Passes (source.bytes ++ rest) rest
  | .null, _, ends => Skip.passes_of_scalar (piece_of_scalar trivial ends)
  | .flag _, _, ends => Skip.passes_of_scalar (piece_of_scalar trivial ends)
  | .number _, _, ends => Skip.passes_of_scalar (piece_of_scalar trivial ends)
  | .text _, _, ends => Skip.passes_of_scalar (piece_of_scalar trivial ends)
  | .list items closing, rest, _ => by
      have inside := items_pass items default true closing rest
      rw [list_layout]
      exact Skip.passes_of_opened (by rfl) inside
  | .object members closing, rest, _ => by
      have inside := members_pass members default true closing rest
      rw [object_layout]
      exact Skip.passes_of_opened (by rfl) inside

theorem items_pass : ∀ (items : List (Margins × Source)) (gap : Blanks) (first : Bool)
    (closing : Blanks) (rest : Bytes), Skip.PassesInside first .list
      (gap ++ (itemBytes first items ++ (closing ++ Mark.bracketClose :: rest))) rest
  | [], gap, first, closing, rest => by
      apply Skip.passes_inside_closed
      exact (skip_blanks_append gap.property _).trans (skip_gap_of_mark closing rfl)
  | (margins, item) :: later, gap, first, closing, rest => by
      apply item_passes
      · apply item.passes
        exact ends_before_items margins.after later closing rest
      · exact items_pass later margins.after false closing rest

theorem members_pass : ∀ (members : List (Place × Source)) (gap : Blanks) (first : Bool)
    (closing : Blanks) (rest : Bytes), Skip.PassesInside first .object
      (gap ++ (memberBytes first members ++ (closing ++ Mark.braceClose :: rest))) rest
  | [], gap, first, closing, rest => by
      apply Skip.passes_inside_closed
      exact (skip_blanks_append gap.property _).trans (skip_gap_of_mark closing rfl)
  | (place, value) :: later, gap, first, closing, rest => by
      apply member_passes
      · apply value.passes
        exact ends_before_members place.afterValue later closing rest
      · exact members_pass later place.afterValue false closing rest

end

end Passing

end Source

end MotorTariff.Json
