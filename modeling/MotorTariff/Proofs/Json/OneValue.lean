import MotorTariff.Json.Record
import MotorTariff.Proofs.Json.Skipping

/-!
# A reader takes one value

What a reader accepts is a value that would also have been passed over, and both stop at the same
place. So whatever stands in the place of a field, its reader either refuses it or takes all of it,
and never the start of it or something behind it.
-/

set_option autoImplicit false

namespace MotorTariff.Json

/-- A reader that takes exactly one value whenever it takes something. -/
def Form.TakesOneValue {Value : Type} (form : Form Value) : Prop :=
  ∀ {bytes : Bytes} {value : Value} {rest : Bytes}, form.read bytes = .ok (value, rest) →
    Skip.Passes bytes rest

namespace Form

theorem text_takes_one_value : text.TakesOneValue := by
  intro bytes value rest taken
  change readText bytes = _ at taken
  apply Skip.passes_of_scalar
  unfold readText at taken
  split at taken
  next => cases taken
  next b after front =>
    split at taken
    next quote =>
      subst quote
      apply Skip.piece_of_text front (Text.skip_of_after_quote taken)
    next => cases taken

theorem flag_takes_one_value : flag.TakesOneValue := by
  intro bytes value rest taken
  change readFlag bytes = _ at taken
  apply Skip.passes_of_scalar
  unfold readFlag at taken
  split at taken
  next => cases taken
  next b after front =>
    split_ifs at taken with isTrue isFalse
    · subst isTrue
      obtain ⟨_, word, same⟩ := map_ok_iff.mp taken
      cases same
      apply Skip.piece_of_true front word
    · subst isFalse
      obtain ⟨_, word, same⟩ := map_ok_iff.mp taken
      cases same
      apply Skip.piece_of_false front word

theorem narrow_rest {numeral : Numeral} {value : Int32} {after rest : Bytes}
    (narrowed : Int32Form.narrow numeral after = .ok (value, rest)) : rest = after := by
  unfold Int32Form.narrow at narrowed
  split at narrowed
  next =>
    split at narrowed
    next =>
      cases narrowed
      rfl
    next => cases narrowed
  next => cases narrowed

theorem int32_takes_one_value : int32.TakesOneValue := by
  intro bytes value rest taken
  change Int32Form.read bytes = _ at taken
  apply Skip.passes_of_scalar
  unfold Int32Form.read at taken
  split at taken
  next => cases taken
  next b after front =>
    split_ifs at taken with minus digit
    · subst minus
      obtain ⟨⟨numeral, left⟩, read, narrowed⟩ := bind_ok_iff.mp taken
      obtain rfl := narrow_rest narrowed
      apply Skip.piece_of_minus front (Number.skip_of_read read)
    · obtain ⟨⟨numeral, left⟩, read, narrowed⟩ := bind_ok_iff.mp taken
      obtain rfl := narrow_rest narrowed
      apply Skip.piece_of_digit front digit (Number.skip_of_read read)

end Form

theorem settle_ok_iff {Value : Type} {outcome : Except Fault Value} {value : Value} :
    settle outcome = .ok value ↔ outcome = .ok value := by
  cases outcome with
  | error fault => simp [settle]
  | ok found => simp [settle]

theorem closing_ok {Value : Type} {close : Bytes → Except Fault Bytes}
    {outcome : Except Stop (Value × Bytes)} {value : Value} {rest : Bytes}
    (closed : closing close outcome = .ok (value, rest)) :
    ∃ after, outcome = .ok (value, after) ∧ close after = .ok rest := by
  cases outcome with
  | error stop =>
      cases stop with
      | settled fault => cases closed
      | pending cause bytes =>
          rw [closing] at closed
          split at closed <;> cases closed
  | ok inside =>
      obtain ⟨found, after⟩ := inside
      obtain ⟨left, done, same⟩ := map_ok_iff.mp closed
      cases same
      exact ⟨after, rfl, done⟩

theorem close_object_front {bytes rest : Bytes} (closed : closeObject bytes = .ok rest) :
    skipBlanks bytes = Mark.braceClose :: rest := by
  unfold closeObject at closed
  split at closed
  next => cases closed
  next b after front =>
    split_ifs at closed with brace
    cases closed
    rw [front, brace]

theorem close_list_front {bytes rest : Bytes} (closed : closeList bytes = .ok rest) :
    skipBlanks bytes = Mark.bracketClose :: rest := by
  unfold closeList at closed
  split at closed
  next => cases closed
  next b after front =>
    split_ifs at closed with bracket comma
    · cases closed
      rw [front, bracket]
    · split at closed <;> cases closed

namespace RecordForm

section Starts

variable {first : Bool} {bytes after : Bytes}

theorem member_start_some (started : memberStart first bytes = .ok (some after)) :
    ∃ element, Skip.Begins first .object bytes element ∧
      skipBlanks element = Mark.quote :: after := by
  unfold memberStart at started
  split at started
  next => cases started
  next b rest front =>
    split at started
    next => cases started
    next other =>
      split_ifs at started with isFirst quote comma
      · cases started
        subst quote
        refine ⟨Mark.quote :: after, ?_, skip_blanks_of_mark rfl⟩
        rw [Skip.Begins, if_pos isFirst]
        exact ⟨_, _, front, other, rfl⟩
      · split at started
        next => cases started
        next mark tail second =>
          split_ifs at started with quote
          cases started
          refine ⟨rest, ?_, by rw [second, quote]⟩
          rw [Skip.Begins, if_neg isFirst, front, comma]

theorem item_start_some (started : itemStart first bytes = .ok (some after)) :
    ∃ element, Skip.Begins first .list bytes element ∧ skipBlanks element = skipBlanks after := by
  unfold itemStart at started
  split at started
  next => cases started
  next b rest front =>
    split at started
    next => cases started
    next other =>
      split_ifs at started with isFirst comma
      · cases started
        refine ⟨b :: rest, ?_, rfl⟩
        rw [Skip.Begins, if_pos isFirst]
        exact ⟨_, _, front, other, rfl⟩
      · split at started
        next => cases started
        next mark tail second =>
          split_ifs at started
          cases started
          refine ⟨rest, ?_, by rw [← second, skip_blanks_twice]⟩
          rw [Skip.Begins, if_neg isFirst, front, comma]

theorem key_of_name {name : String} {named value : Bytes}
    (front : skipBlanks bytes = Mark.quote :: after)
    (read : Text.afterQuote after = .ok (name, named)) (colon : takeColon named = .ok value) :
    Skip.key bytes = .ok value := by
  rw [Skip.key, front]
  dsimp only
  rw [if_pos rfl, Text.skip_of_after_quote read, ok_bind, colon]

end Starts

variable {Key Record : Type} [DecidableEq Key] {record : RecordForm Key Record}
omit [DecidableEq Key] in
theorem finish_rest {slots : record.Slots} {value : Record} {bytes after : Bytes}
    (finished : record.finish slots bytes = .ok (value, after)) :
    after = bytes ∧ record.complete slots = .ok value := by
  unfold finish at finished
  split at finished
  next complete =>
    cases finished
    exact ⟨rfl, complete⟩
  next => cases finished

variable (values : ∀ key, (record.form key).TakesOneValue)

include values

/-- The members that are read, known or not, are those that would be passed over. -/
theorem members_pass {fuel : Nat} {first : Bool} {slots filled : record.Slots}
    {bytes after rest : Bytes} (read : record.members fuel first slots bytes = .ok (filled, after))
    (closed : closeObject after = .ok rest) : Skip.PassesInside first .object bytes rest := by
  induction fuel generalizing first slots bytes with
  | zero => cases read
  | succ fuel induction =>
      rw [members] at read
      obtain ⟨started, start, read⟩ := bind_ok_iff.mp read
      rw [settle_ok_iff] at start
      cases started with
      | none =>
          cases read
          apply Skip.passes_inside_closed (close_object_front closed)
      | some named =>
          obtain ⟨element, begins, front⟩ := member_start_some start
          obtain ⟨⟨name, left⟩, nameRead, read⟩ := bind_ok_iff.mp read
          rw [settle_ok_iff] at nameRead
          dsimp only at read
          split at read
          next =>
            obtain ⟨next, skipped, read⟩ := bind_ok_iff.mp read
            obtain ⟨content, colon, skipped⟩ := bind_ok_iff.mp (settle_ok_iff.mp skipped)
            apply Skip.passes_inside_member begins (key_of_name front nameRead colon)
            · apply Skip.passes_of_values skipped
            · apply induction read
          next key known =>
            split at read
            next => cases read
            next =>
              obtain ⟨⟨value, next⟩, taken, read⟩ := bind_ok_iff.mp read
              obtain ⟨content, colon, taken⟩ := bind_ok_iff.mp (settle_ok_iff.mp taken)
              apply Skip.passes_inside_member begins (key_of_name front nameRead colon)
              · apply values key taken
              · apply induction read

theorem items_pass {count : Nat} {keys : List Key} {slots filled : record.Slots}
    {bytes after rest : Bytes} (read : record.items count keys slots bytes = .ok (filled, after))
    (closed : closeList after = .ok rest) :
    Skip.PassesInside (count == 0) .list bytes rest := by
  induction keys generalizing count slots bytes with
  | nil =>
      cases read
      apply Skip.passes_inside_closed (close_list_front closed)
  | cons key keys induction =>
      rw [items] at read
      obtain ⟨started, start, read⟩ := bind_ok_iff.mp read
      rw [settle_ok_iff] at start
      cases started with
      | none => cases read
      | some item =>
          obtain ⟨element, begins, front⟩ := item_start_some start
          obtain ⟨⟨value, next⟩, taken, read⟩ := bind_ok_iff.mp read
          apply Skip.passes_inside_item begins
          · apply Skip.passes_of_same_front front.symm
            apply values key (settle_ok_iff.mp taken)
          · apply induction read

/-- Fields that take one value each make a record that takes one value, in both its forms. -/
theorem record_takes_one_value : record.toForm.TakesOneValue := by
  intro bytes value rest taken
  change record.read bytes = _ at taken
  unfold RecordForm.read at taken
  split at taken
  next => cases taken
  next b inside front =>
    split_ifs at taken with brace bracket
    · obtain ⟨after, read, closed⟩ := closing_ok taken
      obtain ⟨⟨slots, left⟩, read, finished⟩ := bind_ok_iff.mp read
      obtain ⟨rfl, -⟩ := finish_rest finished
      have opened : Skip.piece bytes = .ok (.opened .object inside) := by
        rw [Skip.piece, front, brace]
        rfl
      apply Skip.passes_of_opened opened
      apply members_pass values read closed
    · obtain ⟨after, read, closed⟩ := closing_ok taken
      obtain ⟨⟨slots, left⟩, read, finished⟩ := bind_ok_iff.mp read
      obtain ⟨rfl, -⟩ := finish_rest finished
      have opened : Skip.piece bytes = .ok (.opened .list inside) := by
        rw [Skip.piece, front, bracket]
        rfl
      apply Skip.passes_of_opened opened
      exact items_pass values read closed

end RecordForm

end MotorTariff.Json
