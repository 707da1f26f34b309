import MotorTariff.Json.Skip
import MotorTariff.Outcome
import MotorTariff.Proofs.Json.Integer

/-!
# Passing over one value

Passing over a value keeps the lists and objects that are open on a stack and goes on until all of
them are closed. Seen from the outside, one value is taken off the front whatever else is open
around it: after some rounds the same stack is there again, with what follows the value. This is
stated for any fuel left and any stack, so values inside a list or an object need no separate word.
-/

set_option autoImplicit false

namespace MotorTariff.Json

theorem skip_blanks_front {bytes rest : Bytes} {b : UInt8} (front : skipBlanks bytes = b :: rest) :
    isBlank b = false := by
  induction bytes with
  | nil => cases front
  | cons first bytes induction =>
      rw [skipBlanks] at front
      split at front
      next => exact induction front
      next mark =>
        cases front
        simpa using mark

theorem skip_blanks_twice (bytes : Bytes) : skipBlanks (skipBlanks bytes) = skipBlanks bytes := by
  cases skipped : skipBlanks bytes with
  | nil => rfl
  | cons b rest => exact skip_blanks_of_mark (skip_blanks_front skipped)

namespace Skip

/-- Goes on with what is open: nothing, the next item of a list, or the next member of an object. -/
def goOn (fuel : Nat) : List Nest × Bytes → Except Fault Bytes
  | ([], bytes) => .ok bytes
  | (.list :: outer, bytes) => values fuel (.list :: outer) bytes
  | (.object :: outer, bytes) => key bytes >>= values fuel (.object :: outer)

def resume (fuel : Nat) (nests : List Nest) (bytes : Bytes) : Except Fault Bytes :=
  afterElement nests bytes >>= goOn fuel

theorem resume_nothing_open (fuel : Nat) (bytes : Bytes) : resume fuel [] bytes = .ok bytes := by
  simp only [resume, afterElement, ok_bind, goOn]

section Rounds

variable (fuel : Nat) (nests : List Nest) {bytes rest : Bytes}

theorem values_of_scalar (taken : piece bytes = .ok (.scalar rest)) :
    values (fuel + 1) nests bytes = resume fuel nests rest := by
  rw [values, taken, resume]
  simp only [ok_bind]
  congr 1
  funext state
  obtain ⟨nests, bytes⟩ := state
  cases nests with
  | nil => rfl
  | cons nest outer => cases nest <;> rfl

theorem values_of_opened {nest : Nest} (taken : piece bytes = .ok (.opened nest rest)) :
    values (fuel + 1) nests bytes = afterOpening nest nests rest >>= goOn fuel := by
  rw [values, taken]
  simp only [ok_bind]
  congr 1
  funext state
  obtain ⟨nests, bytes⟩ := state
  cases nests with
  | nil => rfl
  | cons nest outer => cases nest <;> rfl

theorem values_of_no_piece {fault : Fault} (refused : piece bytes = .error fault) :
    values (fuel + 1) nests bytes = .error fault := by
  rw [values, refused]
  rfl

end Rounds

/-- The bytes hold a value and the rest after it. -/
def Passes (bytes rest : Bytes) : Prop :=
  ∃ rounds, ∀ fuel nests, values (rounds + fuel) nests bytes = resume fuel nests rest

theorem passes_of_scalar {bytes rest : Bytes} (taken : piece bytes = .ok (.scalar rest)) :
    Passes bytes rest := by
  refine ⟨1, ?_⟩
  intro fuel nests
  rw [Nat.add_comm]
  apply values_of_scalar fuel nests taken

theorem passes_unique {bytes rest other : Bytes} (first : Passes bytes rest)
    (second : Passes bytes other) : rest = other := by
  obtain ⟨rounds, passed⟩ := first
  obtain ⟨further, passedToo⟩ := second
  have here := passed further []
  have there := passedToo rounds []
  rw [resume_nothing_open] at here there
  rw [Nat.add_comm, there] at here
  cases here
  rfl

theorem exists_rounds_of_passes {bytes rest : Bytes} (passes : Passes bytes rest) :
    ∃ rounds, ∀ fuel nests, values (rounds + fuel + 1) nests bytes = resume fuel nests rest := by
  obtain ⟨rounds, passed⟩ := passes
  cases rounds with
  | zero =>
      have none := passed 0 []
      rw [resume_nothing_open] at none
      cases none
  | succ rounds =>
      refine ⟨rounds, ?_⟩
      intro fuel nests
      rw [← passed, Nat.add_right_comm]

theorem passes_of_same_front {bytes other rest : Bytes}
    (same : skipBlanks bytes = skipBlanks other) (passes : Passes bytes rest) :
    Passes other rest := by
  obtain ⟨rounds, passed⟩ := exists_rounds_of_passes passes
  have samePiece : piece other = piece bytes := by
    rw [piece, piece, same]
  refine ⟨rounds + 1, ?_⟩
  intro fuel nests
  rw [← passed, Nat.add_right_comm, values, values, samePiece]

theorem passes_skip_blanks {bytes rest : Bytes} :
    Passes (skipBlanks bytes) rest ↔ Passes bytes rest := by
  constructor
  · apply passes_of_same_front
    apply skip_blanks_twice
  · apply passes_of_same_front
    rw [skip_blanks_twice]

section Inside

/-- What stands after the opening of a list or an object, or after one of its elements. -/
def start (first : Bool) (nest : Nest) (outer : List Nest) (bytes : Bytes) :
    Except Fault (List Nest × Bytes) :=
  if first then afterOpening nest outer bytes else afterElement (nest :: outer) bytes

/-- The bytes hold the elements that are left of a list or an object, its closing and the rest. -/
def PassesInside (first : Bool) (nest : Nest) (bytes rest : Bytes) : Prop :=
  ∃ rounds, ∀ fuel outer,
    (start first nest outer bytes >>= goOn (rounds + fuel)) = resume fuel outer rest

/-- Up to the next element: the closing is not next, and a comma has been taken before all elements
but the first. -/
def Begins (first : Bool) (nest : Nest) (bytes element : Bytes) : Prop :=
  if first then ∃ b rest, skipBlanks bytes = b :: rest ∧ b ≠ nest.closing ∧ element = b :: rest
  else skipBlanks bytes = Mark.comma :: element

variable {first : Bool} {nest : Nest} {bytes element after rest : Bytes}

theorem comma_not_closing (nest : Nest) : Mark.comma ≠ nest.closing := by
  cases nest <;> decide

theorem start_of_begins (begins : Begins first nest bytes element) (outer : List Nest) :
    start first nest outer bytes = .ok (nest :: outer, element) := by
  cases first with
  | true =>
      obtain ⟨b, rest, front, open_, rfl⟩ := begins
      simp only [start, if_true, afterOpening, front, if_neg open_]
  | false =>
      have front : skipBlanks bytes = Mark.comma :: element := begins
      simp only [start, Bool.false_eq_true, if_false, afterElement, front,
        if_neg (comma_not_closing nest), if_true]

theorem passes_inside_closed (closed : skipBlanks bytes = nest.closing :: rest) :
    PassesInside first nest bytes rest := by
  refine ⟨0, ?_⟩
  intro fuel outer
  rw [Nat.zero_add, resume]
  cases first with
  | true => simp only [start, if_true, afterOpening, closed]
  | false => simp only [start, Bool.false_eq_true, if_false, afterElement, closed, if_true]

theorem passes_inside_item (begins : Begins first .list bytes element)
    (item : Passes element after) (later : PassesInside false .list after rest) :
    PassesInside first .list bytes rest := by
  obtain ⟨rounds, passed⟩ := item
  obtain ⟨further, passedLater⟩ := later
  refine ⟨rounds + further, ?_⟩
  intro fuel outer
  rw [start_of_begins begins, ok_bind, goOn, Nat.add_assoc, passed, ← passedLater]
  rfl

theorem passes_inside_member {value : Bytes} (begins : Begins first .object bytes element)
    (named : key element = .ok value) (content : Passes value after)
    (later : PassesInside false .object after rest) :
    PassesInside first .object bytes rest := by
  obtain ⟨rounds, passed⟩ := content
  obtain ⟨further, passedLater⟩ := later
  refine ⟨rounds + further, ?_⟩
  intro fuel outer
  rw [start_of_begins begins, ok_bind, goOn, named, ok_bind, Nat.add_assoc, passed, ← passedLater]
  rfl

theorem passes_of_opened (taken : piece bytes = .ok (.opened nest element))
    (inside : PassesInside true nest element rest) : Passes bytes rest := by
  obtain ⟨rounds, passed⟩ := inside
  refine ⟨rounds + 1, ?_⟩
  intro fuel nests
  rw [Nat.add_right_comm, values_of_opened _ nests taken, ← passed]
  rfl

end Inside

/-! What passes over one value with nothing open around it also passes over it inside others. -/

section Frames

/-- What the inner stack left is open together with the outer one, which goes on by itself when
nothing is left. -/
def onTop (outer : List Nest) : List Nest × Bytes → Except Fault (List Nest × Bytes)
  | ([], bytes) => afterElement outer bytes
  | (nest :: inner, bytes) => .ok (nest :: inner ++ outer, bytes)

variable (outer : List Nest)

theorem after_element_on_top {inner left : List Nest} {bytes rest : Bytes}
    (done : afterElement inner bytes = .ok (left, rest)) :
    afterElement (inner ++ outer) bytes = onTop outer (left, rest) := by
  induction inner generalizing bytes with
  | nil =>
      cases done
      rfl
  | cons nest inner induction =>
      rw [afterElement] at done
      rw [List.cons_append, afterElement]
      split at done
      next => cases done
      next b after front =>
        split at done
        next closing =>
          rw [if_pos closing]
          exact induction done
        next other =>
          split at done
          next comma =>
            cases done
            rw [if_neg other, if_pos comma]
            rfl
          next => cases done

theorem after_opening_on_top {nest : Nest} {inner left : List Nest} {bytes rest : Bytes}
    (done : afterOpening nest inner bytes = .ok (left, rest)) :
    afterOpening nest (inner ++ outer) bytes = onTop outer (left, rest) := by
  rw [afterOpening] at done ⊢
  split at done
  next => cases done
  next b after front =>
    split at done
    next closing =>
      rw [if_pos closing]
      exact after_element_on_top outer done
    next other =>
      cases done
      rw [if_neg other]
      rfl

def PassesFrom (inner : List Nest) (bytes rest : Bytes) : Prop :=
  ∃ rounds, ∀ fuel outer, values (rounds + fuel) (inner ++ outer) bytes = resume fuel outer rest

theorem go_on_on_top {fuel : Nat} {left : List Nest} {bytes rest : Bytes}
    (values_pass : ∀ inner bytes, values fuel inner bytes = .ok rest → PassesFrom inner bytes rest)
    (done : goOn fuel (left, bytes) = .ok rest) :
    ∃ rounds, ∀ fuel outer,
      (onTop outer (left, bytes) >>= goOn (rounds + fuel)) = resume fuel outer rest := by
  cases left with
  | nil =>
      cases done
      refine ⟨0, ?_⟩
      intro fuel outer
      rw [Nat.zero_add]
      rfl
  | cons nest left =>
      cases nest with
      | list =>
          obtain ⟨rounds, passed⟩ := values_pass _ _ done
          refine ⟨rounds, ?_⟩
          intro fuel outer
          rw [← passed]
          rfl
      | object =>
          obtain ⟨value, named, passedValue⟩ := bind_ok_iff.mp done
          obtain ⟨rounds, passed⟩ := values_pass _ _ passedValue
          refine ⟨rounds, ?_⟩
          intro fuel outer
          rw [onTop, ok_bind, List.cons_append, goOn, named, ok_bind, ← passed]
          rfl

theorem values_pass {fuel : Nat} {inner : List Nest} {bytes rest : Bytes}
    (passed : values fuel inner bytes = .ok rest) : PassesFrom inner bytes rest := by
  induction fuel generalizing inner bytes with
  | zero => cases passed
  | succ fuel induction =>
      cases taken : piece bytes with
      | error fault =>
          rw [values_of_no_piece fuel inner taken] at passed
          cases passed
      | ok front =>
          cases front with
          | scalar after =>
              rw [values_of_scalar fuel inner taken] at passed
              obtain ⟨⟨left, next⟩, done, went⟩ := bind_ok_iff.mp passed
              obtain ⟨rounds, goes⟩ := go_on_on_top (fun _ _ => induction) went
              refine ⟨rounds + 1, ?_⟩
              intro fuel outer
              rw [Nat.add_right_comm, values_of_scalar _ _ taken, resume,
                after_element_on_top outer done, goes]
          | opened nest after =>
              rw [values_of_opened fuel inner taken] at passed
              obtain ⟨⟨left, next⟩, done, went⟩ := bind_ok_iff.mp passed
              obtain ⟨rounds, goes⟩ := go_on_on_top (fun _ _ => induction) went
              refine ⟨rounds + 1, ?_⟩
              intro fuel outer
              rw [Nat.add_right_comm, values_of_opened _ _ taken,
                after_opening_on_top outer done, goes]

theorem passes_of_values {fuel : Nat} {bytes rest : Bytes}
    (passed : values fuel [] bytes = .ok rest) : Passes bytes rest := values_pass passed

end Frames

end Skip

end MotorTariff.Json
