import MotorTariff.Proofs.Json.Passing

/-!
# What is read is passed over

A text or a number that a reader takes would also have been passed over, up to the same place. The
two ways differ in what they keep: passing over does not join the halves of a character, drops all
digits, and finds nothing out of range.
-/

set_option autoImplicit false

namespace MotorTariff.Json

namespace Text

/-- Passing over a text does not join surrogates: the second half of a pair is an escape like any
other. -/
def skipMode : Mode → Mode
  | .hex _ digits => .hex none digits
  | .pairBackslash _ => .plain
  | .pairLetter _ => .escape
  | mode => mode

theorem skip_mode_of_unit {lead : Option Nat} {n : Nat} {next : Mode} {added : Bytes}
    (taken : unit lead n = .ok (next, added)) : skipMode next = .plain := by
  unfold unit at taken
  cases lead with
  | none =>
      dsimp only at taken
      split_ifs at taken
      · cases taken
        rfl
      · cases taken
        rfl
  | some lead =>
      dsimp only at taken
      split_ifs at taken
      cases taken
      rfl

theorem skip_from_of_step {mode next : Mode} {b : UInt8} {added : Bytes}
    (inside : ¬ (mode = .plain ∧ b = Mark.quote)) (taken : step mode b = .ok (next, added))
    (rest : Bytes) : skipFrom (skipMode mode) (b :: rest) = skipFrom (skipMode next) rest := by
  cases mode with
  | plain =>
      change skipFrom .plain (b :: rest) = _
      rw [skipFrom.eq_def]
      dsimp only
      rw [if_neg inside, taken]
      dsimp only
      unfold step at taken
      dsimp only at taken
      split_ifs at taken
      · cases taken
        rfl
      · cases taken
        rfl
  | escape =>
      change skipFrom .escape (b :: rest) = _
      rw [skipFrom.eq_def]
      dsimp only
      rw [if_neg inside, taken]
      dsimp only
      unfold step at taken
      dsimp only at taken
      split_ifs at taken
      · cases taken
        rfl
      · split at taken
        · cases taken
          rfl
        · cases taken
  | hex lead digits =>
      rw [skipMode, skipFrom, if_neg (by simp)]
      unfold step at taken
      dsimp only at taken ⊢
      split_ifs at taken with short
      · cases taken
        rw [if_pos short]
        rfl
      · rw [if_neg short]
        split at taken
        next n spelled =>
          rw [skip_mode_of_unit taken]
        next => cases taken
  | pairBackslash lead =>
      unfold step at taken
      dsimp only at taken
      split_ifs at taken with backslash
      cases taken
      subst backslash
      rfl
  | pairLetter lead =>
      unfold step at taken
      dsimp only at taken
      split_ifs at taken with letter
      cases taken
      subst letter
      rfl

theorem skip_from_of_bytes_from {mode : Mode} {decoded bytes read rest : Bytes}
    (taken : bytesFrom mode decoded bytes = .ok (read, rest)) :
    skipFrom (skipMode mode) bytes = .ok rest := by
  induction bytes generalizing mode decoded with
  | nil => cases taken
  | cons b bytes induction =>
      rw [bytesFrom] at taken
      split at taken
      next closing =>
        obtain ⟨rfl, rfl⟩ := closing
        cases taken
        rfl
      next inside =>
        split at taken
        next => cases taken
        next next added stepped =>
          rw [skip_from_of_step inside stepped]
          exact induction taken

theorem skip_of_after_quote {bytes rest : Bytes} {content : String}
    (taken : afterQuote bytes = .ok (content, rest)) : skip bytes = .ok rest := by
  obtain ⟨⟨decoded, after⟩, read, decodes⟩ := bind_ok_iff.mp taken
  have passed := skip_from_of_bytes_from read
  dsimp only at decodes
  split at decodes
  next =>
    cases decodes
    exact passed
  next => cases decodes

end Text

namespace Number

theorem drop_digits_rest (dropped other : Nat) (bytes : Bytes) :
    (dropDigits dropped bytes).2 = (dropDigits other bytes).2 := by
  induction bytes generalizing dropped other with
  | nil => rfl
  | cons b bytes induction =>
      rw [dropDigits, dropDigits]
      split_ifs
      · apply induction
      · rfl

theorem drop_digits_after_take (limit value count dropped other : Nat) (bytes : Bytes) :
    (dropDigits dropped (takeDigits limit value count bytes).2.2).2 =
      (dropDigits other bytes).2 := by
  induction bytes generalizing value count other with
  | nil => rfl
  | cons b bytes induction =>
      rw [takeDigits]
      cases digit : digit? b with
      | none => apply drop_digits_rest
      | some d =>
          dsimp only
          split_ifs
          · rw [induction _ _ (other + 1)]
            simp [dropDigits, digit]
          · apply drop_digits_rest

variable {negative : Bool} {significand : Nat} {exponent : Int} {numeral : Numeral}
variable {bytes rest : Bytes}

theorem float_rest {front : Bytes} (taken : float negative significand exponent front =
    .ok (numeral, rest)) : rest = front := by
  unfold float at taken
  split at taken
  · cases taken
    rfl
  · cases taken

theorem digits_rest {limit value count dropped kept : Nat} {bytes after : Bytes}
    (taken : takeDigits limit value count bytes = (kept, dropped, after)) :
    (dropDigits 0 bytes).2 = (dropDigits 0 after).2 := by
  rw [← drop_digits_after_take limit value count 0 0 bytes, taken]

theorem drop_digits_of_no_digit {bytes : Bytes} (stops : startsWithDigit bytes = false)
    (count : Nat) : (dropDigits count bytes).2 = bytes := by
  rw [drop_digits_of_stops stops]

theorem skip_exponent_of_read
    (taken : afterExponentMark negative significand exponent bytes = .ok (numeral, rest)) :
    skipExponent bytes = .ok rest := by
  unfold afterExponentMark at taken
  split at taken
  next below unsigned signed =>
    split at taken
    next => cases taken
    next b tail =>
      split at taken
      next => cases taken
      next first digit =>
        -- The sign is taken in the same way, and the digits after it end at the same place.
        have digits : (dropDigits 0 tail).2 = rest := by
          split at taken
          next value count after taking =>
            rw [digits_rest taking]
            split at taken
            next more =>
              split at taken
              next => cases taken
              next =>
                cases taken
                rfl
            next ended =>
              rw [float_rest taken]
              apply drop_digits_of_no_digit
              simpa using ended
        unfold skipExponent
        cases bytes with
        | nil => cases signed
        | cons mark bytes =>
            dsimp only at signed ⊢
            have unsigned : (if mark = Mark.plus ∨ mark = Mark.minus then bytes
                else mark :: bytes) = b :: tail := by
              split_ifs at signed with plus minus
              · cases signed
                rw [if_pos (Or.inl plus)]
              · cases signed
                rw [if_pos (Or.inr minus)]
              · cases signed
                rw [if_neg (by simp [plus, minus])]
            rw [unsigned]
            simp only [digit, Option.isSome_some, if_true, digits]

theorem le_drop_digits (count : Nat) (bytes : Bytes) : count ≤ (dropDigits count bytes).1 := by
  induction bytes generalizing count with
  | nil => exact Nat.le_refl _
  | cons b bytes induction =>
      rw [dropDigits]
      split_ifs
      · exact Nat.le_of_succ_le (induction (count + 1))
      · exact Nat.le_refl _

def skipAfterFraction : Bytes → Except Fault Bytes
  | [] => .ok []
  | mark :: rest => if isExponentMark mark then skipExponent rest else .ok (mark :: rest)

theorem skip_after_fraction_of_read
    (taken : afterFraction negative significand exponent bytes = .ok (numeral, rest)) :
    skipAfterFraction bytes = .ok rest := by
  unfold afterFraction at taken
  cases bytes with
  | nil => rw [skipAfterFraction, float_rest taken]
  | cons b tail =>
      rw [skipAfterFraction]
      dsimp only at taken
      split at taken
      next mark =>
        rw [if_pos mark]
        apply skip_exponent_of_read taken
      next other => rw [if_neg other, float_rest taken]

theorem skip_fraction_digits (digits : startsWithDigit bytes = true) :
    skipFraction bytes = skipAfterFraction (dropDigits 0 bytes).2 := by
  have counted : (dropDigits 0 bytes).1 ≠ 0 := by
    cases bytes with
    | nil => cases digits
    | cons b tail =>
        rw [dropDigits, if_pos (by exact digits)]
        exact Nat.ne_of_gt (le_drop_digits 1 tail)
  unfold skipFraction
  split
  next zero => simp [zero] at counted
  next front => rw [front, skipAfterFraction]
  next front => rw [front, skipAfterFraction]

theorem starts_of_skip_fraction (skipped : skipFraction bytes = .ok rest) :
    startsWithDigit bytes = true := by
  cases starts : startsWithDigit bytes with
  | true => rfl
  | false =>
      rw [skipFraction, drop_digits_of_stops starts] at skipped
      cases skipped

theorem skip_fraction_of_read
    (taken : afterPoint negative significand exponent bytes = .ok (numeral, rest)) :
    skipFraction bytes = .ok rest := by
  have digits : startsWithDigit bytes = true := by
    cases starts : startsWithDigit bytes with
    | true => rfl
    | false =>
        unfold afterPoint at taken
        rw [take_digits_of_stops starts] at taken
        dsimp only at taken
        rw [if_neg (by simp [starts]), if_pos rfl] at taken
        split at taken <;> cases taken
  rw [skip_fraction_digits digits]
  unfold afterPoint at taken
  split at taken
  next value count after taking =>
    rw [digits_rest taking]
    split at taken
    next more => exact skip_after_fraction_of_read taken
    next ended =>
      split at taken
      next => split at taken <;> cases taken
      next =>
        rw [drop_digits_of_no_digit (by simpa using ended)]
        exact skip_after_fraction_of_read taken

def skipFollowing : Bytes → Except Fault Bytes
  | [] => .ok []
  | mark :: rest =>
      if mark = Mark.point then skipFraction rest else skipAfterFraction (mark :: rest)

theorem skip_digits {b : UInt8} {first : Nat} {tail : Bytes} (digit : digit? b = some first)
    (unpadded : ¬ (first = 0 ∧ startsWithDigit tail = true)) :
    skip (b :: tail) = skipFollowing (dropDigits 0 tail).2 := by
  rw [skip, digit]
  dsimp only
  rw [if_neg unpadded]
  cases (dropDigits 0 tail).2 <;> rfl

theorem digit_of_skip {b : UInt8} {tail : Bytes} (skipped : skip (b :: tail) = .ok rest) :
    ∃ first, digit? b = some first ∧ ¬ (first = 0 ∧ startsWithDigit tail = true) := by
  rw [skip] at skipped
  split at skipped
  next => cases skipped
  next first digit =>
    refine ⟨first, digit, ?_⟩
    intro padded
    rw [if_pos padded] at skipped
    cases skipped

theorem skip_after_integer {dropped : Nat}
    (taken : afterInteger negative significand dropped bytes = .ok (numeral, rest)) :
    skipFollowing bytes = .ok rest := by
  have whole : ∀ {front : Bytes},
      (if dropped = 0 then .ok (integer negative significand, front)
        else float negative significand dropped front) = .ok (numeral, rest) → front = rest := by
    intro front ended
    split at ended
    · cases ended
      rfl
    · exact (float_rest ended).symm
  unfold afterInteger at taken
  cases bytes with
  | nil =>
      rw [← whole taken]
      rfl
  | cons b tail =>
      rw [skipFollowing]
      dsimp only at taken
      split at taken
      next point =>
        rw [if_pos point]
        apply skip_fraction_of_read taken
      next noPoint =>
        rw [if_neg noPoint, skipAfterFraction]
        split at taken
        next mark =>
          rw [if_pos mark]
          apply skip_exponent_of_read taken
        next other => rw [if_neg other, whole taken]

theorem skip_of_read (taken : read negative bytes = .ok (numeral, rest)) :
    skip bytes = .ok rest := by
  cases bytes with
  | nil => cases taken
  | cons b tail =>
      rw [read] at taken
      split at taken
      next => cases taken
      next zero =>
        split at taken
        next => cases taken
        next single =>
          have stops : startsWithDigit tail = false := by simpa using single
          rw [skip_digits zero (by simp [stops]), drop_digits_of_no_digit stops]
          exact skip_after_integer taken
      next first positive digit =>
        split at taken
        next value count after taking =>
          split at taken
          next dropped last dropping =>
            rw [skip_digits digit (fun leading => positive leading.1), digits_rest taking, dropping]
            exact skip_after_integer taken

end Number

namespace Skip

variable {bytes after rest : Bytes}

theorem piece_of_text (front : skipBlanks bytes = Mark.quote :: after)
    (skipped : Text.skip after = .ok rest) : piece bytes = .ok (.scalar rest) := by
  rw [piece, front]
  change Piece.scalar <$> Text.skip after = _
  rw [skipped]
  rfl

theorem piece_of_true (front : skipBlanks bytes = Mark.letter 't' :: after)
    (skipped : restOfWord ['r', 'u', 'e'] after = .ok rest) : piece bytes = .ok (.scalar rest) := by
  rw [piece, front]
  change Piece.scalar <$> restOfWord ['r', 'u', 'e'] after = _
  rw [skipped]
  rfl

theorem piece_of_false (front : skipBlanks bytes = Mark.letter 'f' :: after)
    (skipped : restOfWord ['a', 'l', 's', 'e'] after = .ok rest) :
    piece bytes = .ok (.scalar rest) := by
  rw [piece, front]
  change Piece.scalar <$> restOfWord ['a', 'l', 's', 'e'] after = _
  rw [skipped]
  rfl

theorem piece_of_minus (front : skipBlanks bytes = Mark.minus :: after)
    (skipped : Number.skip after = .ok rest) : piece bytes = .ok (.scalar rest) := by
  rw [piece, front]
  change Piece.scalar <$> Number.skip after = _
  rw [skipped]
  rfl

theorem piece_of_digit {b : UInt8} (front : skipBlanks bytes = b :: after)
    (digit : (Number.digit? b).isSome = true) (skipped : Number.skip (b :: after) = .ok rest) :
    piece bytes = .ok (.scalar rest) := by
  rw [piece, front]
  dsimp only
  rw [if_neg (Number.digit_ne digit rfl), if_neg (Number.digit_ne digit rfl),
    if_neg (Number.digit_ne digit rfl), if_neg (Number.digit_ne digit rfl), if_pos digit, skipped]
  rfl

end Skip

end MotorTariff.Json
