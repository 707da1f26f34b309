import MotorTariff.Proofs.Json.OneValue

/-!
# What follows a value

A value that has been passed over is passed over in the same way if more bytes follow. A number is
the exception, as it may go on; but a list or an object ends with a mark of its own. So a document
that is a record is no beginning of another one, and nothing can stand behind it.
-/

set_option autoImplicit false

namespace MotorTariff.Json

variable {bytes rest more : Bytes}

theorem skip_blanks_extend {b : UInt8} (front : skipBlanks bytes = b :: rest) :
    skipBlanks (bytes ++ more) = b :: (rest ++ more) := by
  induction bytes with
  | nil => cases front
  | cons first bytes induction =>
      rw [skipBlanks] at front
      rw [List.cons_append, skipBlanks]
      split_ifs at front ⊢
      · exact induction front
      · cases front
        rfl

theorem rest_of_word_extend {letters : List Char} (taken : restOfWord letters bytes = .ok rest) :
    restOfWord letters (bytes ++ more) = .ok (rest ++ more) := by
  induction letters generalizing bytes with
  | nil =>
      cases taken
      rfl
  | cons c letters induction =>
      cases bytes with
      | nil => cases taken
      | cons b bytes =>
          rw [restOfWord] at taken
          rw [List.cons_append, restOfWord]
          split_ifs at taken ⊢
          exact induction taken

theorem take_colon_extend (taken : takeColon bytes = .ok rest) :
    takeColon (bytes ++ more) = .ok (rest ++ more) := by
  unfold takeColon at taken ⊢
  split at taken
  next => cases taken
  next b after front =>
    rw [skip_blanks_extend front]
    split_ifs at taken with colon
    cases taken
    simp only [if_pos colon]

theorem skip_text_extend {mode : Text.Mode} (taken : Text.skipFrom mode bytes = .ok rest) :
    Text.skipFrom mode (bytes ++ more) = .ok (rest ++ more) := by
  induction bytes generalizing mode with
  | nil => cases taken
  | cons b bytes induction =>
      rw [Text.skipFrom.eq_def] at taken ⊢
      dsimp only [List.cons_append] at taken ⊢
      split at taken
      next closing =>
        rw [if_pos closing]
        cases taken
        rfl
      next inside =>
        rw [if_neg inside]
        split at taken
        next lead digits =>
          split at taken
          next short =>
            rw [if_pos short]
            exact induction taken
          next full =>
            rw [if_neg full]
            split at taken
            next => exact induction taken
            next => cases taken
        next other =>
          split at taken
          next => cases taken
          next => exact induction taken

namespace Number

theorem drop_digits_extend {count total : Nat} (dropped : dropDigits count bytes = (total, rest))
    (goesOn : rest ≠ []) : dropDigits count (bytes ++ more) = (total, rest ++ more) := by
  induction bytes generalizing count with
  | nil =>
      cases dropped
      exact absurd rfl goesOn
  | cons b bytes induction =>
      rw [dropDigits] at dropped
      rw [List.cons_append, dropDigits]
      split_ifs at dropped ⊢
      · exact induction dropped
      · cases dropped
        rfl

theorem skip_exponent_extend (skipped : skipExponent bytes = .ok rest) (goesOn : rest ≠ []) :
    skipExponent (bytes ++ more) = .ok (rest ++ more) := by
  have digits : ∀ {b : UInt8} {tail : Bytes},
      (if (digit? b).isSome then .ok (dropDigits 0 tail).2
        else .error (.before .invalidNumber tail) : Except Fault Bytes) = .ok rest →
      (if (digit? b).isSome then .ok (dropDigits 0 (tail ++ more)).2
        else .error (.before .invalidNumber (tail ++ more)) : Except Fault Bytes) =
          .ok (rest ++ more) := by
    intro b tail ended
    split_ifs at ended ⊢
    cases ended
    rw [drop_digits_extend rfl goesOn]
  unfold skipExponent at skipped ⊢
  cases bytes with
  | nil => cases skipped
  | cons mark tail =>
      dsimp only [List.cons_append] at skipped ⊢
      split_ifs at skipped ⊢
      · cases tail with
        | nil => cases skipped
        | cons b tail => exact digits skipped
      · exact digits skipped

theorem skip_after_fraction_extend (skipped : skipAfterFraction bytes = .ok rest)
    (goesOn : rest ≠ []) : skipAfterFraction (bytes ++ more) = .ok (rest ++ more) := by
  cases bytes with
  | nil =>
      cases skipped
      exact absurd rfl goesOn
  | cons mark tail =>
      rw [skipAfterFraction] at skipped
      rw [List.cons_append, skipAfterFraction]
      split_ifs at skipped ⊢
      · exact skip_exponent_extend skipped goesOn
      · cases skipped
        rfl

theorem digits_extend (goesOn : (dropDigits 0 bytes).2 ≠ []) :
    (dropDigits 0 (bytes ++ more)).2 = (dropDigits 0 bytes).2 ++ more := by
  rw [drop_digits_extend rfl goesOn]

theorem starts_with_digit_extend (goesOn : bytes ≠ []) :
    startsWithDigit (bytes ++ more) = startsWithDigit bytes := by
  cases bytes with
  | nil => exact absurd rfl goesOn
  | cons b tail => rfl

theorem skip_fraction_extend (skipped : skipFraction bytes = .ok rest) (goesOn : rest ≠ []) :
    skipFraction (bytes ++ more) = .ok (rest ++ more) := by
  have starts := starts_of_skip_fraction skipped
  have present : bytes ≠ [] := by
    rintro rfl
    cases starts
  have startsMore : startsWithDigit (bytes ++ more) = true := by
    rw [starts_with_digit_extend present, starts]
  rw [skip_fraction_digits starts] at skipped
  have behind : (dropDigits 0 bytes).2 ≠ [] := by
    intro nothing
    rw [nothing] at skipped
    cases skipped
    exact goesOn rfl
  rw [skip_fraction_digits startsMore, digits_extend behind]
  exact skip_after_fraction_extend skipped goesOn

theorem skip_following_extend (skipped : skipFollowing bytes = .ok rest) (goesOn : rest ≠ []) :
    skipFollowing (bytes ++ more) = .ok (rest ++ more) := by
  cases bytes with
  | nil =>
      cases skipped
      exact absurd rfl goesOn
  | cons mark tail =>
      rw [skipFollowing] at skipped
      rw [List.cons_append, skipFollowing]
      split_ifs at skipped ⊢
      · exact skip_fraction_extend skipped goesOn
      · exact skip_after_fraction_extend skipped goesOn

theorem skip_number_extend (skipped : skip bytes = .ok rest) (goesOn : rest ≠ []) :
    skip (bytes ++ more) = .ok (rest ++ more) := by
  cases bytes with
  | nil => cases skipped
  | cons b tail =>
      obtain ⟨first, digit, unpadded⟩ := digit_of_skip skipped
      rw [skip_digits digit unpadded] at skipped
      have behind : (dropDigits 0 tail).2 ≠ [] := by
        intro nothing
        rw [nothing] at skipped
        cases skipped
        exact goesOn rfl
      have present : tail ≠ [] := by
        rintro rfl
        exact behind rfl
      have unpaddedMore : ¬ (first = 0 ∧ startsWithDigit (tail ++ more) = true) := by
        rwa [starts_with_digit_extend present]
      rw [List.cons_append, skip_digits digit unpaddedMore, digits_extend behind]
      exact skip_following_extend skipped goesOn

end Number

namespace Skip

theorem key_extend (taken : key bytes = .ok rest) : key (bytes ++ more) = .ok (rest ++ more) := by
  unfold key at taken ⊢
  split at taken
  next => cases taken
  next b after front =>
    rw [skip_blanks_extend front]
    split_ifs at taken with quote
    obtain ⟨left, skipped, colon⟩ := bind_ok_iff.mp taken
    have skippedMore : Text.skip (after ++ more) = .ok (left ++ more) := skip_text_extend skipped
    simp only [if_pos quote, skippedMore, ok_bind]
    exact take_colon_extend colon

def Piece.extend (more : Bytes) : Piece → Piece
  | .scalar rest => .scalar (rest ++ more)
  | .opened nest rest => .opened nest (rest ++ more)

theorem piece_extend {front : Piece} (taken : piece bytes = .ok front) (inside : front ≠ .scalar []) :
    piece (bytes ++ more) = .ok (front.extend more) := by
  -- A scalar at the very end of the bytes is left out, as a number might go on.
  have scalar : ∀ {outcome extended : Except Fault Bytes},
      (∀ {left}, outcome = .ok left → left ≠ [] → extended = .ok (left ++ more)) →
      Piece.scalar <$> outcome = .ok front →
      Piece.scalar <$> extended = .ok (front.extend more) := by
    intro outcome extended extend done
    obtain ⟨left, ended, rfl⟩ := map_ok_iff.mp done
    have goesOn : left ≠ [] := by
      rintro rfl
      exact inside rfl
    rw [extend ended goesOn]
    rfl
  unfold piece at taken ⊢
  split at taken
  next => cases taken
  next b after found =>
    rw [skip_blanks_extend found]
    dsimp only
    by_cases isNull : b = Mark.letter 'n'
    · rw [if_pos isNull] at taken ⊢
      exact scalar (fun word _ => rest_of_word_extend word) taken
    rw [if_neg isNull] at taken ⊢
    by_cases isTrue : b = Mark.letter 't'
    · rw [if_pos isTrue] at taken ⊢
      exact scalar (fun word _ => rest_of_word_extend word) taken
    rw [if_neg isTrue] at taken ⊢
    by_cases isFalse : b = Mark.letter 'f'
    · rw [if_pos isFalse] at taken ⊢
      exact scalar (fun word _ => rest_of_word_extend word) taken
    rw [if_neg isFalse] at taken ⊢
    by_cases minus : b = Mark.minus
    · rw [if_pos minus] at taken ⊢
      exact scalar Number.skip_number_extend taken
    rw [if_neg minus] at taken ⊢
    by_cases digit : (Number.digit? b).isSome = true
    · rw [if_pos digit] at taken ⊢
      exact scalar Number.skip_number_extend taken
    rw [if_neg digit] at taken ⊢
    by_cases quote : b = Mark.quote
    · rw [if_pos quote] at taken ⊢
      exact scalar (fun skipped _ => skip_text_extend skipped) taken
    rw [if_neg quote] at taken ⊢
    split at taken
    next bracket =>
      rw [if_pos bracket]
      cases taken
      rfl
    next other =>
      rw [if_neg other]
      split at taken
      next brace =>
        rw [if_pos brace]
        cases taken
        rfl
      next => cases taken

theorem piece_opened_extend {nest : Nest} (taken : piece bytes = .ok (.opened nest rest)) :
    piece (bytes ++ more) = .ok (.opened nest (rest ++ more)) := by
  apply piece_extend taken
  intro same
  cases same

theorem after_element_extend {nest : Nest} {outer left : List Nest}
    (done : afterElement (nest :: outer) bytes = .ok (left, rest)) :
    afterElement (nest :: outer) (bytes ++ more) = .ok (left, rest ++ more) := by
  induction outer generalizing nest bytes with
  | nil =>
      rw [afterElement] at done ⊢
      split at done
      next => cases done
      next b after front =>
        rw [skip_blanks_extend front]
        split_ifs at done with closing comma
        · cases done
          simp only [if_pos closing, afterElement]
        · cases done
          simp only [if_neg closing, if_pos comma]
  | cons next outer induction =>
      rw [afterElement] at done ⊢
      split at done
      next => cases done
      next b after front =>
        rw [skip_blanks_extend front]
        split_ifs at done with closing comma
        · simp only [if_pos closing]
          exact induction done
        · cases done
          simp only [if_neg closing, if_pos comma]

theorem after_opening_extend {nest : Nest} {outer left : List Nest}
    (done : afterOpening nest outer bytes = .ok (left, rest)) :
    afterOpening nest outer (bytes ++ more) = .ok (left, rest ++ more) := by
  unfold afterOpening at done ⊢
  split at done
  next => cases done
  next b after front =>
    rw [skip_blanks_extend front]
    split_ifs at done with closing
    · simp only [if_pos closing]
      cases outer with
      | nil =>
          cases done
          rfl
      | cons next outer => exact after_element_extend done
    · cases done
      simp only [if_neg closing]
      rfl

theorem go_on_extend {fuel : Nat} {left : List Nest}
    (values_extend : ∀ {nest outer bytes}, values fuel (nest :: outer) bytes = .ok rest →
      values fuel (nest :: outer) (bytes ++ more) = .ok (rest ++ more))
    (went : goOn fuel (left, bytes) = .ok rest) :
    goOn fuel (left, bytes ++ more) = .ok (rest ++ more) := by
  cases left with
  | nil =>
      cases went
      rfl
  | cons nest outer =>
      cases nest with
      | list => exact values_extend went
      | object =>
          obtain ⟨value, named, passed⟩ := bind_ok_iff.mp went
          rw [goOn, key_extend named]
          exact values_extend passed

theorem go_on_opened_extend {fuel : Nat} {nest : Nest} {nests : List Nest} {after : Bytes}
    (values_extend : ∀ {nest outer bytes}, values fuel (nest :: outer) bytes = .ok rest →
      values fuel (nest :: outer) (bytes ++ more) = .ok (rest ++ more))
    (taken : piece bytes = .ok (.opened nest after))
    (passed : values (fuel + 1) nests bytes = .ok rest) :
    values (fuel + 1) nests (bytes ++ more) = .ok (rest ++ more) := by
  rw [values_of_opened fuel nests taken] at passed
  obtain ⟨⟨left, next⟩, done, went⟩ := bind_ok_iff.mp passed
  rw [values_of_opened fuel nests (piece_opened_extend taken), after_opening_extend done, ok_bind]
  exact go_on_extend values_extend went

theorem values_extend {fuel : Nat} {nest : Nest} {outer : List Nest}
    (passed : values fuel (nest :: outer) bytes = .ok rest) :
    values fuel (nest :: outer) (bytes ++ more) = .ok (rest ++ more) := by
  induction fuel generalizing nest outer bytes with
  | zero => cases passed
  | succ fuel induction =>
      cases taken : piece bytes with
      | error fault =>
          rw [values_of_no_piece fuel _ taken] at passed
          cases passed
      | ok front =>
          cases front with
          | scalar after =>
              rw [values_of_scalar fuel _ taken] at passed
              obtain ⟨⟨left, next⟩, done, went⟩ := bind_ok_iff.mp passed
              have inside : Piece.scalar after ≠ .scalar [] := by
                rintro ⟨⟩
                cases done
              rw [values_of_scalar fuel _ (piece_extend taken inside), resume,
                after_element_extend done, ok_bind]
              exact go_on_extend induction went
          | opened inner after => exact go_on_opened_extend induction taken passed

theorem passes_extend {nest : Nest} {after : Bytes}
    (opened : piece bytes = .ok (.opened nest after)) (passes : Passes bytes rest) :
    Passes (bytes ++ more) (rest ++ more) := by
  obtain ⟨rounds, passed⟩ := exists_rounds_of_passes passes
  have alone := passed 0 []
  rw [resume_nothing_open] at alone
  exact passes_of_values (go_on_opened_extend values_extend opened alone)

end Skip

theorem skip_blanks_nil_iff : skipBlanks bytes = [] ↔ ∀ b ∈ bytes, isBlank b = true := by
  induction bytes with
  | nil => simp [skipBlanks]
  | cons b bytes induction =>
      rw [skipBlanks, List.forall_mem_cons]
      split_ifs with blank
      · simp [blank, induction]
      · simp [blank]

theorem read_document_ok_iff {Value : Type} {reader : Reader Value} {value : Value} :
    readDocument reader bytes = .ok value ↔
      ∃ rest, reader bytes = .ok (value, rest) ∧ ∀ b ∈ rest, isBlank b = true := by
  rw [readDocument, bind_ok_iff]
  constructor
  · rintro ⟨⟨found, rest⟩, read, ended⟩
    dsimp only at ended
    split at ended
    next front =>
      cases ended
      exact ⟨rest, read, skip_blanks_nil_iff.mp front⟩
    next => cases ended
  · rintro ⟨rest, read, blank⟩
    refine ⟨(value, rest), read, ?_⟩
    simp only [skip_blanks_nil_iff.mpr blank]

namespace RecordForm

variable {Key Record : Type} [DecidableEq Key] {record : RecordForm Key Record}

theorem opened_of_read {value : Record} (read : record.read bytes = .ok (value, rest)) :
    ∃ nest after, Skip.piece bytes = .ok (.opened nest after) := by
  unfold RecordForm.read at read
  split at read
  next => cases read
  next b inside front =>
    split_ifs at read with brace bracket
    · refine ⟨.object, inside, ?_⟩
      rw [Skip.piece, front, brace]
      rfl
    · refine ⟨.list, inside, ?_⟩
      rw [Skip.piece, front, bracket]
      rfl

variable (values : ∀ key, (record.form key).TakesOneValue) {value other : Record} {left : Bytes}

include values

/-- Where a record stands with more behind it, nothing but the record is read. -/
theorem rest_of_read_extended (whole : record.read bytes = .ok (value, rest))
    (extended : record.read (bytes ++ more) = .ok (other, left)) : left = rest ++ more := by
  obtain ⟨nest, after, opened⟩ := opened_of_read whole
  have passes : Skip.Passes bytes rest := record_takes_one_value values whole
  have passesMore : Skip.Passes (bytes ++ more) left := record_takes_one_value values extended
  exact Skip.passes_unique passesMore (Skip.passes_extend opened passes)

theorem beginning_refused (whole : record.read (bytes ++ more) = .ok (value, []))
    (cut : more ≠ []) : record.read bytes ≠ .ok (other, left) := by
  intro read
  have nothing := rest_of_read_extended values read whole
  exact cut (List.append_eq_nil_iff.mp nothing.symm).2

end RecordForm

end MotorTariff.Json
