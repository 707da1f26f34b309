import MotorTariff.Proofs.Json.Skipping
import MotorTariff.Proofs.Text.Digits

/-!
# Numbers as they are spelled

A number is a sign, digits without a leading zero, perhaps a fraction and perhaps an exponent. However
large it is, and however many digits it has, it is passed over up to its end.
-/

set_option autoImplicit false

namespace MotorTariff.Json

namespace Number

def IsFraction (chars : List Char) : Prop :=
  chars = [] ∨ ∃ digits, chars = '.' :: digits ∧ digits ≠ [] ∧ ∀ c ∈ digits, c.isDigit = true

def IsExponent (chars : List Char) : Prop :=
  chars = [] ∨ ∃ mark sign digits, chars = mark :: (sign ++ digits) ∧
    (mark = 'e' ∨ mark = 'E') ∧ (sign = [] ∨ sign = ['+'] ∨ sign = ['-']) ∧
    digits ≠ [] ∧ ∀ c ∈ digits, c.isDigit = true

/-- A number as it is spelled; its value is not needed. -/
structure Spelling where
  negative : Bool
  whole : List Char
  fraction : List Char
  exponent : List Char
  whole_spelled : Digits.IsIntegerPart whole
  fraction_spelled : IsFraction fraction
  exponent_spelled : IsExponent exponent

namespace Spelling

variable (number : Spelling)

def magnitude : List Char := number.whole ++ (number.fraction ++ number.exponent)

def chars : List Char := (if number.negative then ['-'] else []) ++ number.magnitude

end Spelling

variable {digits fraction exponent : List Char} {rest : Bytes}

theorem drop_written_digits (allDigits : ∀ c ∈ digits, c.isDigit = true)
    (stops : startsWithDigit rest = false) (count : Nat) :
    dropDigits count (Utf8.encode digits ++ rest) = (count + digits.length, rest) := by
  induction digits generalizing count with
  | nil => exact drop_digits_of_stops stops count
  | cons c digits induction =>
      rw [List.forall_mem_cons] at allDigits
      rw [Utf8.encode_cons, encode_digit allDigits.1, List.singleton_append, List.cons_append,
        dropDigits, digit_of_letter allDigits.1, Option.isSome_some, if_pos rfl,
        induction allDigits.2, List.length_cons, Nat.add_assoc, Nat.add_comm 1]

theorem skip_sign_and_digits {sign : List Char}
    (signed : sign = [] ∨ sign = ['+'] ∨ sign = ['-']) (present : digits ≠ [])
    (allDigits : ∀ c ∈ digits, c.isDigit = true) (ends : Ends rest) :
    skipExponent (Utf8.encode (sign ++ digits) ++ rest) = .ok rest := by
  obtain ⟨first, more, rfl⟩ := List.exists_cons_of_ne_nil present
  rw [List.forall_mem_cons] at allDigits
  have digit : (digit? (Mark.letter first)).isSome = true := by
    rw [digit_of_letter allDigits.1]
    rfl
  have dropped := drop_written_digits allDigits.2 (starts_with_digit_of_ends ends) 0
  have layout : Utf8.encode (first :: more) ++ rest =
      Mark.letter first :: (Utf8.encode more ++ rest) := by
    rw [Utf8.encode_cons, encode_digit allDigits.1]
    rfl
  have taken : (if (digit? (Mark.letter first)).isSome
        then .ok (dropDigits 0 (Utf8.encode more ++ rest)).2
        else .error (.before .invalidNumber (Utf8.encode more ++ rest)) : Except Fault Bytes) =
      .ok rest := by
    rw [if_pos digit, dropped]
  rw [Utf8.encode_append, List.append_assoc, layout]
  rcases signed with rfl | rfl | rfl
  · have unsigned : ¬ (Mark.letter first = Mark.plus ∨ Mark.letter first = Mark.minus) :=
      not_or.mpr ⟨digit_ne digit rfl, digit_ne digit rfl⟩
    change skipExponent (Mark.letter first :: (Utf8.encode more ++ rest)) = _
    rw [skipExponent, if_neg unsigned]
    exact taken
  · exact taken
  · exact taken

section Exponents

variable (spelled : IsExponent exponent) (ends : Ends rest)

include spelled ends

theorem exponent_stops : startsWithDigit (Utf8.encode exponent ++ rest) = false := by
  rcases spelled with rfl | ⟨mark, sign, digits, rfl, rfl | rfl, -⟩
  · exact starts_with_digit_of_ends ends
  · rfl
  · rfl

theorem skip_following_exponent :
    skipFollowing (Utf8.encode exponent ++ rest) =
      skipAfterFraction (Utf8.encode exponent ++ rest) := by
  rcases spelled with rfl | ⟨mark, sign, digits, rfl, rfl | rfl, -⟩
  · cases rest with
    | nil => rfl
    | cons b rest => exact if_neg (ends b rfl).2.1
  · rfl
  · rfl

theorem skip_exponent_written : skipAfterFraction (Utf8.encode exponent ++ rest) = .ok rest := by
  rcases spelled with rfl | ⟨mark, sign, digits, rfl, marked, signed, present, allDigits⟩
  · cases rest with
    | nil => rfl
    | cons b rest => exact if_neg (by simp [(ends b rfl).2.2])
  · have skipped := skip_sign_and_digits signed present allDigits ends
    rcases marked with rfl | rfl
    · exact skipped
    · exact skipped

theorem skip_digits_and_exponent (present : digits ≠ [])
    (allDigits : ∀ c ∈ digits, c.isDigit = true) :
    skipFraction (Utf8.encode digits ++ (Utf8.encode exponent ++ rest)) = .ok rest := by
  have starts : startsWithDigit (Utf8.encode digits ++ (Utf8.encode exponent ++ rest)) = true := by
    obtain ⟨first, more, rfl⟩ := List.exists_cons_of_ne_nil present
    have digit := allDigits first List.mem_cons_self
    rw [Utf8.encode_cons, encode_digit digit]
    change (digit? (Mark.letter first)).isSome = true
    rw [digit_of_letter digit]
    rfl
  rw [skip_fraction_digits starts, drop_written_digits allDigits (exponent_stops spelled ends)]
  exact skip_exponent_written spelled ends

end Exponents

theorem skip_integer_part {whole : List Char} (part : Digits.IsIntegerPart whole)
    (stops : startsWithDigit rest = false) :
    skip (Utf8.encode whole ++ rest) = skipFollowing rest := by
  obtain ⟨first, more, rfl, -⟩ := part.front
  have allDigits := List.forall_mem_cons.mp part.all_digits
  have unpadded : ¬ (first.toNat - '0'.toNat = 0 ∧
      startsWithDigit (Utf8.encode more ++ rest) = true) := by
    rintro ⟨zero, goesOn⟩
    rcases part.no_leading_zero with single | ⟨lead, tail, same, above⟩
    · obtain ⟨-, rfl⟩ := List.cons.inj single
      rw [Utf8.encode, List.flatMap_nil, List.nil_append, stops] at goesOn
      cases goesOn
    · obtain ⟨rfl, -⟩ := List.cons.inj same
      exact Nat.sub_ne_zero_of_lt above zero
  rw [Utf8.encode_cons, encode_digit allDigits.1, List.singleton_append, List.cons_append,
    skip_digits (digit_of_letter allDigits.1) unpadded, drop_written_digits allDigits.2 stops]

theorem skip_written {whole : List Char} (part : Digits.IsIntegerPart whole)
    (fractional : IsFraction fraction) (spelled : IsExponent exponent) (ends : Ends rest) :
    skip (Utf8.encode (whole ++ (fraction ++ exponent)) ++ rest) = .ok rest := by
  rw [Utf8.encode_append, List.append_assoc]
  rcases fractional with rfl | ⟨digits, rfl, present, allDigits⟩
  · rw [List.nil_append, skip_integer_part part (exponent_stops spelled ends),
      skip_following_exponent spelled ends, skip_exponent_written spelled ends]
  · have layout : Utf8.encode ('.' :: digits ++ exponent) ++ rest =
        Mark.point :: (Utf8.encode digits ++ (Utf8.encode exponent ++ rest)) := by
      rw [Utf8.encode_append, List.append_assoc]
      rfl
    rw [layout, skip_integer_part part (by rfl)]
    exact skip_digits_and_exponent spelled ends present allDigits

namespace Spelling

variable (number : Spelling)

theorem bytes_front :
    Utf8.encode number.chars = Mark.minus :: Utf8.encode number.magnitude ∨
      ∃ b tail, Utf8.encode number.chars = b :: tail ∧
        Utf8.encode number.magnitude = b :: tail ∧ (digit? b).isSome = true := by
  cases sign : number.negative with
  | true =>
      left
      rw [Spelling.chars, sign]
      rfl
  | false =>
      right
      obtain ⟨first, more, spelled, digit⟩ := number.whole_spelled.front
      have unsigned : number.chars = number.magnitude := by
        rw [Spelling.chars, sign]
        rfl
      have layout : Utf8.encode number.magnitude = Mark.letter first ::
          Utf8.encode (more ++ (number.fraction ++ number.exponent)) := by
        rw [Spelling.magnitude, spelled, List.cons_append, Utf8.encode_cons,
          encode_digit digit]
        rfl
      refine ⟨Mark.letter first, _, unsigned ▸ layout, layout, ?_⟩
      rw [digit_of_letter digit]
      rfl

theorem piece_of_chars {rest : Bytes} (ends : Ends rest) :
    Skip.piece (Utf8.encode number.chars ++ rest) = .ok (.scalar rest) := by
  have skipped : skip (Utf8.encode number.magnitude ++ rest) = .ok rest :=
    skip_written number.whole_spelled number.fraction_spelled number.exponent_spelled
      ends
  rcases number.bytes_front with layout | ⟨b, tail, layout, unsigned, digit⟩
  · rw [layout]
    exact Skip.piece_of_minus (skip_blanks_of_mark rfl) skipped
  · rw [unsigned] at skipped
    rw [layout]
    exact Skip.piece_of_digit (skip_blanks_of_mark (digit_not_blank digit)) digit skipped

def ofInt (value : Int) : Spelling where
  negative := value < 0
  whole := Nat.toDigits 10 value.natAbs
  fraction := []
  exponent := []
  whole_spelled := Digits.to_digits_is_integer_part value.natAbs
  fraction_spelled := Or.inl rfl
  exponent_spelled := Or.inl rfl

theorem chars_of_int (value : Int) : (ofInt value).chars = integerChars value := by
  simp [chars, magnitude, ofInt, integerChars]

end Spelling

end Number

end MotorTariff.Json
