import MotorTariff.Json.Form
import MotorTariff.Proofs.Text.Digits
import MotorTariff.Proofs.Text.Utf8

/-!
# Reading an integer that was written

Digits are read back as the number they were written for, provided that what follows them is not
taken for more of the number. The first digit of a number above zero is no zero, which a reader that
refuses leading zeros relies on.
-/

set_option autoImplicit false

namespace MotorTariff.Json

-- Powers are the core library's own, also where other libraries define some.
attribute [local instance (high)] instPowNat

/-- No number goes on in what follows: there is no digit, point or exponent mark in front. -/
def Ends (rest : Bytes) : Prop :=
  ∀ b ∈ rest.head?,
    Number.digit? b = none ∧ b ≠ Mark.point ∧ Number.isExponentMark b = false

theorem ends_nil : Ends [] := by
  intro b member
  cases member

theorem ends_cons {b : UInt8} {rest : Bytes}
    (other : Number.digit? b = none ∧ b ≠ Mark.point ∧ Number.isExponentMark b = false) :
    Ends (b :: rest) := by
  intro first member
  cases member
  exact other

theorem skip_blanks_of_mark {b : UInt8} {rest : Bytes} (mark : isBlank b = false) :
    skipBlanks (b :: rest) = b :: rest := by
  simp [skipBlanks, mark]

theorem skip_blanks_append {blanks : Bytes} (blank : ∀ b ∈ blanks, isBlank b = true)
    (bytes : Bytes) : skipBlanks (blanks ++ bytes) = skipBlanks bytes := by
  induction blanks with
  | nil => rfl
  | cons b blanks ih =>
      rw [List.forall_mem_cons] at blank
      rw [List.cons_append, skipBlanks, if_pos blank.1, ih blank.2]

theorem ends_of_blanks {blanks rest : Bytes} (blank : ∀ b ∈ blanks, isBlank b = true)
    (ends : Ends rest) : Ends (blanks ++ rest) := by
  cases blanks with
  | nil => exact ends
  | cons b blanks =>
      have isBlank := blank b List.mem_cons_self
      simp only [Json.isBlank, Bool.or_eq_true, beq_iff_eq] at isBlank
      apply ends_cons
      rcases isBlank with ((rfl | rfl) | rfl) | rfl <;> decide

theorem ends_blanks {blanks : Bytes} (blank : ∀ b ∈ blanks, isBlank b = true) : Ends blanks := by
  rw [← List.append_nil blanks]
  exact ends_of_blanks blank ends_nil

namespace Number

theorem digit_ne {b mark : UInt8} (digit : (digit? b).isSome = true)
    (other : (digit? mark).isSome = false) : b ≠ mark := by
  rintro rfl
  rw [other] at digit
  cases digit

theorem digit_not_blank {b : UInt8} (digit : (digit? b).isSome = true) : isBlank b = false := by
  simp only [isBlank, Bool.or_eq_false_iff, beq_eq_false_iff_ne]
  exact ⟨⟨⟨digit_ne digit rfl, digit_ne digit rfl⟩, digit_ne digit rfl⟩, digit_ne digit rfl⟩

section Digits

variable {c : Char}

theorem digit_bounds (digit : c.isDigit = true) : 0x30 ≤ c.toNat ∧ c.toNat ≤ 0x39 := by
  simpa [Char.isDigit, UInt32.le_iff_toNat_le] using digit

theorem encode_digit (digit : c.isDigit = true) : Utf8.encodeNat c.toNat = [Mark.letter c] := by
  have bounds := digit_bounds digit
  rw [Utf8.encodeNat, if_pos (by omega), Mark.letter]

theorem digit_of_letter (digit : c.isDigit = true) :
    digit? (Mark.letter c) = some (c.toNat - '0'.toNat) := by
  have bounds := digit_bounds digit
  have byte : (Mark.letter c).toNat = c.toNat := Utf8.byte_to_nat (by omega)
  rw [digit?, byte, if_pos bounds]
  rfl

theorem letter_of_digit_not_blank (digit : c.isDigit = true) :
    isBlank (Mark.letter c) = false ∧ Mark.letter c ≠ Mark.minus := by
  have known : (digit? (Mark.letter c)).isSome = true := by
    rw [digit_of_letter digit]
    rfl
  exact ⟨digit_not_blank known, digit_ne known rfl⟩

end Digits

section Stopping

variable {rest : Bytes}

theorem starts_with_digit_of_ends (ends : Ends rest) : startsWithDigit rest = false := by
  cases rest with
  | nil => rfl
  | cons b rest => simp [startsWithDigit, (ends b rfl).1]

theorem after_integer_of_ends (ends : Ends rest) (negative : Bool) (significand : Nat) :
    afterInteger negative significand 0 rest = .ok (integer negative significand, rest) := by
  cases rest with
  | nil => rfl
  | cons b rest =>
      obtain ⟨-, notPoint, notExponent⟩ := ends b rfl
      simp [afterInteger, notPoint, notExponent]

theorem no_digit_of_stops {b : UInt8} (stops : startsWithDigit (b :: rest) = false) :
    digit? b = none := by
  simpa [startsWithDigit] using stops

theorem take_digits_of_stops (stops : startsWithDigit rest = false) (limit value count : Nat) :
    takeDigits limit value count rest = (value, count, rest) := by
  cases rest with
  | nil => rfl
  | cons b rest => simp [takeDigits, no_digit_of_stops stops]

theorem drop_digits_of_stops (stops : startsWithDigit rest = false) (count : Nat) :
    dropDigits count rest = (count, rest) := by
  cases rest with
  | nil => rfl
  | cons b rest => simp [dropDigits, no_digit_of_stops stops]

theorem take_digits_cons {c : Char} (digit : c.isDigit = true) (digits : List Char)
    (limit value count : Nat) :
    takeDigits limit value count (Utf8.encode (c :: digits) ++ rest) =
      if 10 * value + (c.toNat - '0'.toNat) < limit then
        takeDigits limit (10 * value + (c.toNat - '0'.toNat)) (count + 1)
          (Utf8.encode digits ++ rest)
      else (value, count, Utf8.encode (c :: digits) ++ rest) := by
  rw [Utf8.encode_cons, encode_digit digit, List.singleton_append, List.cons_append, takeDigits,
    digit_of_letter digit, Nat.mul_comm 10]

theorem take_digits_of_written (digits : List Char) (allDigits : ∀ c ∈ digits, c.isDigit = true)
    (stops : startsWithDigit rest = false) {limit value : Nat} (count : Nat)
    (small : Nat.ofDigitChars 10 digits value < limit) :
    takeDigits limit value count (Utf8.encode digits ++ rest) =
      (Nat.ofDigitChars 10 digits value, count + digits.length, rest) := by
  -- Every partial value stays below the limit since the final one does.
  induction digits generalizing value count with
  | nil => exact take_digits_of_stops stops limit value count
  | cons c digits ih =>
      rw [List.forall_mem_cons] at allDigits
      rw [Nat.ofDigitChars_cons] at small ⊢
      have below := Nat.lt_of_le_of_lt (Digits.le_of_digit_chars digits _) small
      rw [take_digits_cons allDigits.1, if_pos below, ih allDigits.2 _ small, List.length_cons,
        Nat.add_assoc, Nat.add_comm 1]

theorem take_digits_until_full (digits : List Char) (allDigits : ∀ c ∈ digits, c.isDigit = true)
    {limit value : Nat} (below : value < limit)
    (reaches : limit ≤ Nat.ofDigitChars 10 digits value) (count : Nat) (rest : Bytes) :
    ∃ significand taken remaining,
      takeDigits limit value count (Utf8.encode digits ++ rest) =
        (significand, taken, Utf8.encode remaining ++ rest) ∧
      remaining ≠ [] ∧ ∀ c ∈ remaining, c.isDigit = true := by
  induction digits generalizing value count with
  | nil => exact absurd below (Nat.not_lt.mpr reaches)
  | cons c digits ih =>
      have own := List.forall_mem_cons.mp allDigits
      rw [Nat.ofDigitChars_cons] at reaches
      rw [take_digits_cons own.1]
      split_ifs with further
      · exact ih own.2 further reaches (count + 1)
      · exact ⟨value, count, c :: digits, rfl, List.cons_ne_nil c digits, allDigits⟩

end Stopping

theorem read_integer_part (negative : Bool) {digits : List Char}
    (part : Digits.IsIntegerPart digits)
    (fits : Nat.ofDigitChars 10 digits 0 < significandLimit) {rest : Bytes}
    (stops : startsWithDigit rest = false) :
    read negative (Utf8.encode digits ++ rest) =
      afterInteger negative (Nat.ofDigitChars 10 digits 0) 0 rest := by
  obtain ⟨allDigits, rfl | ⟨first, more, rfl, above⟩⟩ := part
  · have zero : digit? (Mark.letter '0') = some 0 := by rfl
    rw [Utf8.encode_cons, encode_digit (by rfl), List.singleton_append, List.cons_append, read,
      zero]
    simp [stops, Utf8.encode, Nat.ofDigitChars]
  · have digit := allDigits first List.mem_cons_self
    rw [Nat.ofDigitChars_cons, Nat.mul_zero, Nat.zero_add] at fits ⊢
    have taken := take_digits_of_written more
      (fun c member => allDigits c (List.mem_cons_of_mem _ member)) stops 0 fits
    obtain ⟨lead, leading⟩ := Nat.exists_eq_succ_of_ne_zero
      (Nat.sub_ne_zero_of_lt above)
    rw [Utf8.encode_cons, encode_digit digit, List.singleton_append, List.cons_append,
      read, digit_of_letter digit, leading]
    rw [leading] at taken
    simp only [taken, drop_digits_of_stops stops]

theorem read_digits (negative : Bool) {n : Nat} (fits : n < significandLimit) {rest : Bytes}
    (ends : Ends rest) :
    read negative (Utf8.encode (Nat.toDigits 10 n) ++ rest) =
      .ok (integer negative n, rest) := by
  have value : Nat.ofDigitChars 10 (Nat.toDigits 10 n) 0 = n := Nat.ofDigitChars_ten_toDigits
  have read := read_integer_part negative (Digits.to_digits_is_integer_part n)
    (value.symm ▸ fits) (starts_with_digit_of_ends ends)
  rw [value] at read
  rw [read, after_integer_of_ends ends]

end Number

end MotorTariff.Json
