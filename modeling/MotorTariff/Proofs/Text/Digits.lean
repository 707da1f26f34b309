import MotorTariff.Text.Digits

/-!
# Digits read back

Digits spell the number that they were written for, in as many digits as it takes and in a fixed
count of them. A run of digits ends at the first other character, so a reader that takes all digits
in front takes those of one number and leaves the text behind it alone.
-/

set_option autoImplicit false

namespace MotorTariff.Digits

-- Powers are the core library's own, also where other libraries define some.
attribute [local instance (high)] instPowNat

theorem value_of_digit {c : Char} (digit : c.isDigit = true) :
    value? c = some (c.toNat - '0'.toNat) := by
  rw [value?, if_pos digit]
  rfl

theorem spelled_from (digits : List Char) (allDigits : ∀ c ∈ digits, c.isDigit = true)
    (before : Nat) :
    digits.foldlM (fun number c => (value? c).map (number * 10 + ·)) before =
      some (Nat.ofDigitChars 10 digits before) := by
  induction digits generalizing before with
  | nil => rfl
  | cons c digits ih =>
      have digit := allDigits c List.mem_cons_self
      have rest : ∀ other ∈ digits, other.isDigit = true := by
        intro other member
        exact allDigits other (List.mem_cons_of_mem _ member)
      rw [List.foldlM_cons, value_of_digit digit, Nat.ofDigitChars_cons, Nat.mul_comm]
      exact ih rest _

theorem natural_of_digits {digits : List Char} (present : digits ≠ [])
    (allDigits : ∀ c ∈ digits, c.isDigit = true) :
    natural? digits = some (Nat.ofDigitChars 10 digits 0) := by
  rw [natural?, if_neg present]
  exact spelled_from digits allDigits 0

theorem le_of_digit_chars (digits : List Char) (value : Nat) :
    value ≤ Nat.ofDigitChars 10 digits value := by
  induction digits generalizing value with
  | nil => exact Nat.le_refl value
  | cons c digits ih =>
      rw [Nat.ofDigitChars_cons]
      exact Nat.le_trans (by omega) (ih _)

section Written

variable (n : Nat)

theorem to_digits_are_digits : ∀ c ∈ Nat.toDigits 10 n, c.isDigit = true := by
  intro c member
  exact Nat.isDigit_of_mem_toDigits (by decide) (by decide) member

theorem natural_of_to_digits : natural? (Nat.toDigits 10 n) = some n := by
  rw [natural_of_digits Nat.toDigits_ne_nil (to_digits_are_digits n), Nat.ofDigitChars_ten_toDigits]

theorem fixed_are_digits (count : Nat) : ∀ c ∈ fixed count n, c.isDigit = true := by
  induction count generalizing n with
  | zero =>
      intro c member
      cases member
  | succ count ih =>
      intro c member
      rcases List.mem_append.mp member with earlier | last
      · exact ih (n / 10) c earlier
      · rw [List.mem_singleton.mp last, Nat.isDigit_digitChar]
        exact decide_eq_true (Nat.mod_lt n (by decide))

theorem spelled_of_fixed (count : Nat) :
    Nat.ofDigitChars 10 (fixed count n) 0 = n % 10 ^ count := by
  induction count generalizing n with
  | zero => rw [Nat.pow_zero, Nat.mod_one, fixed, Nat.ofDigitChars_nil]
  | succ count ih =>
      rw [fixed, Nat.ofDigitChars_append, ih, Nat.ofDigitChars_cons_digitChar_of_lt_ten
        (Nat.mod_lt n (by decide)), Nat.ofDigitChars_nil, Nat.pow_succ, Nat.mul_comm (10 ^ count),
        Nat.mod_mul, Nat.add_comm]

theorem natural_of_fixed {count : Nat} (positive : 0 < count) :
    natural? (fixed count n) = some (n % 10 ^ count) := by
  have present : fixed count n ≠ [] := by
    rw [← List.length_pos_iff, length_fixed]
    exact positive
  rw [natural_of_digits present (fixed_are_digits n count), spelled_of_fixed]

end Written

theorem fixed_append_zeros (places count n : Nat) :
    fixed (places + count) (n * 10 ^ count) = fixed places n ++ List.replicate count '0' := by
  induction count with
  | zero => rw [Nat.pow_zero, Nat.mul_one, List.replicate_zero, List.append_nil, Nat.add_zero]
  | succ count ih =>
      have shifted : n * 10 ^ (count + 1) = 10 * (n * 10 ^ count) := by
        rw [Nat.pow_succ, ← Nat.mul_assoc, Nat.mul_comm]
      have others : n * 10 ^ (count + 1) / 10 = n * 10 ^ count := by
        rw [shifted, Nat.mul_div_cancel_left _ (by decide)]
      have last : n * 10 ^ (count + 1) % 10 = 0 := by
        rw [shifted, Nat.mul_mod_right]
      rw [← Nat.add_assoc, fixed, others, last, ih, List.replicate_succ', ← List.append_assoc]
      rfl

theorem first_digit_positive {n : Nat} (positive : 0 < n) :
    ∃ first digits, Nat.toDigits 10 n = first :: digits ∧ '0'.toNat < first.toNat := by
  induction n using Nat.strongRecOn with
  | ind n ih =>
      by_cases single : n < 10
      · refine ⟨Nat.digitChar n, [], Nat.toDigits_of_lt_base single, ?_⟩
        rw [Nat.toNat_digitChar_of_lt_ten single]
        exact Nat.lt_add_of_pos_right positive
      · obtain ⟨first, digits, written, above⟩ := ih (n / 10) (by omega) (by omega)
        refine ⟨first, digits ++ [Nat.digitChar (n % 10)], ?_, above⟩
        rw [Nat.toDigits_of_base_le (by decide) (Nat.le_of_not_lt single), written]
        rfl

structure IsIntegerPart (digits : List Char) : Prop where
  all_digits : ∀ c ∈ digits, c.isDigit = true
  no_leading_zero :
    digits = ['0'] ∨ ∃ first more, digits = first :: more ∧ '0'.toNat < first.toNat

theorem to_digits_is_integer_part (n : Nat) : IsIntegerPart (Nat.toDigits 10 n) where
  all_digits := to_digits_are_digits n
  no_leading_zero := by
    rcases Nat.eq_zero_or_pos n with rfl | positive
    · exact Or.inl (Nat.toDigits_zero 10)
    · exact Or.inr (first_digit_positive positive)

namespace IsIntegerPart

variable {digits : List Char} (part : IsIntegerPart digits)

include part

theorem front : ∃ first more, digits = first :: more ∧ first.isDigit = true := by
  obtain ⟨allDigits, rfl | ⟨first, more, rfl, -⟩⟩ := part
  · exact ⟨'0', [], rfl, rfl⟩
  · exact ⟨first, more, rfl, allDigits first List.mem_cons_self⟩

theorem ne_nil : digits ≠ [] := by
  obtain ⟨first, more, rfl, -⟩ := part.front
  exact List.cons_ne_nil first more

end IsIntegerPart

theorem zeros_are_digits (count : Nat) : ∀ c ∈ List.replicate count '0', c.isDigit = true := by
  intro c member
  rw [(List.mem_replicate.mp member).2]
  rfl

section Runs

variable {digits rest : List Char} (allDigits : ∀ c ∈ digits, c.isDigit = true)
  (ends : ∀ c ∈ rest.head?, c.isDigit = false)

include allDigits ends

theorem take_digits_of_run : (digits ++ rest).takeWhile Char.isDigit = digits := by
  rw [List.takeWhile_append_of_pos allDigits]
  cases rest with
  | nil => exact List.append_nil _
  | cons c rest => rw [List.takeWhile_cons, ends c rfl]; exact List.append_nil _

theorem drop_digits_of_run : (digits ++ rest).dropWhile Char.isDigit = rest := by
  rw [List.dropWhile_append_of_pos allDigits]
  cases rest with
  | nil => rfl
  | cons c rest => rw [List.dropWhile_cons, ends c rfl]; rfl

end Runs

end MotorTariff.Digits
