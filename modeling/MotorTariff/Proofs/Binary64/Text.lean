import Mathlib.Tactic.SplitIfs
import MotorTariff.Binary64.Text
import MotorTariff.Proofs.Text.Digits

/-!
# Digits with a point among them

A decimal is written with its digits in order and a point where the exponent puts it, so the digits
before and after the point are one number again, and those after it are as many as the exponent
says.
-/

set_option autoImplicit false

namespace MotorTariff.Binary64

-- Powers are the core library's own, also where other libraries define some.
attribute [local instance (high)] instPowNat

open Digits

theorem zeros_after_is_integer_part {n : Nat} (zeros : Nat) (plain : n = 0 → zeros = 0) :
    IsIntegerPart (Nat.toDigits 10 n ++ List.replicate zeros '0') := by
  constructor
  · exact List.forall_mem_append.mpr ⟨to_digits_are_digits n, zeros_are_digits zeros⟩
  · rcases Nat.eq_zero_or_pos n with rfl | positive
    · rw [plain rfl]
      exact Or.inl rfl
    · obtain ⟨first, more, written, above⟩ := first_digit_positive positive
      exact Or.inr ⟨first, more ++ List.replicate zeros '0', by rw [written]; rfl, above⟩

theorem value_of_zeros_after (n zeros : Nat) :
    Nat.ofDigitChars 10 (Nat.toDigits 10 n ++ List.replicate zeros '0') 0 = n * 10 ^ zeros := by
  rw [Nat.ofDigitChars_append, Nat.ofDigitChars_ten_toDigits, Nat.ofDigitChars_replicate_zero,
    Nat.mul_comm]

theorem take_is_integer_part {n count : Nat} (positive : 0 < n) (some : 0 < count) :
    IsIntegerPart ((Nat.toDigits 10 n).take count) := by
  obtain ⟨first, more, written, above⟩ := first_digit_positive positive
  refine ⟨fun c member => to_digits_are_digits n c (List.mem_of_mem_take member),
    Or.inr ⟨first, more.take (count - 1), ?_, above⟩⟩
  rw [written, List.take_cons some]

/-- The digits of a number around a point with this many places behind it. -/
structure IsSplit (n places : Nat) (integer fraction : List Char) : Prop where
  integer_part : IsIntegerPart integer
  fraction_digits : ∀ c ∈ fraction, c.isDigit = true
  value : Nat.ofDigitChars 10 (integer ++ fraction) 0 = n
  length : fraction.length = places

/-- A point within the digits splits them; before them it stands behind a zero, and further zeros
fill the places. -/
theorem positional_split (n : Nat) {places : Nat} (some : 0 < places) :
    ∃ integer fraction, positional (Nat.toDigits 10 n) (-(places : Int)) =
      integer ++ '.' :: fraction ∧ IsSplit n places integer fraction := by
  have below : ¬ 0 ≤ -(places : Int) := by omega
  have count : (- -(places : Int)).toNat = places := by omega
  have digits := to_digits_are_digits n
  rw [positional, if_neg below]
  dsimp only
  rw [count]
  split_ifs with inside
  · have positive : 0 < n := by
      rw [Nat.pos_iff_ne_zero]
      rintro rfl
      rw [Nat.toDigits_zero, List.length_singleton] at inside
      omega
    refine ⟨_, _, rfl, take_is_integer_part positive (by omega),
      fun c member => digits c (List.mem_of_mem_drop member), ?_, ?_⟩
    · rw [List.take_append_drop, Nat.ofDigitChars_ten_toDigits]
    · rw [List.length_drop]
      omega
  · refine ⟨['0'], _, rfl, ⟨zeros_are_digits 1, Or.inl rfl⟩,
      List.forall_mem_append.mpr ⟨zeros_are_digits _, digits⟩, ?_, ?_⟩
    · rw [Nat.ofDigitChars_append, Nat.ofDigitChars_append, Nat.ofDigitChars_replicate_zero]
      exact Nat.ofDigitChars_ten_toDigits
    · rw [List.length_append, List.length_replicate]
      omega

theorem positional_front (n : Nat) (exponent : Int) :
    ∃ first more, positional (Nat.toDigits 10 n) exponent = first :: more ∧
      first.isDigit = true := by
  rcases Int.lt_or_le exponent 0 with below | nonneg
  · obtain ⟨places, rfl⟩ : ∃ places : Nat, exponent = -(places : Int) :=
      ⟨(-exponent).toNat, by omega⟩
    obtain ⟨integer, fraction, written, split⟩ := positional_split n (by omega : 0 < places)
    obtain ⟨first, more, rfl, digit⟩ := split.integer_part.front
    exact ⟨first, _, written, digit⟩
  · obtain ⟨first, more, written, digit⟩ := (to_digits_is_integer_part n).front
    rw [positional, if_pos nonneg, written]
    exact ⟨first, _, rfl, digit⟩

end MotorTariff.Binary64
