import MotorTariff.Proofs.Json.NumberSpelling
import MotorTariff.Proofs.Json.RoundTrip

/-!
# Integers out of range

An integer is written in as many digits as it takes. Its reader keeps the digits up to a limit and
counts those after them, and with one of these it makes a double of the number. So an integer that
is read is the one that was written: nothing is cut off it, and nothing wraps around.
-/

set_option autoImplicit false

namespace MotorTariff.Json

-- Powers are the core library's own, also where other libraries define some.
attribute [local instance (high)] instPowNat

namespace Number

variable {rest : Bytes}

theorem after_long_integer_of_ends (ends : Ends rest) (negative : Bool) (significand : Nat)
    {dropped : Nat} (some : dropped ≠ 0) :
    afterInteger negative significand dropped rest = float negative significand dropped rest := by
  cases rest with
  | nil => simp [afterInteger, some]
  | cons b rest =>
      obtain ⟨-, notPoint, notExponent⟩ := ends b rfl
      simp [afterInteger, notPoint, notExponent, some]

/-- A number too long for its digits to be kept is a double or nothing. -/
theorem read_long_digits (negative : Bool) {n : Nat} (long : significandLimit ≤ n)
    (ends : Ends rest) :
    ∃ significand dropped, read negative (Utf8.encode (Nat.toDigits 10 n) ++ rest) =
      float negative significand dropped rest := by
  have stops := starts_with_digit_of_ends ends
  have digits := Digits.to_digits_are_digits n
  have spelled : Nat.ofDigitChars 10 (Nat.toDigits 10 n) 0 = n := Nat.ofDigitChars_ten_toDigits
  obtain ⟨first, more, written, above⟩ :=
    Digits.first_digit_positive (Nat.lt_of_lt_of_le (by decide) long)
  rw [written] at digits spelled ⊢
  rw [List.forall_mem_cons] at digits
  rw [Nat.ofDigitChars_cons, Nat.mul_zero, Nat.zero_add] at spelled
  have single : first.toNat - '0'.toNat < significandLimit := by
    have bounds := digit_bounds digits.1
    unfold significandLimit
    omega
  -- The first digit is no zero, so further digits are taken until one of them does not fit.
  obtain ⟨lead, leading⟩ := Nat.exists_eq_succ_of_ne_zero (Nat.sub_ne_zero_of_lt above)
  obtain ⟨significand, taken, remaining, stopped, some, left⟩ :=
    take_digits_until_full more digits.2 single (spelled.symm ▸ long) 0 rest
  have dropped := drop_written_digits left stops 0
  have counted : 0 + remaining.length ≠ 0 := by
    rw [Nat.zero_add]
    exact Nat.ne_of_gt (List.length_pos_iff.mpr some)
  refine ⟨significand, (0 + remaining.length : Nat), ?_⟩
  rw [leading] at stopped
  rw [Utf8.encode_cons, encode_digit digits.1, List.singleton_append, List.cons_append, read,
    digit_of_letter digits.1, leading]
  simp only [stopped, dropped]
  exact after_long_integer_of_ends ends negative significand counted

theorem integer_of_read {n value : Int} {left : Bytes} (ends : Ends rest)
    (taken : read (decide (n < 0)) (Utf8.encode (Nat.toDigits 10 n.natAbs) ++ rest) =
      .ok (.integer value, left)) : value = n := by
  rcases Nat.lt_or_ge n.natAbs significandLimit with short | long
  · rw [read_digits _ short ends] at taken
    obtain ⟨same, -⟩ := Prod.mk.inj (Except.ok.inj taken)
    unfold integer at same
    split_ifs at same with negative small
    · have below := of_decide_eq_true negative
      cases same
      omega
    · have above : ¬ n < 0 := fun below => negative (decide_eq_true below)
      cases same
      omega
  · obtain ⟨significand, dropped, double⟩ := read_long_digits (decide (n < 0)) long ends
    rw [double] at taken
    unfold float at taken
    split at taken
    · cases taken
    · cases taken

end Number

namespace Form

theorem narrow_value {numeral : Numeral} {after rest : Bytes} {value : Int32}
    (narrowed : Int32Form.narrow numeral after = .ok (value, rest)) :
    numeral = .integer value.toInt := by
  unfold Int32Form.narrow at narrowed
  split at narrowed
  next whole =>
    split_ifs at narrowed with within
    cases narrowed
    rw [Int32.toInt_ofInt_of_le within.1 within.2]
  next => cases narrowed

theorem int32_value_of_chars {n : Int} {rest left : Bytes} {value : Int32} (ends : Ends rest)
    (taken : Int32Form.read (Utf8.encode (integerChars n) ++ rest) = .ok (value, left)) :
    value.toInt = n := by
  rw [int32_read_of_chars] at taken
  obtain ⟨⟨numeral, after⟩, read, narrowed⟩ := bind_ok_iff.mp taken
  rw [narrow_value narrowed] at read
  exact Number.integer_of_read ends read

end Form

end MotorTariff.Json
