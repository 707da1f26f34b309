import MotorTariff.Proofs.Binary64.Text
import MotorTariff.Proofs.Decimal.Value

/-!
# Reading a decimal back

Digits with an exponent, written without one, are read back as that decimal: the point is put where
the exponent says, and the digits after it are counted as they are read. A decimal written with more
places than its own is read back as the same amount, even where the padding does not fit: the reader
gives up the zeros that it has no room for, and zeros are rounded down. The text of a decimal says
everything about it, and reading it back loses the sign of a zero only.
-/

set_option autoImplicit false

namespace MotorTariff.Decimal

-- Powers are the core library's own, also where other libraries define some.
attribute [local instance (high)] instPowNat

open Binary64
open Digits (IsIntegerPart)

namespace Reading

theorem unsigned_digits (digits : List Char) (allDigits : ∀ c ∈ digits, c.isDigit = true)
    {started : Bool} {mantissa : Nat} {point : Option Nat} (rest : List Char)
    (fits : Nat.ofDigitChars 10 digits mantissa < 2 ^ 96)
    (room : ∀ places ∈ point, places + digits.length ≤ 28) :
    unsigned started mantissa point (digits ++ rest) =
      unsigned (started || !digits.isEmpty) (Nat.ofDigitChars 10 digits mantissa)
        (point.map (· + digits.length)) rest := by
  induction digits generalizing started mantissa point with
  | nil => cases started <;> cases point <;> rfl
  | cons c digits ih =>
      have digit := allDigits c List.mem_cons_self
      have extended : mantissa * 10 + (c.toNat - '0'.toNat) =
          10 * mantissa + (c.toNat - '0'.toNat) := by
        rw [Nat.mul_comm]
      have unfilled : point ≠ some 28 := by
        rintro rfl
        have := room 28 rfl
        simp only [List.length_cons] at this
        omega
      rw [Nat.ofDigitChars_cons] at fits ⊢
      have below := Nat.lt_of_le_of_lt (Digits.le_of_digit_chars digits _) fits
      have later : ∀ places ∈ point.map (· + 1), places + digits.length ≤ 28 := by
        intro places member
        obtain ⟨before, known, rfl⟩ := Option.map_eq_some_iff.mp member
        have := room before known
        simp only [List.length_cons] at this
        omega
      have counted : (point.map (· + 1)).map (· + digits.length) =
          point.map (· + (c :: digits).length) := by
        cases point with
        | none => rfl
        | some places => simp [Nat.add_assoc, Nat.add_comm 1]
      rw [List.cons_append, unsigned.eq_def]
      simp only [if_neg unfilled, Digits.value_of_digit digit, extended, if_pos below]
      rw [ih (fun other member => allDigits other (List.mem_cons_of_mem _ member)) fits later,
        counted]
      simp

theorem unsigned_integer {integer : List Char} (part : IsIntegerPart integer)
    (fits : Nat.ofDigitChars 10 integer 0 < 2 ^ 96) (rest : List Char) :
    unsigned false 0 none (integer ++ rest) =
      unsigned true (Nat.ofDigitChars 10 integer 0) none rest := by
  have some : integer.isEmpty = false := by simpa using part.ne_nil
  rw [unsigned_digits integer part.all_digits rest fits (by simp), some]
  rfl

/-- The digits before and after a point are one number, and those after it are its places. -/
theorem unsigned_split {n places : Nat} {integer fraction : List Char}
    (split : IsSplit n places integer fraction) (fits : n < 2 ^ 96) (few : places ≤ 28)
    (rest : List Char) :
    unsigned false 0 none (integer ++ '.' :: (fraction ++ rest)) =
      unsigned true n (some places) rest := by
  obtain ⟨part, digits, value, length⟩ := split
  rw [← value, Nat.ofDigitChars_append] at fits
  have before := Nat.lt_of_le_of_lt (Digits.le_of_digit_chars fraction _) fits
  have point : ∀ mantissa, unsigned true mantissa none ('.' :: (fraction ++ rest)) =
      unsigned true mantissa (some 0) (fraction ++ rest) := by
    intro mantissa
    rfl
  rw [unsigned_integer part before, point,
    unsigned_digits fraction digits rest fits (by simp [length, few]), ← Nat.ofDigitChars_append,
    value, length]
  simp

theorem unsigned_positional {n : Nat} {exponent : Int} (places : -28 ≤ exponent)
    (plain : n = 0 → exponent.toNat = 0) (fits : n * 10 ^ exponent.toNat < 2 ^ 96) :
    unsigned false 0 none (positional (Nat.toDigits 10 n) exponent) =
      some (n * 10 ^ exponent.toNat, (-exponent).toNat) := by
  rcases Int.lt_or_le exponent 0 with below | nonneg
  · obtain ⟨count, rfl⟩ : ∃ count : Nat, exponent = -(count : Int) :=
      ⟨(-exponent).toNat, by omega⟩
    have whole : (-(count : Int)).toNat = 0 := by omega
    have length : (- -(count : Int)).toNat = count := by omega
    obtain ⟨integer, fraction, written, split⟩ := positional_split n (by omega : 0 < count)
    rw [whole, Nat.pow_zero, Nat.mul_one] at fits ⊢
    have taken := unsigned_split split fits (by omega) []
    rw [List.append_nil] at taken
    rw [written, taken, length]
    rfl
  · have none : (-exponent).toNat = 0 := by omega
    have value := value_of_zeros_after n exponent.toNat
    have taken := unsigned_integer (zeros_after_is_integer_part exponent.toNat plain)
      (value.symm ▸ fits) []
    rw [List.append_nil, value] at taken
    rw [positional, if_pos nonneg, none, taken]
    rfl

theorem sign_of_front (negative : Bool) {first : Char} (more : List Char)
    (digit : first.isDigit = true) :
    sign ((if negative then ['-'] else []) ++ first :: more) = (negative, first :: more) := by
  cases negative with
  | true => rfl
  | false =>
      rw [if_neg (by decide), List.nil_append]
      unfold sign
      split
      next same => cases same; cases digit
      next same => cases same; cases digit
      next => rfl

theorem plain_positional (negative : Bool) {n : Nat} {exponent : Int} (places : -28 ≤ exponent)
    (whole : n = 0 → exponent.toNat = 0) (fits : n * 10 ^ exponent.toNat < 2 ^ 96) :
    plain ((if negative then ['-'] else []) ++ positional (Nat.toDigits 10 n) exponent) =
      ofParts? negative (n * 10 ^ exponent.toNat) (-exponent).toNat := by
  obtain ⟨first, more, written, digit⟩ := positional_front n exponent
  have unsigned := unsigned_positional places whole fits
  rw [written] at unsigned ⊢
  rw [plain, sign_of_front negative more digit]
  simp only [unsigned, Option.bind_eq_bind, Option.bind_some]

section Padding

variable {mantissa places : Nat}

theorem values_of_zeros (count : Nat) :
    (List.replicate count '0').mapM Digits.value? = some (List.replicate count 0) := by
  induction count with
  | zero => rfl
  | succ count ih =>
      rw [List.replicate_succ, List.mapM_cons, ih]
      rfl

theorem settle_zeros (mantissa places count : Nat) :
    settle mantissa places (List.replicate (count + 1) '0') = some (mantissa, places) := by
  have digits : (List.replicate (count + 1) '0').filter (!isSeparator ·) =
      List.replicate (count + 1) '0' := List.filter_replicate_of_pos rfl
  have front : (List.replicate (count + 1) '0').head?.any isSeparator = false := rfl
  have deciding : deciding? mantissa (List.replicate (count + 1) '0') = some 0 := by
    rw [deciding?, digits, values_of_zeros, front, Bool.and_false]
    rfl
  simp [settle, deciding]

theorem unsigned_zeros (count : Nat) (fits : mantissa < 2 ^ 96) (few : places ≤ 28) :
    ∃ kept, mantissa * 10 ^ kept < 2 ^ 96 ∧ places + kept ≤ 28 ∧
      unsigned true mantissa (some places) (List.replicate count '0') =
        some (mantissa * 10 ^ kept, places + kept) := by
  induction count generalizing mantissa places with
  | zero => exact ⟨0, by simpa using fits, few, by simp [unsigned]⟩
  | succ count ih =>
      have settled := settle_zeros mantissa places count
      by_cases filled : places = 28
      · subst filled
        refine ⟨0, by simpa using fits, le_rfl, ?_⟩
        rw [List.replicate_succ, unsigned, if_pos rfl, ← List.replicate_succ, settled]
        simp
      have zero : Digits.value? '0' = some 0 := rfl
      have unfilled : (some places : Option Nat) ≠ some 28 := by simpa using filled
      by_cases room : mantissa * 10 < 2 ^ 96
      · obtain ⟨kept, keptFits, keptFew, read⟩ := ih room (by omega : places + 1 ≤ 28)
        have power : mantissa * 10 ^ (kept + 1) = mantissa * 10 * 10 ^ kept := by
          rw [Nat.pow_succ, Nat.mul_comm (10 ^ kept), Nat.mul_assoc]
        refine ⟨kept + 1, power ▸ keptFits, by omega, ?_⟩
        rw [List.replicate_succ, unsigned, if_neg unfilled, zero]
        simp only [Nat.add_zero, if_pos room, Option.map_some]
        rw [read, power, Nat.add_assoc, Nat.add_comm 1]
      · refine ⟨0, by simpa using fits, few, ?_⟩
        rw [List.replicate_succ, unsigned, if_neg unfilled, zero]
        simp only [Nat.add_zero, if_neg room]
        rw [← List.replicate_succ, settled]
        simp

theorem layout_split (mantissa places : Nat) :
    IsSplit mantissa places (Nat.toDigits 10 (mantissa / 10 ^ places))
      (Digits.fixed places (mantissa % 10 ^ places)) where
  integer_part := Digits.to_digits_is_integer_part _
  fraction_digits := Digits.fixed_are_digits _ places
  value := by
    rw [Nat.ofDigitChars_append, Nat.ofDigitChars_eq_ofDigitChars_zero,
      Nat.ofDigitChars_ten_toDigits, Digits.spelled_of_fixed, Digits.length_fixed, Nat.mod_mod,
      Nat.div_add_mod]
  length := Digits.length_fixed ..

theorem layout_padded (mantissa places count : Nat) (some : 0 < places + count) :
    layout false (mantissa * 10 ^ count) (places + count) =
      Nat.toDigits 10 (mantissa / 10 ^ places) ++
        '.' :: (Digits.fixed places (mantissa % 10 ^ places) ++ List.replicate count '0') := by
  have power : 10 ^ (places + count) = 10 ^ places * 10 ^ count := Nat.pow_add ..
  have positive : 0 < 10 ^ count := Nat.pow_pos (by decide)
  have part : mantissa * 10 ^ count % 10 ^ (places + count) =
      mantissa % 10 ^ places * 10 ^ count := by
    rw [power, Nat.mul_mod_mul_right]
  have whole : mantissa * 10 ^ count / 10 ^ (places + count) = mantissa / 10 ^ places := by
    rw [power, Nat.mul_div_mul_right _ _ positive]
  rw [layout, part, whole, Digits.fixed_append_zeros, if_neg some.ne', if_neg (by decide)]
  rfl

theorem unsigned_layout (fits : mantissa < 2 ^ 96) (few : places ≤ 28) :
    unsigned false 0 none (layout false mantissa places) = some (mantissa, places) := by
  rcases Nat.eq_zero_or_pos places with rfl | some
  · have read := unsigned_integer (Digits.to_digits_is_integer_part mantissa)
      (by rw [Nat.ofDigitChars_ten_toDigits]; exact fits) []
    rw [List.append_nil, Nat.ofDigitChars_ten_toDigits] at read
    simp only [layout, Nat.pow_zero, Nat.div_one, if_pos, List.append_nil,
      if_neg Bool.false_ne_true, List.nil_append]
    rw [read]
    rfl
  · have read := unsigned_split (layout_split mantissa places) fits few []
    rw [List.append_nil] at read
    rw [layout, if_neg Bool.false_ne_true, if_neg some.ne', List.nil_append, read]
    rfl

theorem unsigned_padded (count : Nat) (fits : mantissa < 2 ^ 96) (few : places ≤ 28) :
    ∃ kept, mantissa * 10 ^ kept < 2 ^ 96 ∧ places + kept ≤ 28 ∧
      unsigned false 0 none (layout false (mantissa * 10 ^ count) (places + count)) =
        some (mantissa * 10 ^ kept, places + kept) := by
  rcases Nat.eq_zero_or_pos (places + count) with none | some
  · obtain ⟨rfl, rfl⟩ : places = 0 ∧ count = 0 := by omega
    have read := unsigned_layout fits few
    exact ⟨0, by simpa using fits, by decide, by simpa using read⟩
  · obtain ⟨kept, keptFits, keptFew, read⟩ := unsigned_zeros count fits few
    refine ⟨kept, keptFits, keptFew, ?_⟩
    rw [layout_padded mantissa places count some,
      unsigned_split (layout_split mantissa places) fits few, read]

end Padding

end Reading

theorem layout_front (mantissa places : Nat) :
    ∃ first more, layout false mantissa places = first :: more ∧ first.isDigit = true := by
  obtain ⟨first, more, written, digit⟩ :=
    (Digits.to_digits_is_integer_part (mantissa / 10 ^ places)).front
  let fraction := if places = 0 then [] else '.' :: Digits.fixed places (mantissa % 10 ^ places)
  refine ⟨first, more ++ fraction, ?_, digit⟩
  rw [layout, written]
  rfl

theorem layout_signed (negative : Bool) (mantissa places : Nat) :
    layout negative mantissa places =
      (if negative then ['-'] else []) ++ layout false mantissa places := by
  simp [layout]

theorem read_layout (negative : Bool) {mantissa places kept scale : Nat}
    (unsigned : Reading.unsigned false 0 none (layout false mantissa places) = some (kept, scale))
    (fits : kept < 2 ^ 96) (few : scale ≤ 28) :
    ofChars? (layout negative mantissa places) = ofParts? negative kept scale := by
  obtain ⟨first, more, written, digit⟩ := layout_front mantissa places
  obtain ⟨read, parts⟩ := parts_of_bounds negative fits few
  have plain : Reading.plain (layout negative mantissa places) = some read := by
    rw [layout_signed, written, Reading.plain, Reading.sign_of_front negative more digit, ← written]
    simp only [unsigned, Option.bind_eq_bind, Option.bind_some]
    exact parts
  rw [ofChars?, plain, Option.some_or, parts]

/-- However many places a decimal is written with, no fewer than its own, it is read back as the
same amount. -/
theorem read_with_places (amount : Decimal) {places : Nat} (within : amount.scale ≤ places) :
    ∃ read, ofChars? (amount.charsWithPlaces places) = some read ∧ read.toRat = amount.toRat := by
  obtain ⟨count, rfl⟩ := Nat.exists_eq_add_of_le within
  obtain ⟨kept, fits, few, unsigned⟩ :=
    Reading.unsigned_padded count amount.mantissa_lt amount.scale_le
  obtain ⟨read, parts⟩ := parts_of_bounds amount.negative fits few
  have taken := read_layout amount.negative unsigned fits few
  refine ⟨read, ?_, ?_⟩
  · rw [charsWithPlaces, Nat.add_sub_cancel_left, taken, parts]
  obtain ⟨signed, scale⟩ := signed_of_parts parts
  have grid : amount.signedAt (amount.scale + kept) = read.signed := by
    rw [signedAt, Nat.add_sub_cancel_left, signed, Decimal.signed]
    cases amount.negative <;> simp
  rw [to_rat_eq_quotient, ← grid, scale, signed_at_quotient amount (Nat.le_add_right ..)]

section Own

variable (amount : Decimal)

/-- The text of a decimal is read back with the same places, and a zero without its sign. -/
theorem read_own_chars :
    ofChars? amount.chars = ofParts? amount.negative amount.mantissa amount.scale := by
  have unsigned := Reading.unsigned_layout amount.mantissa_lt amount.scale_le
  exact read_layout amount.negative unsigned amount.mantissa_lt amount.scale_le

theorem read_own_amount :
    ∃ read, ofChars? amount.chars = some read ∧ read.toRat = amount.toRat ∧
      read.scale = amount.scale := by
  obtain ⟨read, parts⟩ := parts_of_bounds amount.negative amount.mantissa_lt amount.scale_le
  obtain ⟨signed, scale⟩ := signed_of_parts parts
  refine ⟨read, amount.read_own_chars.trans parts, ?_, scale⟩
  rw [to_rat_eq_quotient, to_rat_eq_quotient, signed, scale, Decimal.signed]

/-- The text says everything about a decimal, the sign of a zero included. -/
theorem eq_of_chars {left right : Decimal} (same : left.chars = right.chars) : left = right := by
  obtain ⟨first, more, leftWritten, leftDigit⟩ := layout_front left.mantissa left.scale
  obtain ⟨other, others, rightWritten, rightDigit⟩ := layout_front right.mantissa right.scale
  have signs := congrArg Reading.sign same
  rw [chars, chars, layout_signed left.negative, layout_signed right.negative, leftWritten,
    rightWritten, Reading.sign_of_front _ more leftDigit,
    Reading.sign_of_front _ others rightDigit, ← leftWritten, ← rightWritten] at signs
  obtain ⟨negative, digits⟩ := Prod.mk.inj signs
  have unsigned := congrArg (Reading.unsigned false 0 none) digits
  rw [Reading.unsigned_layout left.mantissa_lt left.scale_le,
    Reading.unsigned_layout right.mantissa_lt right.scale_le] at unsigned
  obtain ⟨mantissa, scale⟩ := Prod.mk.inj (Option.some.inj unsigned)
  cases left
  cases right
  rw [Decimal.mk.injEq]
  exact ⟨negative, mantissa, scale⟩

theorem mem_chars {c : Char} (written : c ∈ amount.chars) :
    c = '-' ∨ c = '.' ∨ c.isDigit = true := by
  have digits := Digits.to_digits_are_digits (amount.mantissa / 10 ^ amount.scale)
  have fraction :=
    Digits.fixed_are_digits (amount.mantissa % 10 ^ amount.scale) amount.scale
  unfold chars layout at written
  rw [List.mem_append, List.mem_append] at written
  rcases written with (sign | integer) | places
  · left
    split_ifs at sign
    · exact List.mem_singleton.mp sign
    · cases sign
  · exact Or.inr (Or.inr (digits c integer))
  · split_ifs at places
    · cases places
    · rcases List.mem_cons.mp places with point | digit
      · exact Or.inr (Or.inl point)
      · exact Or.inr (Or.inr (fraction c digit))

end Own

end MotorTariff.Decimal
