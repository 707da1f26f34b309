import MotorTariff.Proofs.Money.Stored
import MotorTariff.Proofs.Text.Digits

/-!
# Amounts as they are shown

An amount is shown in dollars and cents. The text is read here as an exact number, by its digits
alone, whatever stands behind it. What is read is the amount rounded to cents, so it misses the
amount by half a cent at most, and not at all if the amount is a whole number of cents.
-/

set_option autoImplicit false

namespace MotorTariff

namespace Decimal

theorem abs_round_sub_le (tie : Tie) (places : Nat) (amount : Decimal) :
    |(amount.round tie places).toRat - amount.toRat| ≤ 1 / 2 / 10 ^ places := by
  by_cases within : amount.scale ≤ places
  · rw [round_of_scale_le tie within, sub_self, abs_zero]
    positivity
  let dropped := 10 ^ (amount.scale - places)
  let rounded := roundDiv tie amount.mantissa dropped
  have positive : 0 < dropped := Nat.pow_pos (by decide)
  have split : (10 : Rat) ^ amount.scale = dropped * 10 ^ places := by
    simp only [dropped]
    push_cast
    rw [← pow_add, Nat.sub_add_cancel (Nat.le_of_not_le within)]
  have below : (2 : Rat) * (rounded * dropped) ≤ 2 * amount.mantissa + dropped := by
    exact_mod_cast Rounding.roundDiv_mul_le tie amount.mantissa dropped
  have above : (2 : Rat) * amount.mantissa ≤ 2 * (rounded * dropped) + dropped := by
    exact_mod_cast Rounding.le_roundDiv_mul tie amount.mantissa positive
  have magnitude : |(rounded : Rat) / 10 ^ places - amount.mantissa / 10 ^ amount.scale| ≤
      1 / 2 / 10 ^ places := by
    have positiveCast : (0 : Rat) < dropped := by exact_mod_cast positive
    have power : (0 : Rat) < 10 ^ places := by positivity
    have common : (rounded : Rat) / 10 ^ places - amount.mantissa / 10 ^ amount.scale =
        (rounded * dropped - amount.mantissa) / (dropped * 10 ^ places) := by
      rw [split]
      field_simp
    rw [common, abs_div, abs_of_pos (mul_pos positiveCast power), div_div,
      div_le_div_iff₀ (mul_pos positiveCast power) (by positivity)]
    have near : |(rounded : Rat) * dropped - amount.mantissa| * 2 ≤ dropped := by
      have bound : |(rounded : Rat) * dropped - amount.mantissa| ≤ dropped / 2 :=
        abs_le.mpr ⟨by linarith, by linarith⟩
      linarith
    linarith [mul_le_mul_of_nonneg_right near power.le]
  -- The sign is the same on both sides, so only the magnitudes differ.
  rw [to_rat_eq_quotient, signed_round tie within, scale_round tie within, to_rat_eq_quotient,
    signed]
  cases amount.negative with
  | false => simpa using magnitude
  | true =>
      rw [← abs_neg] at magnitude
      simpa [neg_div, sub_eq_add_neg, add_comm] using magnitude

theorem round_of_grid (tie : Tie) {places : Nat} {amount : Decimal} {units : Int}
    (grid : amount.toRat * 10 ^ places = units) :
    (amount.round tie places).toRat = amount.toRat := by
  have power : (0 : Rat) < 10 ^ places := by positivity
  have near := abs_round_sub_le tie places amount
  have scaled : |(amount.round tie places).toRat - amount.toRat| * 10 ^ places =
      |((amount.round tie places).signedAt places : Rat) - units| := by
    rw [← abs_of_pos power, ← abs_mul, sub_mul, grid,
      ← signed_at_eq_product _ (scale_round_le tie places amount)]
  rw [le_div_iff₀ power, scaled] at near
  have integral : |(amount.round tie places).signedAt places - units| = 0 := by
    by_contra apart
    have one : 1 ≤ |(amount.round tie places).signedAt places - units| := by
      have := abs_nonneg ((amount.round tie places).signedAt places - units)
      omega
    have oneCast : (1 : Rat) ≤ |((amount.round tie places).signedAt places : Rat) - units| := by
      exact_mod_cast one
    linarith
  have same : (amount.round tie places).signedAt places = units := by
    rwa [abs_eq_zero, sub_eq_zero] at integral
  apply mul_right_cancel₀ power.ne'
  rw [← signed_at_eq_product _ (scale_round_le tie places amount), same, grid]

end Decimal

namespace Money

section Reading

/-- A number in front of a text: digits, a point and digits. The number is exact. -/
def numberAt? (chars : List Char) : Option (Rat × List Char) := do
  let whole ← Digits.natural? (chars.takeWhile Char.isDigit)
  match chars.dropWhile Char.isDigit with
  | '.' :: rest =>
      let digits := rest.takeWhile Char.isDigit
      let part ← Digits.natural? digits
      return (whole + part / 10 ^ digits.length, rest.dropWhile Char.isDigit)
  | _ => none

/-- An amount in front of a text: a dollar sign, perhaps a minus sign, and a number. -/
def amountAt? : List Char → Option (Rat × List Char)
  | '$' :: '-' :: rest => (numberAt? rest).map fun (number, rest) => (-number, rest)
  | '$' :: rest => numberAt? rest
  | _ => none

variable {places : Nat} {rest : List Char}

theorem number_at_layout (mantissa : Nat) (positive : 0 < places)
    (ends : ∀ c ∈ rest.head?, c.isDigit = false) :
    numberAt? (Decimal.layout false mantissa places ++ rest) =
      some ((mantissa : Rat) / 10 ^ places, rest) := by
  -- The layout of a mantissa is read as the mantissa over its power of ten: the digits before the
  -- point are the quotient, and those behind it the remainder.
  let whole := mantissa / 10 ^ places
  let part := mantissa % 10 ^ places
  have written : Decimal.layout false mantissa places ++ rest =
      Nat.toDigits 10 whole ++ '.' :: (Digits.fixed places part ++ rest) := by
    simp [Decimal.layout, positive.ne', whole, part]
  have pointEnds : ∀ c ∈ ('.' :: (Digits.fixed places part ++ rest)).head?,
      c.isDigit = false := by
    rintro _ ⟨⟩
    rfl
  have wholeDigits := Digits.to_digits_are_digits whole
  have partDigits := Digits.fixed_are_digits part places
  have small : part % 10 ^ places = part := Nat.mod_mod ..
  have joined : (whole : Rat) + part / 10 ^ places = mantissa / 10 ^ places := by
    have split := Rounding.quotient_split mantissa
      (Nat.pow_pos (n := places) (by decide : 0 < 10))
    push_cast at split
    exact split.symm
  unfold numberAt?
  rw [written, Digits.take_digits_of_run wholeDigits pointEnds,
    Digits.drop_digits_of_run wholeDigits pointEnds, Digits.natural_of_to_digits]
  simp only [Option.bind_eq_bind, Option.bind_some]
  rw [Digits.take_digits_of_run partDigits ends, Digits.drop_digits_of_run partDigits ends,
    Digits.natural_of_fixed _ positive, small, Digits.length_fixed]
  simp only [Option.bind_some]
  rw [joined]
  rfl

theorem amount_of_number {chars : List Char} {number : Rat}
    (read : numberAt? chars = some (number, rest)) :
    amountAt? ('$' :: chars) = some (number, rest) := by
  unfold amountAt?
  split
  next signed same =>
    cases same
    have nothing : numberAt? ('-' :: signed) = none := rfl
    rw [nothing] at read
    cases read
  next same =>
    cases same
    exact read
  next _ other => exact absurd rfl (other chars)

theorem amount_at_layout (amount : Decimal) (within : amount.scale ≤ places) (positive : 0 < places)
    (ends : ∀ c ∈ rest.head?, c.isDigit = false) :
    amountAt? ('$' :: amount.charsWithPlaces places ++ rest) = some (amount.toRat, rest) := by
  have number := number_at_layout (amount.mantissa * 10 ^ (places - amount.scale)) positive ends
  have value : amount.toRat = (amount.signedAt places : Rat) / 10 ^ places :=
    (Decimal.signed_at_quotient amount within).symm
  rw [value, Decimal.signedAt, Decimal.signed, Decimal.charsWithPlaces]
  cases amount.negative with
  | false =>
      have plain := amount_of_number number
      push_cast at plain ⊢
      exact plain
  | true =>
      have signed : '$' :: Decimal.layout true (amount.mantissa * 10 ^ (places - amount.scale))
          places ++ rest = '$' :: '-' :: (Decimal.layout false
            (amount.mantissa * 10 ^ (places - amount.scale)) places ++ rest) := by
        simp [Decimal.layout]
      rw [signed, amountAt?, number]
      push_cast
      rw [if_pos rfl, neg_mul, neg_div]
      rfl

/-- What is shown for an amount reads as the amount rounded to cents. -/
theorem amount_at_display (money : Money) (ends : ∀ c ∈ rest.head?, c.isDigit = false) :
    amountAt? (money.display.toList ++ rest) = some (money.roundToCents.value, rest) := by
  rw [display, String.toList_ofList]
  exact amount_at_layout money.roundToCents.amount (Decimal.scale_round_le ..) (by decide) ends

end Reading

theorem abs_shown_sub_le (money : Money) : |money.roundToCents.value - money.value| ≤ 0.005 := by
  refine (Decimal.abs_round_sub_le .awayFromZero shownPlaces money.amount).trans ?_
  norm_num [shownPlaces]

theorem shown_of_whole_cents {money : Money} {cents : Int} (whole : money.value = cents / 100) :
    money.roundToCents.value = money.value := by
  have places : (10 : Rat) ^ shownPlaces = 100 := by norm_num [shownPlaces]
  have grid : money.amount.toRat * 10 ^ shownPlaces = cents := by
    rw [places, ← value, whole, div_mul_cancel₀ _ (by norm_num)]
  exact Decimal.round_of_grid .awayFromZero grid

end Money

end MotorTariff
