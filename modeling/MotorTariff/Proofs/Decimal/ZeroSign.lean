import MotorTariff.Proofs.Money.Stored

/-!
# Where a zero gets a sign

A zero and a zero with a minus sign are equal, and only what is written of them differs. No
operation gives a sign to a zero that it computes: a sum or a difference that is a signed zero is
one of its operands as it was, rounding keeps the sign of a zero that it was given, and products are
never signed zeros unless they need more places than there are by far. What is left is negation.
-/

set_option autoImplicit false

namespace MotorTariff.Decimal

def IsSignedZero (amount : Decimal) : Prop := amount.isZero = true ∧ amount.negative = true

instance (amount : Decimal) : Decidable amount.IsSignedZero := instDecidableAnd

theorem abs_to_rat (amount : Decimal) :
    |amount.toRat| = (amount.mantissa : Rat) / 10 ^ amount.scale := by
  rw [to_rat_eq_quotient, abs_div, ← Int.cast_abs, abs_signed,
    abs_of_pos (by positivity : (0 : Rat) < 10 ^ amount.scale), Int.cast_natCast]

theorem negative_iff {amount : Decimal} (some : amount.isZero = false) :
    amount.negative = true ↔ amount.toRat < 0 := by
  have positive : (0 : Rat) < 10 ^ amount.scale := by positivity
  have present : 0 < (amount.mantissa : Rat) := by
    rw [isZero, beq_eq_false_iff_ne] at some
    exact_mod_cast Nat.pos_of_ne_zero some
  have magnitude : 0 < (amount.mantissa : Rat) / 10 ^ amount.scale := div_pos present positive
  rw [to_rat_eq_quotient, signed]
  cases amount.negative with
  | false => simpa using magnitude.le
  | true => simpa [neg_div] using magnitude

theorem sign_of_round (tie : Tie) (places : Nat) (amount : Decimal) :
    (amount.round tie places).negative =
      (amount.negative && (amount.isZero || !(amount.round tie places).isZero)) := by
  by_cases within : amount.scale ≤ places
  · rw [round_of_scale_le tie within]
    cases amount.isZero <;> simp
  · rw [round, dif_neg within]
    rfl

section Operations

variable {left right result : Decimal}

theorem signed_zero_of_round {tie : Tie} {places : Nat} {amount : Decimal}
    (zero : (amount.round tie places).IsSignedZero) : amount.IsSignedZero := by
  obtain ⟨nothing, negative⟩ := zero
  rw [sign_of_round, nothing] at negative
  simpa [IsSignedZero, and_comm] using negative

theorem signed_zero_of_neg {amount : Decimal} (zero : amount.neg.IsSignedZero) :
    amount.isZero = true := zero.1

theorem fit_not_signed_zero {negative : Bool} {mantissa scale : Nat}
    (found : fit negative mantissa scale = some result) : ¬ result.IsSignedZero := by
  rintro ⟨nothing, sign⟩
  rw [sign_of_fit_from found, nothing] at sign
  simp at sign

theorem signed_zero_of_add (added : left.add? right = some result)
    (zero : result.IsSignedZero) : right.IsSignedZero := by
  unfold add? at added
  split_ifs at added with leftZero rightZero
  · cases added
    exact zero
  · cases added
    exact absurd zero.1 leftZero
  · exact absurd zero (fit_not_signed_zero added)

theorem signed_zero_of_sub (subtracted : left.sub? right = some result)
    (zero : result.IsSignedZero) : right.IsSignedZero := by
  unfold sub? at subtracted
  split_ifs at subtracted with leftZero rightZero rightZero
  · cases subtracted
    exact zero
  · cases subtracted
    exact absurd (signed_zero_of_neg zero) rightZero
  · cases subtracted
    exact absurd zero.1 leftZero
  · exact absurd zero (fit_not_signed_zero subtracted)

theorem nearest_ne_zero {x : Rat} (visible : 1 ≤ |x| * 10 ^ 28) : nearest x ≠ 0 := by
  have unit : nearest (1 / 10 ^ 28) = 1 / 10 ^ 28 :=
    nearest_of_grid (n := 1) le_rfl (by norm_num) (by norm_num)
  have reaches : (1 : Rat) / 10 ^ 28 ≤ |x| := by
    rwa [div_le_iff₀ (by positivity)]
  have positive : 0 < nearest |x| := by
    have least := nearest_mono reaches
    rw [unit] at least
    exact lt_of_lt_of_le (by positivity) least
  rcases abs_choice x with same | mirrored
  · rw [same] at positive
    exact positive.ne'
  · rw [mirrored, nearest_neg] at positive
    exact (neg_pos.mp positive).ne

/-- With a mantissa past the short ones and at most 37 fraction digits, a product is at least a unit
of the last place there can be. -/
theorem wide_product_visible (scales : left.scale + right.scale ≤ 37)
    (nonzero : ¬ (left.isZero = true ∨ right.isZero = true))
    (wide : ¬ (left.mantissa < shortBound ∧ right.mantissa < shortBound)) :
    1 ≤ |left.toRat * right.toRat| * 10 ^ 28 := by
  obtain ⟨leftSome, rightSome⟩ := not_or.mp nonzero
  have leftPositive : 0 < left.mantissa := by
    rw [isZero, beq_iff_eq] at leftSome
    exact Nat.pos_of_ne_zero leftSome
  have rightPositive : 0 < right.mantissa := by
    rw [isZero, beq_iff_eq] at rightSome
    exact Nat.pos_of_ne_zero rightSome
  have mantissas : shortBound ≤ left.mantissa * right.mantissa := by
    rcases not_and_or.mp wide with leftWide | rightWide
    · exact (not_lt.mp leftWide).trans (Nat.le_mul_of_pos_right _ rightPositive)
    · exact (not_lt.mp rightWide).trans (Nat.le_mul_of_pos_left _ leftPositive)
  have mantissasCast : (shortBound : Rat) ≤ left.mantissa * right.mantissa := by
    exact_mod_cast mantissas
  have power : (10 : Rat) ^ (left.scale + right.scale) ≤ 10 ^ 37 :=
    pow_le_pow_right₀ (by norm_num) scales
  rw [abs_mul, abs_to_rat, abs_to_rat, div_mul_div_comm, ← pow_add]
  calc
    (1 : Rat) ≤ shortBound / 10 ^ 37 * 10 ^ 28 := by norm_num [shortBound]
    _ ≤ left.mantissa * right.mantissa / 10 ^ (left.scale + right.scale) * 10 ^ 28 :=
      mul_le_mul_of_nonneg_right
        (div_le_div₀ (by positivity) mantissasCast (by positivity) power) (by positivity)

/-- A product keeps the sign of its factors even if it rounds to zero, but amounts with the kept
places have no product that does. -/
theorem mul_not_signed_zero (scales : left.scale + right.scale ≤ 37)
    (multiplied : left.mul? right = some result) : ¬ result.IsSignedZero := by
  have value := (mul_rounds_once left right).value multiplied
  unfold mul? at multiplied
  split_ifs at multiplied with vanishes short tiny
  · cases multiplied
    decide
  · cases multiplied
    decide
  · exact fit_not_signed_zero multiplied
  · rintro ⟨nothing, -⟩
    have visible := wide_product_visible scales (by simpa using vanishes) short
    rw [(is_zero_iff_to_rat result).mp nothing] at value
    exact nearest_ne_zero visible value.symm

end Operations

end MotorTariff.Decimal
