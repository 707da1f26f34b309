import Mathlib.Data.Rat.Cast.Order
import Mathlib.Tactic.Positivity
import MotorTariff.Decimal.Basic

/-!
# What a decimal denotes

A decimal is written with a scale and may carry a sign on a zero; the rational number below forgets
both. Comparison of decimals is comparison of these numbers. A sum whose mantissa fits at the larger
of the two scales is exact: nothing is said here about sums that have to drop digits.
-/

set_option autoImplicit false

namespace MotorTariff.Decimal

theorem to_rat_eq_quotient (amount : Decimal) :
    amount.toRat = (amount.signed : Rat) / 10 ^ amount.scale := by
  rw [toRat, Rat.mkRat_eq_div]
  push_cast
  rfl

theorem signed_at_quotient (amount : Decimal) {scale : Nat} (within : amount.scale ≤ scale) :
    (amount.signedAt scale : Rat) / 10 ^ scale = amount.toRat := by
  have nonzero : (10 : Rat) ^ (scale - amount.scale) ≠ 0 := by positivity
  have split : (10 : Rat) ^ scale = 10 ^ (scale - amount.scale) * 10 ^ amount.scale := by
    rw [← pow_add, Nat.sub_add_cancel within]
  rw [to_rat_eq_quotient, signedAt, split]
  push_cast
  rw [mul_comm (amount.signed : Rat), mul_div_mul_left _ _ nonzero]

theorem signed_at_eq_product (amount : Decimal) {scale : Nat} (within : amount.scale ≤ scale) :
    (amount.signedAt scale : Rat) = amount.toRat * 10 ^ scale := by
  have nonzero : (10 : Rat) ^ scale ≠ 0 := by positivity
  rw [← signed_at_quotient amount within, div_mul_cancel₀ _ nonzero]

theorem is_zero_iff_signed (amount : Decimal) : amount.isZero = true ↔ amount.signed = 0 := by
  unfold isZero signed
  split_ifs <;> simp

theorem is_zero_iff_to_rat (amount : Decimal) : amount.isZero = true ↔ amount.toRat = 0 := by
  have nonzero : (10 : Rat) ^ amount.scale ≠ 0 := by positivity
  rw [is_zero_iff_signed, to_rat_eq_quotient, div_eq_zero_iff]
  simp [nonzero]

@[simp] theorem to_rat_zero : zero.toRat = 0 := by
  exact (is_zero_iff_to_rat zero).mp rfl

theorem same_amount_iff (left right : Decimal) :
    left.sameAmount right = true ↔ left.toRat = right.toRat := by
  -- The amounts compared are the rational numbers: both sides are brought to one scale, where the
  -- order of the mantissas is the order of the quotients.
  have positive : (0 : Rat) < 10 ^ max left.scale right.scale := by positivity
  unfold sameAmount Decimal.compare
  rw [beq_iff_eq, Std.compare_eq_iff_eq, ← Int.cast_inj (α := Rat),
    signed_at_eq_product left (Nat.le_max_left ..),
    signed_at_eq_product right (Nat.le_max_right ..)]
  exact mul_left_inj' positive.ne'

theorem parts_of_bounds (negative : Bool) {mantissa scale : Nat}
    (small : mantissa < 2 ^ 96) (places : scale ≤ 28) :
    ∃ amount, ofParts? negative mantissa scale = some amount := by
  unfold ofParts?
  rw [dif_pos ⟨small, places⟩]
  exact ⟨_, rfl⟩

theorem signed_of_parts {negative : Bool} {mantissa scale : Nat} {amount : Decimal}
    (parts : ofParts? negative mantissa scale = some amount) :
    amount.signed = (if negative then -(mantissa : Int) else mantissa) ∧ amount.scale = scale := by
  unfold ofParts? at parts
  split_ifs at parts
  cases parts
  cases negative <;> by_cases zero : mantissa = 0 <;> simp [signed, zero]

theorem fit_of_mantissa_lt {negative : Bool} {mantissa scale : Nat}
    (small : mantissa < 2 ^ 96) (places : scale ≤ 28) :
    fit negative mantissa scale = ofParts? negative mantissa scale := by
  obtain ⟨amount, parts⟩ := parts_of_bounds negative small places
  rw [fit, Nat.min_eq_left places]
  cases scale with
  | zero => simp [fitFrom, Rounding.roundDiv_one]
  | succ kept => simp [fitFrom, Rounding.roundDiv_one, parts]

theorem fit_signed_exact {signed : Int} {scale : Nat}
    (small : signed.natAbs < 2 ^ 96) (places : scale ≤ 28) :
    ∃ amount, fitSigned signed scale = some amount ∧ amount.signed = signed ∧
      amount.scale = scale := by
  rw [fitSigned, fit_of_mantissa_lt small places]
  obtain ⟨amount, parts⟩ := parts_of_bounds (decide (signed < 0)) small places
  obtain ⟨value, written⟩ := signed_of_parts parts
  refine ⟨amount, parts, ?_, written⟩
  rw [value]
  by_cases below : signed < 0
  · simp only [below, decide_true, if_true]
    omega
  · simp only [below, decide_false, Bool.false_eq_true, if_false]
    omega

/-- A sum is exact if it fits at the larger scale. A zero operand gives back the other operand as it
is written, so this case needs no bound. -/
theorem add_exact {left right : Decimal}
    (fits : |left.toRat + right.toRat| * 10 ^ max left.scale right.scale < 2 ^ 96) :
    ∃ sum, left.add? right = some sum ∧ sum.toRat = left.toRat + right.toRat ∧
      sum.scale ≤ max left.scale right.scale := by
  by_cases leftZero : left.isZero = true
  · refine ⟨right, by simp [add?, leftZero], ?_, Nat.le_max_right ..⟩
    rw [(is_zero_iff_to_rat left).mp leftZero, zero_add]
  by_cases rightZero : right.isZero = true
  · refine ⟨left, by simp [add?, leftZero, rightZero], ?_, Nat.le_max_left ..⟩
    rw [(is_zero_iff_to_rat right).mp rightZero, add_zero]
  -- Both operands are brought to the larger scale, where the sum is a sum of integers.
  let scale := max left.scale right.scale
  have positive : (0 : Rat) < 10 ^ scale := by positivity
  have mantissa : ((left.signedAt scale + right.signedAt scale : Int) : Rat) =
      (left.toRat + right.toRat) * 10 ^ scale := by
    push_cast
    rw [signed_at_eq_product left (Nat.le_max_left ..),
      signed_at_eq_product right (Nat.le_max_right ..), add_mul]
  have small : (left.signedAt scale + right.signedAt scale).natAbs < 2 ^ 96 := by
    have bounded : |((left.signedAt scale + right.signedAt scale : Int) : Rat)| < 2 ^ 96 := by
      rw [mantissa, abs_mul, abs_of_pos positive]
      exact fits
    have integral : |left.signedAt scale + right.signedAt scale| < 2 ^ 96 := by
      exact_mod_cast bounded
    rw [Int.abs_eq_natAbs] at integral
    exact_mod_cast integral
  obtain ⟨sum, fitted, value, written⟩ :=
    fit_signed_exact small (Nat.max_le.mpr ⟨left.scale_le, right.scale_le⟩)
  refine ⟨sum, by simpa [add?, leftZero, rightZero] using fitted, ?_, written.le⟩
  rw [to_rat_eq_quotient, value, written, mantissa, mul_div_cancel_right₀ _ positive.ne']

end MotorTariff.Decimal
